/-
Module: DataVault.Ai.Conversations
Layer: Model
Purpose: `chat` and `delete` of ai/ai.service.ts with everything they call there. A transaction is one action; what the
  model, its tools and the drivers answer is up to the environment.
Imports: DataVault.Ai.Entities, DataVault.Auth.Entities, DataVault.Control.Fallible,
  DataVault.Interleaving.Contract, DataVault.Store.Listing
Trusted boundary: human-reviewed spec
Main exports: AiWorld, AiAct, AiJob, aiMachine
-/
import DataVault.Ai.Entities
import DataVault.Auth.Entities
import DataVault.Control.Fallible
import DataVault.Interleaving.Contract
import DataVault.Store.Listing

namespace DataVault.Ai

open DataVault.Auth (Fate)
open DataVault.Control DataVault.Interleaving DataVault.Store DataVault.Users

/-- The database with a clock. `requests` records which run a request id was drawn by, `acquired` the request ids that
have had a conversation; only the randomness of new request ids depends on the first one and nothing on the other. -/
structure AiWorld where
  clock : Int
  conversations : List AiConversation := []
  messages : List AiMessage := []
  usage : List AiUsage := []
  nextId : Nat := 0
  requests : List (Nat × Nat) := []
  acquired : List Nat := []

/-! ### The writes -/

/-- The conversation with this id belongs to the actor. -/
def AiConversation.ownedBy (conversation : AiConversation) (actor : AuthenticatedUser) (id : Nat) : Bool :=
  conversation.id = id && conversation.companyId = actor.companyId && conversation.userId = actor.id

/-- No request works on the conversation, or its lease has expired. -/
def AiConversation.free (conversation : AiConversation) (now : Int) : Bool :=
  conversation.activeRequestId.isNone || conversation.activeRequestExpiresAt.any (· ≤ now)

/-- The conversation has room for an exchange. -/
def AiConversation.hasRoom (conversation : AiConversation) (config : AiConfig) : Bool :=
  conversation.messageCount ≤ (config.maxConversationMessages : Int) - 2

/-- The message belongs to the actor's conversation with this id. -/
def AiMessage.ownedBy (message : AiMessage) (actor : AuthenticatedUser) (conversationId : Nat) : Bool :=
  message.conversationId = conversationId && message.companyId = actor.companyId && message.userId = actor.id

namespace AiWorld

variable (w : AiWorld)

/-- `create` in `createConversation`. -/
def createConversation (actor : AuthenticatedUser) (requestId : Nat) (expiresAt : Int) : AiConversation × AiWorld :=
  let conversation : AiConversation :=
    { id := w.nextId
      companyId := actor.companyId
      userId := actor.id
      activeRequestId := some requestId
      activeRequestExpiresAt := some expiresAt }
  (conversation,
    { w with
      conversations := conversation :: w.conversations
      nextId := w.nextId + 1
      acquired := requestId :: w.acquired })

/-- The update of `acquireConversation`, at the time of its `new Date()`. -/
def acquireConversation (config : AiConfig) (actor : AuthenticatedUser) (id requestId : Nat) (expiresAt now : Int) :
    Option AiConversation × AiWorld :=
  match findOneAndUpdate
      (fun conversation =>
        conversation.ownedBy actor id && conversation.hasRoom config && conversation.free now)
      (fun conversation =>
        { conversation with activeRequestId := some requestId, activeRequestExpiresAt := some expiresAt })
      w.conversations with
  | none => (none, w)
  | some (conversation, conversations) =>
      (some conversation, { w with conversations := conversations, acquired := requestId :: w.acquired })

/-- The transaction of `persistExchange`, at the time of its `new Date()`. -/
def persistExchange (config : AiConfig) (actor : AuthenticatedUser) (conversationId requestId : Nat)
    (userContent assistantContent : String) (totals : UsageTotals) (toolCallCount : Nat) (durationMs createdAt : Int) :
    Except AiFailure ((Nat × Nat) × AiWorld) := do
  let changed := AiFailure.conflict "Conversation changed during the request" none
  let _ ← orFail
    (w.conversations.find? fun conversation =>
      conversation.ownedBy actor conversationId && conversation.activeRequestId = some requestId &&
        conversation.hasRoom config) changed
  let user : AiMessage :=
    { id := w.nextId
      conversationId := conversationId
      companyId := actor.companyId
      userId := actor.id
      role := .user
      content := userContent
      createdAt := createdAt }
  let assistant : AiMessage :=
    { id := w.nextId + 1
      conversationId := conversationId
      companyId := actor.companyId
      userId := actor.id
      role := .assistant
      content := assistantContent
      createdAt := createdAt + 1 }
  require (!w.usage.any fun other => other.requestId = requestId) .duplicateKey
  let usage : AiUsage :=
    { requestId := requestId
      companyId := actor.companyId
      userId := actor.id
      conversationId := conversationId
      assistantMessageId := assistant.id
      totals := totals
      durationMs := durationMs
      toolCallCount := toolCallCount }
  let (_, conversations) ← orFail
    (findOneAndUpdate
      (fun conversation =>
        conversation.ownedBy actor conversationId && conversation.activeRequestId = some requestId)
      (fun conversation =>
        { conversation with
          messageCount := conversation.messageCount + 2
          activeRequestId := none
          activeRequestExpiresAt := none })
      w.conversations) changed
  pure ((user.id, assistant.id),
    { w with
      conversations := conversations
      messages := w.messages ++ [user, assistant]
      usage := w.usage ++ [usage]
      nextId := w.nextId + 2 })

/-- The deletion in the `finally` block of `chat`. -/
def discard (actor : AuthenticatedUser) (id requestId : Nat) : AiWorld :=
  match findOneAndDelete
      (fun conversation =>
        conversation.ownedBy actor id && conversation.activeRequestId = some requestId &&
          conversation.messageCount = 0)
      w.conversations with
  | none => w
  | some (_, conversations) => { w with conversations := conversations }

/-- The update in the `finally` block of `chat`. -/
def release (actor : AuthenticatedUser) (id requestId : Nat) : AiWorld :=
  match findOneAndUpdate
      (fun conversation => conversation.ownedBy actor id && conversation.activeRequestId = some requestId)
      (fun conversation => { conversation with activeRequestId := none, activeRequestExpiresAt := none })
      w.conversations with
  | none => w
  | some (_, conversations) => { w with conversations := conversations }

/-- The transaction of `delete`, at the time of its `new Date()`. -/
def delete (actor : AuthenticatedUser) (id : Nat) (now : Int) : Except AiFailure (Unit × AiWorld) :=
  match findOneAndDelete (fun conversation => conversation.ownedBy actor id && conversation.free now)
      w.conversations with
  | none =>
      if w.conversations.any fun conversation => conversation.ownedBy actor id then
        .error (.conflict "Conversation is processing a request" none)
      else .error .notFound
  | some (_, conversations) =>
      .ok ((), { w with
        conversations := conversations
        messages := deleteMany (fun message => message.ownedBy actor id) w.messages })

end AiWorld

/-! ### Actions -/

inductive AiAct where
  | now
  | randomUUID
  | countConversations (actor : AuthenticatedUser)
  | createConversation (actor : AuthenticatedUser) (requestId : Nat) (expiresAt : Int)
  | acquireConversation (actor : AuthenticatedUser) (id requestId : Nat) (expiresAt : Int)
  | findConversation (actor : AuthenticatedUser) (id : Nat)
  | history (actor : AuthenticatedUser) (conversationId : Nat)
  | complete (messages : List ChatMessage) (requestId : Nat)
  | execute (actor : AuthenticatedUser) (name arguments : String)
  | persistExchange (actor : AuthenticatedUser) (conversationId requestId : Nat) (userContent assistantContent : String)
      (totals : UsageTotals) (toolCallCount : Nat) (durationMs : Int)
  | ownedConversation (actor : AuthenticatedUser) (id : Nat)
  | findUsage (actor : AuthenticatedUser) (requestId : Nat)
  | findAssistant (actor : AuthenticatedUser) (id conversationId : Nat)
  | discard (actor : AuthenticatedUser) (id requestId : Nat)
  | release (actor : AuthenticatedUser) (id requestId : Nat)
  | delete (actor : AuthenticatedUser) (id : Nat)
deriving DecidableEq

/-- What each action answers. -/
abbrev AiAct.Res : AiAct → Type
  | .now => Int
  | .randomUUID => Nat
  | .countConversations _ => Except AiFailure Nat
  | .createConversation .. => Except AiFailure AiConversation
  | .acquireConversation .. | .findConversation .. | .ownedConversation .. => Except AiFailure (Option AiConversation)
  | .history .. => Except AiFailure (List AiMessage)
  | .complete .. => Except AiFailure AiModelCompletion
  | .execute .. => Except AiFailure String
  | .persistExchange .. => Except AiFailure (Nat × Nat)
  | .findUsage .. => Except AiFailure (Option AiUsage)
  | .findAssistant .. => Except AiFailure (Option AiMessage)
  | .discard .. | .release .. | .delete .. => Except AiFailure Unit

/-- What the environment decides at an action: its fate, the request id, what the model and the tools answer, and how
long ago the `new Date()` of an update was taken. -/
structure AiChoice where
  fate : Fate := .delivered
  uuid : Nat := 0
  completion : Except AiFailure AiModelCompletion := .error (.provider .unavailable)
  result : Except AiFailure String := .error .internal
  stale : Nat := 0

/-- A query that changes nothing. -/
def query {α : Type} (choice : AiChoice) (answer : α) : Except AiFailure α :=
  if choice.fate = .delivered then .ok answer else .error .database

/-- A transaction or a single write: all of it or nothing; its answer may be lost. -/
def transact {α : Type} (choice : AiChoice) (w : AiWorld) (work : Except AiFailure (α × AiWorld)) :
    Except AiFailure α × AiWorld :=
  match work with
  | .error failure => (.error failure, w)
  | .ok (answer, w') =>
      match choice.fate with
      | .delivered => (.ok answer, w')
      | .lostAfter => (.error .database, w')
      | .lostBefore => (.error .database, w)

/-- What messages are sorted by. -/
def AiMessage.stamp (message : AiMessage) : Stamp := ⟨message.createdAt, message.id⟩

/-- The latest messages first, as many as are asked for; to the driver, a limit of 0 is none. -/
def latestMessages (limit : Nat) (messages : List AiMessage) : List AiMessage :=
  let sorted := newerFirst AiMessage.stamp messages
  if limit = 0 then sorted else sorted.take limit

/-- The effect of each action. A request id is one that was never drawn before. -/
def aiExec (config : AiConfig) (run : Nat) (choice : AiChoice) : (act : AiAct) → AiWorld → Option (act.Res × AiWorld)
  | .now, w => some (w.clock, w)
  | .randomUUID, w =>
      if w.requests.any fun drawn => drawn.2 = choice.uuid then none
      else some (choice.uuid, { w with requests := (run, choice.uuid) :: w.requests })
  | .countConversations actor, w =>
      some (query choice (countDocuments w.conversations fun conversation =>
        conversation.companyId = actor.companyId && conversation.userId = actor.id), w)
  | .createConversation actor requestId expiresAt, w =>
      some (transact choice w (.ok (w.createConversation actor requestId expiresAt)))
  | .acquireConversation actor id requestId expiresAt, w =>
      some (transact choice w
        (.ok (w.acquireConversation config actor id requestId expiresAt (w.clock - choice.stale))))
  | .findConversation actor id, w => some (query choice (w.conversations.find? (·.ownedBy actor id)), w)
  | .history actor conversationId, w =>
      some (query choice (latestMessages (config.maxHistoryMessages - 1)
        (w.messages.filter (·.ownedBy actor conversationId))), w)
  | .complete .., w => some (choice.completion, w)
  | .execute .., w => some (choice.result, w)
  | .persistExchange actor conversationId requestId userContent assistantContent totals toolCallCount durationMs, w =>
      some (transact choice w (w.persistExchange config actor conversationId requestId userContent assistantContent
        totals toolCallCount durationMs (w.clock - choice.stale)))
  | .ownedConversation actor id, w =>
      some (query choice (w.conversations.find? fun conversation =>
        conversation.ownedBy actor id && conversation.messageCount > 0), w)
  | .findUsage actor requestId, w =>
      some (query choice (w.usage.find? fun usage =>
        usage.requestId = requestId && usage.companyId = actor.companyId && usage.userId = actor.id), w)
  | .findAssistant actor id conversationId, w =>
      some (query choice (w.messages.find? fun message =>
        message.id = id && message.ownedBy actor conversationId && message.role = .assistant), w)
  | .discard actor id requestId, w => some (transact choice w (.ok ((), w.discard actor id requestId)))
  | .release actor id requestId, w => some (transact choice w (.ok ((), w.release actor id requestId)))
  | .delete actor id, w => some (transact choice w (w.delete actor id (w.clock - choice.stale)))

/-! ### Requests -/

abbrev AiHandler (α : Type) := ExceptT AiFailure (Process AiAct AiAct.Res) α

/-- Awaits one action. -/
def ask (act : AiAct) : AiHandler act.Res := liftM (Process.call act)

/-- A failure ends the part of the request that it is in. -/
def check {α : Type} (outcome : Except AiFailure α) : AiHandler α := liftExcept outcome

/-- `createConversation`. -/
def createConversation (config : AiConfig) (actor : AuthenticatedUser) (requestId : Nat) (expiresAt : Int) :
    AiHandler AiConversation := do
  let count ← check (← ask (.countConversations actor))
  check (require (count < config.maxConversations)
    (.conflict "Conversation limit reached; delete an old conversation first" (some "ai_conversation_limit")))
  check (← ask (.createConversation actor requestId expiresAt))

/-- `acquireConversation`. -/
def acquireConversation (config : AiConfig) (actor : AuthenticatedUser) (id requestId : Nat) (expiresAt : Int) :
    AiHandler AiConversation := do
  match ← check (← ask (.acquireConversation actor id requestId expiresAt)) with
  | some conversation => pure conversation
  | none =>
      let found ← check (← ask (.findConversation actor id))
      let existing ← check (orFail found .notFound)
      check (require (isSafe existing.messageCount) .internal)
      check (require (existing.hasRoom config)
        (.conflict "Conversation message limit reached; start a new conversation"
          (some "ai_conversation_message_limit")))
      throw (.conflict "Conversation is processing another request" none)

/-- The rows of `contextHistory` that fit, latest first. -/
def selectHistory (maxContextChars : Nat) : Nat → List AiMessage → List AiMessage
  | _, [] => []
  | characters, row :: rows =>
      if characters + stringLength row.content > maxContextChars then []
      else row :: selectHistory maxContextChars (characters + stringLength row.content) rows

/-- `contextHistory`. -/
def contextHistory (config : AiConfig) (actor : AuthenticatedUser) (conversationId : Nat) :
    AiHandler (List ChatMessage) := do
  let rows ← check (← ask (.history actor conversationId))
  pure ((selectHistory config.maxContextChars 0 rows).reverse.map fun message => .past message.role message.content)

/-- `safeAdd`. -/
def safeAdd (left right : Int) : Except AiFailure Int := do
  require (isSafe left && isSafe right) .invalidCompletion
  require (isSafe (left + right)) .invalidCompletion
  pure (left + right)

/-- `assertModelCompletion`, as far as a typed value can break it. -/
def assertModelCompletion (completion : AiModelCompletion) : Except AiFailure Unit := do
  require (trim completion.model ≠ "" && stringLength completion.model ≤ 200) .invalidCompletion
  require (isSafe completion.promptTokens && isSafe completion.completionTokens && isSafe completion.totalTokens)
    .invalidCompletion
  require (completion.providerCostUsdMicros.all isSafe) .invalidCompletion
  require (completion.toolCalls.all fun toolCall => toolCall.id ≠ "") .invalidCompletion

/-- `addUsage`. -/
def addUsage (total : UsageTotals) (completion : AiModelCompletion) : Except AiFailure UsageTotals := do
  let promptTokens ← safeAdd total.promptTokens completion.promptTokens
  let completionTokens ← safeAdd total.completionTokens completion.completionTokens
  let totalTokens ← safeAdd total.totalTokens completion.totalTokens
  let cost ←
    match completion.providerCostUsdMicros with
    | none => pure total.providerCostUsdMicros
    | some cost => some <$> safeAdd (total.providerCostUsdMicros.getD 0) cost
  pure
    { promptTokens := promptTokens
      completionTokens := completionTokens
      totalTokens := totalTokens
      providerCostUsdMicros := cost
      modelsUsed := total.modelsUsed ++ [completion.model]
      provider := some (completion.provider.getD .openrouter) }

/-- What the loop of `runAgent` carries along. -/
structure AgentState where
  messages : List ChatMessage
  seenTools : List String := []
  usage : UsageTotals := {}
  toolCallCount : Nat := 0

/-- What `runAgent` returns. -/
structure AgentResult where
  content : String
  usage : UsageTotals
  toolCallCount : Nat

/-- The inner loop of `runAgent`: the tool calls of one completion. -/
def runTools (config : AiConfig) (actor : AuthenticatedUser) : List AiToolCall → AgentState → AiHandler AgentState
  | [], state => pure state
  | toolCall :: toolCalls, state => do
      let fingerprint ← check (config.fingerprint toolCall.name toolCall.arguments)
      check (require (fingerprint ∉ state.seenTools) .tool)
      check (require (state.toolCallCount + 1 ≤ config.maxToolIterations) .tool)
      let result ← check (← ask (.execute actor toolCall.name toolCall.arguments))
      runTools config actor toolCalls
        { state with
          messages := state.messages ++ [.tool toolCall.id result]
          seenTools := fingerprint :: state.seenTools
          toolCallCount := state.toolCallCount + 1 }

/-- One iteration of the loop of `runAgent`; `more` takes the tool calls. -/
def runIteration (requestId : Nat) (more : AgentState → List AiToolCall → AiHandler AgentResult) (state : AgentState) :
    AiHandler AgentResult := do
  let completion ← check (← ask (.complete state.messages requestId))
  check (assertModelCompletion completion)
  let usage ← check (addUsage state.usage completion)
  if completion.toolCalls.isEmpty then
    let content := trim (completion.content.getD "")
    check (require (content ≠ "") .invalidCompletion)
    check (require (stringLength content ≤ 50000) .invalidCompletion)
    pure { content := content, usage := usage, toolCallCount := state.toolCallCount }
  else
    more
      { state with
        messages := state.messages ++ [.assistant completion.content completion.toolCalls]
        usage := usage }
      completion.toolCalls

/-- The loop of `runAgent`; `remaining` iterations may follow on this one. -/
def runIterations (config : AiConfig) (actor : AuthenticatedUser) (requestId : Nat) :
    (remaining : Nat) → AgentState → AiHandler AgentResult
  | 0 => runIteration requestId fun _ _ => throw .invalidCompletion
  | remaining + 1 => runIteration requestId fun state toolCalls => do
      runIterations config actor requestId remaining (← runTools config actor toolCalls state)

/-- `runAgent`. -/
def runAgent (config : AiConfig) (actor : AuthenticatedUser) (history : List ChatMessage) (userMessage : String)
    (requestId : Nat) : AiHandler AgentResult :=
  runIterations config actor requestId config.maxToolIterations
    { messages := .system :: history ++ [.user userMessage] }

/-- The answer of each kind of request. -/
inductive AiReply where
  | exchange (requestId : Nat) (conversationId : Nat) (messageCount : Int)
      (messages : List (Nat × AiMessageRole × String)) (usage : UsageTotals) (toolCallCount : Nat) (durationMs : Int)
  | message (text : String)
deriving DecidableEq

/-- `ownedConversation`. -/
def ownedConversation (actor : AuthenticatedUser) (id : Nat) : AiHandler AiConversation := do
  let found ← check (← ask (.ownedConversation actor id))
  check (orFail found .notFound)

/-- Failures other than exceptions become internal ones. -/
def asInternalFailure : AiFailure → AiFailure
  | .http status message code => .http status message code
  | _ => .internal

/-- `persistExchange`. -/
def persistExchange (actor : AuthenticatedUser) (conversationId requestId : Nat) (userContent : String)
    (result : AgentResult) (durationMs : Int) : AiHandler AiReply := do
  let persisted ← ask (.persistExchange actor conversationId requestId userContent result.content result.usage
    result.toolCallCount durationMs)
  let (userMessageId, assistantMessageId) ← check (persisted.mapError asInternalFailure)
  -- also `NotFoundException` is an internal failure here
  let updated ← Process.recover (ownedConversation actor conversationId) fun _ => throw .internal
  pure (.exchange requestId updated.id updated.messageCount
    [(userMessageId, .user, userContent), (assistantMessageId, .assistant, result.content)] result.usage
    result.toolCallCount durationMs)

/-- `recoverCommitted`; its failures are only logged. -/
def recoverCommitted (actor : AuthenticatedUser) (requestId : Nat) : AiHandler (Option AiReply) :=
  Process.recover (do
    match ← check (← ask (.findUsage actor requestId)) with
    | none => pure none
    | some usage =>
        let conversation ← ownedConversation actor usage.conversationId
        match ← check (← ask (.findAssistant actor usage.assistantMessageId usage.conversationId)) with
        | none => pure none
        | some assistant =>
            pure (some (.exchange requestId conversation.id conversation.messageCount
              [(assistant.id, assistant.role, assistant.content)] usage.totals usage.toolCallCount
              usage.durationMs)) : AiHandler (Option AiReply)) fun _ => pure none

/-- `providerException`. -/
def providerException : AiProviderFailureReason → AiFailure
  | .timeout => .http 504 "AI assistant request timed out" (some "ai_timeout")
  | .invalidResponse => .http 502 "AI assistant returned an invalid response" (some "ai_invalid_response")
  | .rateLimit => .http 503 "AI assistant is temporarily busy" (some "ai_provider_rate_limit")
  | .authentication => .http 503 "AI assistant is temporarily unavailable" (some "ai_provider_authentication")
  | .credits => .http 503 "AI assistant is temporarily unavailable" (some "ai_provider_credits")
  | .unavailable => .http 503 "AI assistant is temporarily unavailable" (some "ai_provider_unavailable")

/-- What `chat` answers to a failure. -/
def chatException : AiFailure → AiFailure
  | .provider reason => providerException reason
  | .tool => .http 502 "AI assistant could not complete the request" (some "ai_tool_request_invalid")
  | .http status message code =>
      if status < 500 then .http status message code
      else .http 500 "AI assistant request could not be completed" (some "ai_internal_error")
  | _ => .http 500 "AI assistant request could not be completed" (some "ai_internal_error")

/-- The `finally` block of `chat`; its failures are only logged. -/
def cleanup (actor : AuthenticatedUser) (newlyCreated : Bool) (id requestId : Nat) : AiHandler Unit := do
  let _ ← ask (if newlyCreated then .discard actor id requestId else .release actor id requestId)

/-- The part of `chat` that has a conversation. Only a failure of `persistExchange` is recovered. -/
def exchange (config : AiConfig) (actor : AuthenticatedUser) (conversationId requestId : Nat) (message : String)
    (startedAt : Int) : AiHandler AiReply :=
  ExceptT.mk do
    let prepared ← (do
      let history ← contextHistory config actor conversationId
      let result ← runAgent config actor history message requestId
      let finishedAt ← ask .now
      pure (result, finishedAt - startedAt) : AiHandler (AgentResult × Int)).run
    match prepared with
    | .error failure => pure (.error (chatException failure))
    | .ok (result, durationMs) =>
        (Process.recover (persistExchange actor conversationId requestId message result durationMs) fun failure => do
          match ← recoverCommitted actor requestId with
          | some recovered => pure recovered
          | none => throw (chatException failure)).run

/-- `AiChatDto`. -/
structure AiChatDto where
  conversationId : Option Nat := none
  message : String

/-- `AiService.chat`. -/
def chat (config : AiConfig) (actor : AuthenticatedUser) (dto : AiChatDto) : AiHandler AiReply := do
  check (require config.enabled (.http 503 "AI assistant is not configured" (some "ai_disabled")))
  check (require (stringLength dto.message ≤ config.maxMessageChars)
    (.http 400 s!"Message exceeds the {config.maxMessageChars}-character limit" (some "ai_message_too_long")))
  let requestId ← ask .randomUUID
  let startedAt ← ask .now
  let lockExpiresAt := startedAt + config.timeoutMs + 30000
  let conversation ← Process.recover
    (match dto.conversationId with
      | none => createConversation config actor requestId lockExpiresAt
      | some id => acquireConversation config actor id requestId lockExpiresAt)
    fun failure => throw (chatException failure)
  Process.withCleanup (exchange config actor conversation.id requestId dto.message startedAt)
    (cleanup actor dto.conversationId.isNone conversation.id requestId)

/-- `AiService.delete`. -/
def delete (actor : AuthenticatedUser) (id : Nat) : AiHandler AiReply := do
  check (← ask (.delete actor id))
  pure (.message "Conversation deleted")

inductive AiJob where
  | chat (actor : AuthenticatedUser) (dto : AiChatDto)
  | delete (actor : AuthenticatedUser) (id : Nat)

/-- The handler of each request. -/
def AiJob.handler (config : AiConfig) : AiJob → AiHandler AiReply
  | .chat actor dto => Ai.chat config actor dto
  | .delete actor id => Ai.delete actor id

/-- All requests over one database, in which nothing else happens but that time passes. -/
def aiMachine (config : AiConfig) :
    Machine AiAct AiAct.Res AiWorld AiChoice Nat AiJob (Except AiFailure AiReply) where
  handler job := (job.handler config).run
  exec := aiExec config
  drift elapsed w := some { w with clock := w.clock + elapsed }

end DataVault.Ai
