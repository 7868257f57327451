/-
Module: DataVault.Ai.ConversationSteps
Layer: Proof
Purpose: Exchanges, and what one step does to conversations, their messages and their leases.
Imports: DataVault.Ai.Conversations, DataVault.Interleaving.Following
Trusted boundary: none
Main exports: Exchange, Acquires, Move, move_exec, AiSystem, AiRun, move_apply
-/
import DataVault.Ai.Conversations
import DataVault.Interleaving.Following

namespace DataVault.Ai

open DataVault.Auth (Fate)
open DataVault.Control DataVault.Interleaving DataVault.Store DataVault.Users

/-! ### Exchanges -/

/-- The message stands in the conversation that the usage record is about, for the same user. -/
def AiMessage.concerns (message : AiMessage) (usage : AiUsage) : Prop :=
  message.conversationId = usage.conversationId ∧ message.companyId = usage.companyId ∧ message.userId = usage.userId

/-- A message of the user and the answer of the assistant, with the usage record of their request. -/
structure Exchange where
  user : AiMessage
  assistant : AiMessage
  usage : AiUsage
  roles : user.role = .user ∧ assistant.role = .assistant
  userConcerns : user.concerns usage
  assistantConcerns : assistant.concerns usage
  identified : assistant.id = usage.assistantMessageId

namespace Exchange

def messages (exchange : Exchange) : List AiMessage := [exchange.user, exchange.assistant]

theorem mem_messages {exchange : Exchange} {message : AiMessage} (mem : message ∈ exchange.messages) :
    message.concerns exchange.usage := by
  rcases List.mem_cons.mp mem with rfl | mem
  · exact exchange.userConcerns
  · rw [List.mem_singleton.mp mem]
    exact exchange.assistantConcerns

end Exchange

/-! ### What one step does -/

/-- The action gives a request id a conversation. -/
def Acquires (run requestId : Nat) (act : Option (Nat × AiAct)) : Prop :=
  (∃ actor expiresAt, act = some (run, .createConversation actor requestId expiresAt)) ∨
    ∃ actor id expiresAt, act = some (run, .acquireConversation actor id requestId expiresAt)

/-- One conversation, changed. -/
def replace (conversations : List AiConversation) (changed : AiConversation) : List AiConversation :=
  conversations.map fun other => if other.id = changed.id then changed else other

/-- The conversations but one. -/
def without (conversations : List AiConversation) (id : Nat) : List AiConversation :=
  conversations.filter fun other => other.id ≠ id

/-- What a step does, and by which action. Every invariant of the conversations is derived from this, by its cases. -/
inductive Move (config : AiConfig) (w w' : AiWorld) (act : Option (Nat × AiAct)) : Prop where
  | idle (clock : Int) (becomes : w' = { w with clock := clock })
  | drawn (run requestId : Nat) (fresh : ∀ drawn ∈ w.requests, drawn.2 ≠ requestId)
      (becomes : w' = { w with requests := (run, requestId) :: w.requests })
  | created (run requestId : Nat) (conversation : AiConversation) (asked : Acquires run requestId act)
      (named : conversation.id = w.nextId) (empty : conversation.messageCount = 0)
      (leased : conversation.activeRequestId = some requestId)
      (becomes : w' = { w with
        conversations := conversation :: w.conversations, nextId := w.nextId + 1, acquired := requestId :: w.acquired })
  | leased (run requestId : Nat) (conversation : AiConversation) (expiresAt : Int) (asked : Acquires run requestId act)
      (mem : conversation ∈ w.conversations)
      (becomes : w' = { w with
        conversations := replace w.conversations
          { conversation with activeRequestId := some requestId, activeRequestExpiresAt := some expiresAt }
        acquired := requestId :: w.acquired })
  | released (conversation : AiConversation) (mem : conversation ∈ w.conversations)
      (becomes : w' = { w with
        conversations := replace w.conversations
          { conversation with activeRequestId := none, activeRequestExpiresAt := none } })
  | committed (run requestId : Nat) (exchange : Exchange) (conversation : AiConversation)
      (asked : ∃ actor id user assistant totals calls duration,
        act = some (run, .persistExchange actor id requestId user assistant totals calls duration))
      (mem : conversation ∈ w.conversations) (named : exchange.usage.requestId = requestId)
      (placed : exchange.usage.conversationId = conversation.id ∧ exchange.usage.companyId = conversation.companyId ∧
        exchange.usage.userId = conversation.userId)
      (leased : conversation.activeRequestId = some requestId) (room : conversation.hasRoom config)
      (fresh : requestId ∉ w.usage.map (·.requestId))
      (becomes : w' = { w with
        conversations := replace w.conversations
          { conversation with
            messageCount := conversation.messageCount + 2
            activeRequestId := none
            activeRequestExpiresAt := none }
        messages := w.messages ++ exchange.messages
        usage := w.usage ++ [exchange.usage]
        nextId := w.nextId + 2 })
  | discarded (conversation : AiConversation) (mem : conversation ∈ w.conversations)
      (empty : conversation.messageCount = 0)
      (becomes : w' = { w with conversations := without w.conversations conversation.id })
  | deleted (actor : AuthenticatedUser) (conversation : AiConversation)
      (asked : ∃ run, act = some (run, .delete actor conversation.id)) (mem : conversation ∈ w.conversations)
      (owner : conversation.companyId = actor.companyId ∧ conversation.userId = actor.id)
      (becomes : w' = { w with
        conversations := without w.conversations conversation.id
        messages := deleteMany (fun message => message.ownedBy actor conversation.id) w.messages })

variable {config : AiConfig} {w w' : AiWorld} {act : Option (Nat × AiAct)}

theorem Move.same : Move config w w act := .idle w.clock rfl

/-- Ids are distinct. -/
def DistinctIds (w : AiWorld) : Prop := (w.conversations.map (·.id)).Nodup

theorem AiConversation.ownedBy_iff {conversation : AiConversation} {actor : AuthenticatedUser} {id : Nat} :
    conversation.ownedBy actor id ↔
      conversation.id = id ∧ conversation.companyId = actor.companyId ∧ conversation.userId = actor.id := by
  simp [AiConversation.ownedBy, and_assoc]

variable {run id requestId : Nat} {actor : AuthenticatedUser} {expiresAt now : Int}

theorem move_createConversation :
    Move config w (w.createConversation actor requestId expiresAt).2
      (some (run, .createConversation actor requestId expiresAt)) :=
  .created run requestId _ (.inl ⟨_, _, rfl⟩) rfl rfl rfl rfl

theorem move_acquireConversation (distinct : DistinctIds w) :
    Move config w (w.acquireConversation config actor id requestId expiresAt now).2
      (some (run, .acquireConversation actor id requestId expiresAt)) := by
  unfold AiWorld.acquireConversation
  split
  · exact .same
  · rename_i found
    obtain ⟨conversation, mem, _, rfl, rfl⟩ := findOneAndUpdate_map distinct found
    exact .leased run requestId conversation expiresAt (.inr ⟨_, _, _, rfl⟩) mem rfl

theorem move_release (distinct : DistinctIds w) : Move config w (w.release actor id requestId) act := by
  unfold AiWorld.release
  split
  · exact .same
  · rename_i found
    obtain ⟨conversation, mem, _, rfl, rfl⟩ := findOneAndUpdate_map distinct found
    exact .released conversation mem rfl

theorem move_discard (distinct : DistinctIds w) : Move config w (w.discard actor id requestId) act := by
  unfold AiWorld.discard
  split
  · exact .same
  · rename_i found
    obtain ⟨mem, matched, rfl⟩ := findOneAndDelete_filter distinct found
    simp only [Bool.and_eq_true, decide_eq_true_eq] at matched
    exact .discarded _ mem matched.2 rfl

theorem move_delete {value : Unit} (distinct : DistinctIds w) (done : w.delete actor id now = .ok (value, w')) :
    Move config w w' (some (run, .delete actor id)) := by
  unfold AiWorld.delete at done
  split at done
  · split at done <;> cases done
  · rename_i found
    cases done
    obtain ⟨mem, matched, rfl⟩ := findOneAndDelete_filter distinct found
    obtain ⟨rfl, owner⟩ := AiConversation.ownedBy_iff.mp (Bool.and_eq_true _ _ ▸ matched).1
    exact .deleted actor _ ⟨run, rfl⟩ mem owner rfl

theorem move_persistExchange {user assistant : String} {totals : UsageTotals} {calls : Nat} {duration createdAt : Int}
    {value : Nat × Nat} (distinct : DistinctIds w)
    (done : w.persistExchange config actor id requestId user assistant totals calls duration createdAt =
      .ok (value, w')) :
    Move config w w' (some (run, .persistExchange actor id requestId user assistant totals calls duration)) := by
  obtain ⟨current, here, done⟩ := bind_ok_iff.mp done
  obtain ⟨_, fresh, done⟩ := bind_ok_iff.mp done
  obtain ⟨⟨updated, conversations⟩, found, done⟩ := bind_ok_iff.mp done
  cases done
  obtain ⟨conversation, mem, matched, rfl, rfl⟩ := findOneAndUpdate_map distinct (orFail_ok_iff.mp found)
  rw [orFail_ok_iff] at here
  have vacant := List.find?_some here
  simp only [Bool.and_eq_true, decide_eq_true_eq, AiConversation.ownedBy_iff] at matched vacant
  obtain ⟨⟨rfl, owner⟩, leased⟩ := matched
  have same : current = conversation :=
    List.inj_on_of_nodup_map distinct (List.mem_of_find?_eq_some here) mem vacant.1.1.1
  have unused : requestId ∉ w.usage.map (·.requestId) := by
    have none := require_ok_iff.mp fresh
    simpa using none
  exact .committed run requestId
    { user := _, assistant := _, usage := _, roles := ⟨rfl, rfl⟩, userConcerns := ⟨rfl, rfl, rfl⟩
      assistantConcerns := ⟨rfl, rfl, rfl⟩, identified := rfl }
    conversation ⟨_, _, _, _, _, _, _, rfl⟩ mem rfl ⟨rfl, owner.1.symm, owner.2.symm⟩ leased (same ▸ vacant.2) unused rfl

/-- A transaction changes nothing or has taken effect. -/
theorem transact_moves {α : Type} {choice : AiChoice} {work : Except AiFailure (α × AiWorld)}
    {answer : Except AiFailure α} (moves : ∀ value after, work = .ok (value, after) → Move config w after act)
    (done : transact choice w work = (answer, w')) : Move config w w' act := by
  unfold transact at done
  split at done
  · cases done
    exact .same
  · rename_i value after
    have move := moves value after rfl
    cases fate : choice.fate <;> rw [fate] at done <;> cases done
    · exact move
    · exact move
    · exact .same

/-! ### Steps -/

theorem move_exec {choice : AiChoice} {act : AiAct} {answer : act.Res} (distinct : DistinctIds w)
    (executed : aiExec config run choice act w = some (answer, w')) : Move config w w' (some (run, act)) := by
  cases act with
  | now | countConversations | findConversation | history | complete | execute | ownedConversation | findUsage
    | findAssistant =>
      cases executed
      exact .same
  | randomUUID =>
      simp only [aiExec] at executed
      split at executed
      · cases executed
      · rename_i fresh
        cases executed
        refine .drawn run choice.uuid (fun drawn mem same => fresh ?_) rfl
        exact List.any_eq_true.mpr ⟨drawn, mem, decide_eq_true same⟩
  | createConversation actor requestId expiresAt =>
      refine transact_moves (fun value after done => ?_) (Option.some.inj executed)
      cases done
      exact move_createConversation
  | acquireConversation actor id requestId expiresAt =>
      refine transact_moves (fun value after done => ?_) (Option.some.inj executed)
      rw [← (Prod.mk.inj (Except.ok.inj done)).2]
      exact move_acquireConversation distinct
  | persistExchange =>
      exact transact_moves (fun _ _ done => move_persistExchange distinct done) (Option.some.inj executed)
  | discard actor id requestId =>
      refine transact_moves (fun value after done => ?_) (Option.some.inj executed)
      cases done
      exact move_discard distinct
  | release actor id requestId =>
      refine transact_moves (fun value after done => ?_) (Option.some.inj executed)
      cases done
      exact move_release distinct
  | delete actor id => exact transact_moves (fun _ _ done => move_delete distinct done) (Option.some.inj executed)

abbrev AiSystem := System AiAct AiAct.Res AiWorld (Except AiFailure AiReply)

abbrev AiEvent := Event AiChoice Nat AiJob

/-- The runs of the system, with nothing asked of their steps. -/
abbrev AiRun (config : AiConfig) : AiSystem → List AiEvent → AiSystem → Prop :=
  (aiMachine config).Run fun _ _ => True

theorem move_apply {s s' : AiSystem} {event : AiEvent} (distinct : DistinctIds s.world)
    (applied : (aiMachine config).apply s event = some s') :
    ∃ carried, Move config s.world s'.world carried ∧
      ∀ run act, carried = some (run, act) ↔ Machine.Performs run act s event := by
  obtain ⟨carried, move, asked⟩ := Machine.apply_related (m := aiMachine config)
    (R := fun w w' act => DistinctIds w → Move config w w' act) (fun _ _ => .same)
    (fun _ _ _ _ _ _ executed distinct => move_exec distinct executed)
    (fun _ _ _ happened _ => .idle _ (Option.some.inj happened).symm) applied
  exact ⟨carried, move distinct, asked⟩

end DataVault.Ai
