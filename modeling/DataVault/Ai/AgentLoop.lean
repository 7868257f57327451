/-
Module: DataVault.Ai.AgentLoop
Layer: Proof
Purpose: The discipline of the agent loop, whatever the model and the tools answer: how often the model is called and
  tools are executed, that no call of a tool is repeated, that the model is shown every tool call with its result, and
  that an exchange stays with the provider that has answered it.
Imports: DataVault.Ai.Agent, DataVault.Ai.ConversationLaw, DataVault.Interleaving.Monitor
Trusted boundary: none
Main exports: AgentRecord, SameCall, Answered, LoopDiscipline, agent_loop_discipline
-/
import DataVault.Ai.Agent
import DataVault.Ai.ConversationLaw
import DataVault.Interleaving.Monitor

namespace DataVault.Ai

open DataVault.Control DataVault.Interleaving DataVault.Users

variable {runtime : JsonRuntime} {config : AiConfig} {actor : AuthenticatedUser} {α : Type}
variable {messages : List ChatMessage} {name raw : String} {requestId id run : Nat}

/-! ### What an exchange does -/

/-- The message lists that a run passes to the model client and the tools that it executes, in order. -/
structure AgentRecord where
  modelCalls : List (List ChatMessage) := []
  executions : List (String × String) := []

def AgentRecord.after (record : AgentRecord) : AiAct → AgentRecord
  | .complete messages _ => { record with modelCalls := record.modelCalls ++ [messages] }
  | .execute _ name arguments => { record with executions := record.executions ++ [(name, arguments)] }
  | _ => record

/-- The same tool with JSON-equal arguments, up to the order of their keys. -/
def SameCall (runtime : JsonRuntime) (one two : String × String) : Prop :=
  one.1 = two.1 ∧ ∃ args args', toolArguments runtime one.2 = .ok args ∧ toolArguments runtime two.2 = .ok args' ∧
    args.Perm args'

/-- Every message with tool calls is followed by one result for each call, in their order and with their ids, and by
no other result. -/
def Answered (messages : List ChatMessage) : Prop :=
  ∀ before content toolCalls after, messages = before ++ .assistant content toolCalls :: after →
    ∃ results rest, after = List.zipWith (fun toolCall result => .tool toolCall.id result) toolCalls results ++ rest ∧
      results.length = toolCalls.length ∧ ∀ toolCallId content, rest.head? ≠ some (.tool toolCallId content)

/-- What holds of everything an exchange does. -/
structure LoopDiscipline (runtime : JsonRuntime) (config : AiConfig) (record : AgentRecord) : Prop where
  /-- The model is called once more than tools may be executed, at most. -/
  modelCalls : record.modelCalls.length ≤ config.maxToolIterations + 1
  executions : record.executions.length ≤ config.maxToolIterations
  /-- No tool is executed twice with JSON-equal arguments. -/
  distinct : record.executions.Pairwise fun one two => ¬SameCall runtime one two
  answered : ∀ messages ∈ record.modelCalls, Answered messages

/-- Watches the loop of one exchange. -/
def loopMonitor (runtime : JsonRuntime) (config : AiConfig) : Monitor AiAct AiAct.Res AgentRecord where
  allowed record
    | .complete messages _ => record.modelCalls.length ≤ config.maxToolIterations ∧ Answered messages
    | .execute _ name raw => record.executions.length < config.maxToolIterations ∧
        ∀ earlier ∈ record.executions, ¬SameCall runtime earlier (name, raw)
    | _ => True
  after record act _ := record.after act

theorem loopDiscipline_after {record : AgentRecord} {act : AiAct} (holds : LoopDiscipline runtime config record)
    (allowed : (loopMonitor runtime config).allowed record act) :
    LoopDiscipline runtime config (record.after act) := by
  obtain ⟨modelCalls, executions, distinct, answered⟩ := holds
  cases act with
  | complete messages requestId =>
      refine ⟨?_, executions, distinct, fun other mem => ?_⟩
      · simpa [AgentRecord.after] using allowed.1
      · rcases List.mem_append.mp mem with before | new
        · exact answered other before
        · rw [List.mem_singleton.mp new]
          exact allowed.2
  | execute actor name raw =>
      refine ⟨modelCalls, ?_, ?_, answered⟩
      · change (record.executions ++ [(name, raw)]).length ≤ config.maxToolIterations
        rw [List.length_append]
        exact allowed.1
      · refine List.pairwise_append.mpr ⟨distinct, List.pairwise_singleton _ _, fun earlier mem new isNew => ?_⟩
        rw [List.mem_singleton.mp isNew]
        exact allowed.2 earlier mem
  | _ => exact ⟨modelCalls, executions, distinct, answered⟩

/-! ### Results that are owed

Read from left to right, a message list owes results: an assistant message with tool calls owes one for each, and a
result pays the first that is owed. A list is well formed for the model exactly when nothing is owed at its end, and
appending to such lists keeps them so. -/

/-- The ids of the tool calls whose results are still owed after one more message; `none` when it does not fit. -/
def owedAfter : List String → ChatMessage → Option (List String)
  | toolCallId :: rest, .tool other _ => if other = toolCallId then some rest else none
  | _ :: _, _ => none
  | [], .assistant _ toolCalls => some (toolCalls.map (·.id))
  | [], .tool .. => none
  | [], _ => some []

/-- The ids whose results are owed at the end of the messages. -/
def owed (ids : List String) (messages : List ChatMessage) : Option (List String) := messages.foldlM owedAfter ids

theorem owed_append {ids : List String} {first second : List ChatMessage} :
    owed ids (first ++ second) = (owed ids first).bind fun ids => owed ids second :=
  List.foldlM_append

theorem owed_cons {ids : List String} {message : ChatMessage} {rest : List ChatMessage} :
    owed ids (message :: rest) = (owedAfter ids message).bind fun ids => owed ids rest :=
  List.foldlM_cons

theorem owed_concat {ids : List String} {message : ChatMessage} :
    owed ids (messages ++ [message]) = (owed ids messages).bind fun ids => owedAfter ids message := by
  rw [owed_append]
  congr
  funext ids
  rw [owed_cons]
  cases owedAfter ids message <;> rfl

/-- Owed results come first. -/
theorem owed_results (toolCalls : List AiToolCall) :
    ∀ after : List ChatMessage, owed (toolCalls.map (·.id)) after = some [] →
      ∃ results rest, after = List.zipWith (fun toolCall result => .tool toolCall.id result) toolCalls results ++ rest ∧
        results.length = toolCalls.length ∧ owed [] rest = some [] := by
  induction toolCalls with
  | nil => exact fun after paid => ⟨[], after, rfl, rfl, paid⟩
  | cons toolCall toolCalls ih =>
      intro after paid
      cases after with
      | nil => cases paid
      | cons message rest =>
          rw [owed_cons] at paid
          obtain ⟨ids, one, paid⟩ := Option.bind_eq_some_iff.mp paid
          cases message with
          | tool other result =>
              simp only [List.map_cons, owedAfter] at one
              split at one
              · rename_i same
                cases one
                obtain ⟨results, rest, rfl, length, paid⟩ := ih rest paid
                exact ⟨result :: results, rest, by simp [same], by simp [length], paid⟩
              · cases one
          | _ => cases one

theorem answered_of_owed (paid : owed [] messages = some []) : Answered messages := by
  rintro before content toolCalls after rfl
  rw [owed_append] at paid
  obtain ⟨ids, _, paid⟩ := Option.bind_eq_some_iff.mp paid
  rw [owed_cons] at paid
  obtain ⟨owes, one, paid⟩ := Option.bind_eq_some_iff.mp paid
  cases ids with
  | cons => cases one
  | nil =>
      cases one
      obtain ⟨results, rest, rfl, length, paid⟩ := owed_results toolCalls after paid
      refine ⟨results, rest, rfl, length, ?_⟩
      intro toolCallId result first
      obtain ⟨tail, rfl⟩ : ∃ tail, rest = .tool toolCallId result :: tail := by
        cases rest <;> simp_all
      cases paid

/-! ### Executed tools -/

theorem toolArguments_nodup {args : List (String × JsonValue)} (parsed : toolArguments runtime raw = .ok args) :
    (args.map (·.1)).Nodup := by
  obtain ⟨_, _, parsed⟩ := bind_ok_iff.mp parsed
  split at parsed
  · rename_i properties isObject
    cases parsed
    exact runtime.keys_nodup _ _ isObject
  · cases parsed

/-- The checks of a tool let one argument through at most. -/
theorem args_of_checkTool (checked : checkTool runtime name raw = .ok ()) :
    ∃ args, toolArguments runtime raw = .ok args ∧ args.length ≤ 1 := by
  obtain ⟨args, parsed, checked⟩ := bind_ok_iff.mp checked
  refine ⟨args, parsed, ?_⟩
  obtain ⟨tool, _, checked⟩ := bind_ok_iff.mp checked
  cases tool with
  | visibleFiles =>
      obtain ⟨_, named, _⟩ := bind_ok_iff.mp checked
      have named := List.all_eq_true.mp (require_ok_iff.mp named)
      have nodup := toolArguments_nodup parsed
      match args with
      | [] | [_] => simp
      | one :: two :: rest =>
          have first := of_decide_eq_true (named one (by simp))
          have second := of_decide_eq_true (named two (by simp))
          simp [first, second] at nodup
  | _ =>
      have none : args = [] := by simpa using checked
      rw [none]
      exact Nat.zero_le _

/-- A call that repeats one which passed its checks has its fingerprint. -/
theorem fingerprint_of_sameCall {one two : String × String} (checked : checkTool runtime one.1 one.2 = .ok ())
    (same : SameCall runtime one two) : fingerprint runtime one.1 one.2 = fingerprint runtime two.1 two.2 := by
  obtain ⟨sameName, args, args', parsed, parsed', perm⟩ := same
  obtain ⟨accepted, parsed₁, few⟩ := args_of_checkTool checked
  cases parsed.symm.trans parsed₁
  have equal : args = args' := by
    match args, few with
    | [], _ => exact (List.nil_perm.mp perm).symm
    | [one], _ => exact List.singleton_perm.mp perm
  rw [fingerprint, fingerprint, parsed, parsed', sameName, equal]

/-! ### The loop

`InLoop` ties what the loop remembers to what it has done: the number of executed tools, the fingerprints of their
calls, and that each call passed its checks. An iteration calls the model once and appends every result that the
answer owes, so nothing is owed when the model is called again. -/

/-- What the loop knows of what it has done: its counter counts the executions, and each of them has left its mark among
the tools seen and has passed the checks. -/
structure InLoop (runtime : JsonRuntime) (state : AgentState) (record : AgentRecord) : Prop where
  counted : record.executions.length = state.toolCallCount
  seen : ∀ call ∈ record.executions, ∃ mark ∈ state.seenTools, fingerprint runtime call.1 call.2 = .ok mark
  checked : ∀ call ∈ record.executions, checkTool runtime call.1 call.2 = .ok ()

/-- A tool answers after its checks have passed alone. -/
def Possible (runtime : JsonRuntime) : (act : AiAct) → act.Res → Prop
  | .execute _ name raw, answer => ∀ result, answer = .ok result → checkTool runtime name raw = .ok ()
  | _, _ => True

/-- The settings of the requests of this machine. -/
abbrev fingerprinting (runtime : JsonRuntime) (config : AiConfig) : AiConfig :=
  { config with fingerprint := fingerprint runtime }

/-- What a part of the loop obeys that ends in `Q`. -/
abbrev Loops (runtime : JsonRuntime) (config : AiConfig) (Q : α → AgentRecord → Prop)
    (process : Process AiAct AiAct.Res (Except AiFailure α)) (record : AgentRecord) : Prop :=
  (loopMonitor runtime config).Obeys (Possible runtime) (Ends Q Any) process record

theorem loops_runTools (toolCalls : List AiToolCall) :
    ∀ (state : AgentState) (record : AgentRecord), InLoop runtime state record →
      owed [] state.messages = some (toolCalls.map (·.id)) →
      Loops runtime config (fun after record' => InLoop runtime after record' ∧ owed [] after.messages = some [] ∧
        record'.modelCalls = record.modelCalls) (runTools (fingerprinting runtime config) actor toolCalls state).run record := by
  induction toolCalls with
  | nil => exact fun state record loop owes => ⟨loop, owes, rfl⟩
  | cons toolCall toolCalls ih =>
      intro state record loop owes
      refine Monitor.obeys_liftExcept (fun mark marked => ?_) fun _ _ => trivial
      refine Monitor.obeys_liftExcept (fun _ unseen => ?_) fun _ _ => trivial
      refine Monitor.obeys_liftExcept (fun _ room => ?_) fun _ _ => trivial
      have unseen := of_decide_eq_true (require_ok_iff.mp unseen)
      have room := of_decide_eq_true (require_ok_iff.mp room)
      refine Monitor.obeys_lift ⟨loop.counted ▸ room, fun earlier mem same => ?_⟩ fun result may => ?_
      · -- a repeated call would have the mark of the earlier one
        obtain ⟨mark', seen, marked'⟩ := loop.seen earlier mem
        have equal := fingerprint_of_sameCall (loop.checked earlier mem) same
        cases marked'.symm.trans (equal.trans marked)
        exact unseen seen
      · refine Monitor.obeys_liftExcept (fun result answered => ?_) fun _ _ => trivial
        have checked := may result answered
        have loop' : InLoop runtime
            { state with
              messages := state.messages ++ [.tool toolCall.id result]
              seenTools := mark :: state.seenTools
              toolCallCount := state.toolCallCount + 1 }
            (record.after (.execute actor toolCall.name toolCall.arguments)) := by
          constructor
          case counted => simp [AgentRecord.after, loop.counted]
          case seen =>
            intro call mem
            rcases List.mem_append.mp mem with before | new
            · obtain ⟨mark', seen, marked'⟩ := loop.seen call before
              exact ⟨mark', List.mem_cons_of_mem _ seen, marked'⟩
            · rw [List.mem_singleton.mp new]
              exact ⟨mark, List.mem_cons_self, marked⟩
          case checked =>
            intro call mem
            rcases List.mem_append.mp mem with before | new
            · exact loop.checked call before
            · rw [List.mem_singleton.mp new]
              exact checked
        refine ih _ _ loop' ?_
        rw [owed_concat, owes]
        simp [owedAfter]

-- What the checks of an answer compute plays no part here.
attribute [local irreducible] assertModelCompletion addUsage stringLength trim

/-- One call of the model, when the results of the calls before are there. -/
theorem loops_runIteration {more : AgentState → List AiToolCall → AiHandler AgentResult} {state : AgentState}
    {record : AgentRecord} (loop : InLoop runtime state record) (paid : owed [] state.messages = some [])
    (room : record.modelCalls.length ≤ config.maxToolIterations)
    (continues : ∀ state' toolCalls record', InLoop runtime state' record' →
      owed [] state'.messages = some (toolCalls.map (·.id)) →
      record'.modelCalls.length = record.modelCalls.length + 1 →
      Loops runtime config Any (more state' toolCalls).run record') :
    Loops runtime config Any (runIteration requestId more state).run record := by
  unfold runIteration
  refine Monitor.obeys_lift ⟨room, answered_of_owed paid⟩ fun answer _ => ?_
  refine Monitor.obeys_liftExcept (fun completion _ => ?_) fun _ _ => trivial
  refine Monitor.obeys_liftExcept (fun _ _ => ?_) fun _ _ => trivial
  refine Monitor.obeys_liftExcept (fun usage _ => ?_) fun _ _ => trivial
  split
  · refine Monitor.obeys_liftExcept (fun _ _ => ?_) fun _ _ => trivial
    exact Monitor.obeys_liftExcept (fun _ _ => trivial) fun _ _ => trivial
  · refine continues _ _ _ ⟨loop.counted, loop.seen, loop.checked⟩ ?_ (by simp [loopMonitor, AgentRecord.after])
    rw [owed_concat, paid]
    rfl

theorem loops_runIterations (remaining : Nat) :
    ∀ (state : AgentState) (record : AgentRecord), InLoop runtime state record → owed [] state.messages = some [] →
      record.modelCalls.length + remaining ≤ config.maxToolIterations →
      Loops runtime config Any
        (runIterations (fingerprinting runtime config) actor requestId remaining state).run record := by
  induction remaining with
  | zero => exact fun state record loop paid room => loops_runIteration loop paid room fun _ _ _ _ _ _ => trivial
  | succ remaining ih =>
      intro state record loop paid room
      refine loops_runIteration loop paid (by omega) fun state' toolCalls record' loop' owes called => ?_
      refine Monitor.obeys_bind (loops_runTools toolCalls state' record' loop' owes) fun after record'' holds => ?_
      obtain ⟨loop'', paid, same⟩ := holds
      exact ih after record'' loop'' paid (by rw [same, called]; omega)

theorem owed_history (history : List ChatMessage) (past : ∀ message ∈ history, ∃ role content,
    message = .past role content) : owed [] history = some [] := by
  induction history with
  | nil => rfl
  | cons message rest ih =>
      obtain ⟨role, content, rfl⟩ := past message List.mem_cons_self
      rw [owed_cons]
      exact ih fun message mem => past message (List.mem_cons_of_mem _ mem)

theorem loops_runAgent {history : List ChatMessage} {userMessage : String} (paid : owed [] history = some []) :
    Loops runtime config Any
      (runAgent (fingerprinting runtime config) actor history userMessage requestId).run {} := by
  refine loops_runIterations _ _ _ ⟨rfl, by simp, by simp⟩ ?_ (by simp)
  change owed [] (.system :: (history ++ [.user userMessage])) = some []
  rw [owed_cons]
  change owed [] (history ++ [.user userMessage]) = some []
  rw [owed_concat, paid]
  rfl

/-! ### The exchange around the loop -/

/-- Anything but a part of the loop. -/
def OutsideLoop : AiAct → Prop
  | .complete .. | .execute .. => False
  | _ => True

theorem OutsideLoop.neutral (record : AgentRecord) (act : AiAct) (outside : OutsideLoop act) :
    (loopMonitor runtime config).allowed record act ∧
      ∀ answer, (loopMonitor runtime config).after record act answer = record := by
  cases act <;> first | exact ⟨trivial, fun _ => rfl⟩ | exact outside.elim

theorem Quiet.outsideLoop (act : AiAct) (quiet : Quiet act) : OutsideLoop act := by
  cases act <;> trivial

theorem loops_of_every {process : Process AiAct AiAct.Res (Except AiFailure α)} {record : AgentRecord}
    (every : process.Every OutsideLoop) : Loops runtime config Any process record := by
  refine (Monitor.Obeys.of_every OutsideLoop.neutral every).mono fun outcome _ _ => ?_
  cases outcome <;> trivial

theorem loops_contextHistory {settings : AiConfig} {record : AgentRecord} :
    Loops runtime config (fun history record' => owed [] history = some [] ∧ record' = record)
      (contextHistory settings actor id).run record := by
  refine Monitor.obeys_lift trivial fun rows _ => ?_
  refine Monitor.obeys_liftExcept (fun rows _ => ⟨owed_history _ fun message mem => ?_, rfl⟩) fun _ _ => trivial
  obtain ⟨row, _, rfl⟩ := List.mem_map.mp mem
  exact ⟨row.role, row.content, rfl⟩

theorem loops_exchange {message : String} {startedAt : Int} :
    Loops runtime config Any (exchange (fingerprinting runtime config) actor id requestId message startedAt).run {} := by
  refine Monitor.Obeys.bind (fun prepared record (_ : Any prepared record) => ?_) ?_
  · apply loops_of_every
    cases prepared with
    | error failure => trivial
    | ok prepared =>
        refine Process.every_recover (quiet_persistExchange.mono Quiet.outsideLoop) fun failure => ?_
        refine Process.every_bind (quiet_recoverCommitted.mono Quiet.outsideLoop) fun recovered => ?_
        cases recovered <;> trivial
  · refine Monitor.Obeys.mono (fun _ _ _ => trivial) (Monitor.obeys_bind (R := Any) loops_contextHistory ?_)
    rintro history record ⟨paid, rfl⟩
    refine Monitor.obeys_bind (loops_runAgent paid) fun result record _ => ?_
    exact Monitor.obeys_lift trivial fun _ _ => trivial

theorem outside_createConversation {settings : AiConfig} {expiresAt : Int} :
    (createConversation settings actor requestId expiresAt).run.Every OutsideLoop := by
  refine every_ask trivial fun count => every_check fun count => every_check fun _ => ?_
  exact every_ask trivial fun _ => Process.every_liftExcept

theorem outside_acquireConversation {settings : AiConfig} {expiresAt : Int} :
    (acquireConversation settings actor id requestId expiresAt).run.Every OutsideLoop := by
  refine every_ask trivial fun acquired => every_check fun acquired => ?_
  cases acquired with
  | some conversation => trivial
  | none =>
      refine every_ask trivial fun found => every_check fun found => every_check fun existing => ?_
      exact every_check fun _ => every_check fun _ => trivial

theorem loops_chat (dto : AiChatDto) :
    Loops runtime config Any (chat (fingerprinting runtime config) actor dto).run {} := by
  refine Monitor.obeys_liftExcept (fun _ _ => ?_) fun _ _ => trivial
  refine Monitor.obeys_liftExcept (fun _ _ => ?_) fun _ _ => trivial
  refine Monitor.obeys_lift trivial fun requestId _ => ?_
  refine Monitor.obeys_lift trivial fun startedAt _ => ?_
  refine Monitor.obeys_bind (Q := fun _ record => record = {}) ?_ ?_
  · refine Monitor.obeys_recover (E := Any) ?_ fun _ _ _ => trivial
    refine (Monitor.Obeys.of_every OutsideLoop.neutral ?_).mono fun outcome record same => ?_
    · split
      · exact outside_createConversation
      · exact outside_acquireConversation
    · cases outcome with
      | ok conversation => exact same
      | error failure => trivial
  · rintro conversation record rfl
    refine Monitor.Obeys.mono (fun outcome _ _ => by cases outcome <;> trivial)
      (Monitor.obeys_withCleanup loops_exchange fun record => ?_)
    exact (loops_of_every (quiet_cleanup.mono Quiet.outsideLoop)).mono fun _ _ _ => trivial

theorem loops_handler (job : AiJob) :
    (loopMonitor runtime config).Obeys (Possible runtime) Any ((agentMachine runtime config).handler job) {} := by
  cases job with
  | chat actor dto => exact (loops_chat dto).mono fun _ _ _ => trivial
  | delete actor id =>
      refine Monitor.Obeys.mono (fun _ _ _ => trivial) (loops_of_every ?_)
      refine every_ask ?_ fun _ => every_check fun _ => trivial
      trivial

/-! ### The provider of an exchange

A provider that has answered is the selected one for the rest of the exchange. Before that the router may move on
from one that has failed, so the calls before the first answer are failures and those after it go to one provider.
-/

/-- Once a provider has answered, every later call goes to it. Before that a failed call may go on to the next
provider. -/
def Pinned (calls : List ProviderCall) : Prop :=
  calls.Pairwise fun earlier later => earlier.answered → later.provider = earlier.provider

/-- The calls keep to one provider, and it is the selected one as soon as it has answered. -/
def PinSound (selected : Option AiProvider) (calls : List ProviderCall) : Prop :=
  Pinned calls ∧ ∀ call ∈ calls, call.answered → selected = some call.provider

/-- The calls for one run. -/
def AgentWorld.callsOf (w : AgentWorld) (run : Nat) : List ProviderCall :=
  (w.calls.filter fun call => call.1 = run).map (·.2)

section Pin

variable {selected : Option AiProvider} {provider : AiProvider} {clients : Clients} {calls before : List ProviderCall}

/-- One more call of a provider that no other one excludes. -/
theorem PinSound.call (answered : Bool) (sound : PinSound selected calls)
    (fits : selected = none ∨ selected = some provider) :
    PinSound (if answered then some provider else selected) (calls ++ [⟨provider, answered⟩]) := by
  obtain ⟨pinned, answers⟩ := sound
  have earlier : ∀ call ∈ calls, call.answered → provider = call.provider := by
    intro call mem answered
    have there := answers call mem answered
    rcases fits with none | same
    · cases none.symm.trans there
    · exact Option.some.inj (same.symm.trans there)
  constructor
  · refine List.pairwise_append.mpr ⟨pinned, List.pairwise_singleton _ _, fun call mem later isLater => ?_⟩
    rw [List.mem_singleton.mp isLater]
    exact earlier call mem
  · intro call mem answered'
    rcases List.mem_append.mp mem with old | new
    · cases answered with
      | true => exact congrArg some (earlier call old answered')
      | false => exact answers call old answered'
    · rw [List.mem_singleton.mp new] at answered' ⊢
      cases answered' with
      | refl => rfl

theorem pinSound_call (sound : PinSound selected (calls ++ before)) (fits : selected = none ∨ selected = some provider) :
    PinSound (clients.call provider selected before).selected (calls ++ (clients.call provider selected before).calls) := by
  unfold Clients.call
  split
  · simpa using sound.call true fits
  · simpa using sound.call false fits

/-- The router keeps an exchange with the provider that has answered it. -/
theorem pinSound_route (sound : PinSound selected calls) :
    PinSound (route config clients selected).selected (calls ++ (route config clients selected).calls) := by
  have start : PinSound selected (calls ++ []) := by simpa using sound
  unfold route
  cases selected with
  | some pinned => exact pinSound_call start (.inr rfl)
  | none =>
      have gemini : ∀ before, PinSound none (calls ++ before) →
          PinSound (if config.geminiEnabled then clients.call .gemini none before
            else { answer := .error (.provider .unavailable), selected := none, calls := before }).selected
          (calls ++ (if config.geminiEnabled then clients.call .gemini none before
            else { answer := .error (.provider .unavailable), selected := none, calls := before }).calls) := by
        intro before sound
        split
        · exact pinSound_call sound (.inl rfl)
        · exact sound
      simp only
      split
      · split
        · exact pinSound_call start (.inl rfl)
        · split
          · exact pinSound_call start (.inl rfl)
          · exact gemini [_] (sound.call false (.inl rfl))
      · exact gemini [] start

end Pin

section Steps

variable {w w' : AgentWorld} {choice : AgentChoice}

/-- An action asks providers for its own run alone. -/
theorem pinSound_exec {act : AiAct} {answer : act.Res} (executed : agentExec runtime config run choice act w = some (answer, w'))
    (sound : ∀ k, PinSound (w.selected k) (w.callsOf k)) (k : Nat) : PinSound (w'.selected k) (w'.callsOf k) := by
  cases act with
  | complete messages requestId =>
      cases executed
      by_cases same : k = run
      · have calls : ∀ routed : List ProviderCall,
            (((routed.map fun call => (run, call)).filter fun call => call.1 = k).map (·.2)) = routed := by
          intro routed
          simp [same, List.filter_map, Function.comp_def]
        have routed : PinSound (route config choice.clients (w.selected k)).selected
            (w.callsOf k ++ (route config choice.clients (w.selected k)).calls) := pinSound_route (sound k)
        simp only [AgentWorld.callsOf, List.filter_append, List.map_append, calls]
        simpa [AgentWorld.callsOf, same] using routed
      · simpa [AgentWorld.callsOf, same, List.filter_map, Function.comp_def, Ne.symm same] using sound k
  | execute =>
      cases executed
      exact sound k
  | _ =>
      simp only [agentExec, Option.map_eq_some_iff] at executed
      obtain ⟨_, _, same⟩ := executed
      cases same
      exact sound k

theorem possible_exec {act : AiAct} {answer : act.Res}
    (executed : agentExec runtime config run choice act w = some (answer, w')) : Possible runtime act answer := by
  cases act with
  | execute actor name raw =>
      cases executed
      intro result answered
      obtain ⟨_, checked, _⟩ := bind_ok_iff.mp answered
      exact checked
  | _ => trivial

end Steps

/-! ### The discipline of the loop -/

/-- In every interleaving, whatever the model, its providers and the tools answer, each run keeps the discipline of the
loop and stays with the provider that has answered it. -/
theorem agent_loop_discipline {s s' : System AiAct AiAct.Res AgentWorld (Except AiFailure AiReply)}
    {events : List (Event AgentChoice Nat AiJob)} (idle : s.runs = []) (unasked : s.world.calls = [])
    (reached : (agentMachine runtime config).Run (fun _ _ => True) s events s') (run : Nat) :
    LoopDiscipline runtime config (((agentMachine runtime config).actions run events s).foldl AgentRecord.after {}) ∧
      Pinned (s'.world.callsOf run) := by
  constructor
  · have accepted := reached.accepted (M := loopMonitor runtime config) (k := run) loops_handler
      (fun _ _ _ _ _ _ executed => possible_exec executed) (by rw [idle]; rfl)
    have start : LoopDiscipline runtime config {} := by
      constructor <;> simp
    have kept := accepted.keeps (fun _ _ _ holds allowed => loopDiscipline_after holds allowed) start
    rw [Machine.actions, List.foldl_map]
    exact kept
  · have start : ∀ k, PinSound (s.world.selected k) (s.world.callsOf k) := by
      intro k
      rw [AgentWorld.callsOf, unasked]
      exact ⟨List.Pairwise.nil, by simp⟩
    have kept : ∀ k, PinSound (s'.world.selected k) (s'.world.callsOf k) := by
      refine reached.keeps (P := fun s => ∀ k, PinSound (s.world.selected k) (s.world.callsOf k)) ?_ start
      intro s event s' sound _ applied
      cases Machine.apply_moves applied with
      | arrival _ same => rw [same]; exact sound
      | action _ executed => exact pinSound_exec executed sound
      | drifted happened =>
          rw [← Option.some.inj happened]
          exact sound
    exact (kept run).1

/-! ### A run -/

/-- JSON as far as this run needs it. -/
def emptyObjects : JsonRuntime where
  parse text := if text = "{}" then some (.object []) else none
  stringify value := match value with
    | .object [] => "{}"
    | _ => ""
  localeCompare _ _ := 0
  keys_nodup text properties parsed := by
    split at parsed <;> cases parsed
    exact List.nodup_nil

def bothProviders : AiConfig := { settings with geminiEnabled := true }

/-- The first provider is busy, the second one asks for a tool. -/
def asking : AgentChoice where
  base := { uuid := 7, result := .ok "{}" }
  clients :=
    { complete := fun
        | .openrouter => .error (.provider .rateLimit none)
        | .gemini => .ok
            { content := none, toolCalls := [⟨"call-1", "get_company_profile", "{}"⟩], model := "m"
              promptTokens := 1, completionTokens := 1, totalTokens := 2, provider := some .gemini } }

/-- Both providers answer. -/
def done : AgentChoice where
  clients :=
    { complete := fun _ => .ok { content := some "Hi", model := "m", promptTokens := 1, completionTokens := 1, totalTokens := 2 } }

/-- One exchange with one tool. -/
def toolExchange : List (Event AgentChoice Nat AiJob) :=
  .arrive (.chat owner { message := "Hello" }) :: List.replicate 7 (.step 0 asking) ++ List.replicate 5 (.step 0 done)

theorem agent_loop_discipline_tool :
    ∃ s', (agentMachine emptyObjects bothProviders).play toolExchange ⟨⟨{ clock := 0 }, fun _ => none, []⟩, []⟩ = some s' ∧
      LoopDiscipline emptyObjects bothProviders
        (((agentMachine emptyObjects bothProviders).actions 0 toolExchange ⟨⟨{ clock := 0 }, fun _ => none, []⟩, []⟩).foldl
          AgentRecord.after {}) ∧
      Pinned (s'.world.callsOf 0) ∧
      s'.world.callsOf 0 = [⟨.openrouter, false⟩, ⟨.gemini, true⟩, ⟨.gemini, true⟩] ∧
      s'.world.base.usage.map (·.toolCallCount) = [1] := by
  have plays : ((agentMachine emptyObjects bothProviders).play toolExchange
      ⟨⟨{ clock := 0 }, fun _ => none, []⟩, []⟩).any fun s' => Decidable.decide
        (s'.world.callsOf 0 = [⟨.openrouter, false⟩, ⟨.gemini, true⟩, ⟨.gemini, true⟩] ∧
          s'.world.base.usage.map (·.toolCallCount) = [1]) := by
    decide +kernel
  obtain ⟨s', played, checked⟩ := (Option.any_eq_true ..).mp plays
  obtain ⟨calls, tools⟩ := of_decide_eq_true checked
  obtain ⟨discipline, pinned⟩ := agent_loop_discipline rfl rfl (Machine.run_of_play played) 0
  exact ⟨s', played, discipline, pinned, calls, tools⟩

end DataVault.Ai
