/-
Module: DataVault.Ai.ConversationLaw
Layer: Proof
Purpose: The law of conversations, over all interleavings of chat requests and deletions: a conversation counts its
  messages, messages come in exchanges with their usage record, and a request that has lost its lease commits nothing.
Imports: DataVault.Ai.ConversationInvariants
Trusted boundary: none
Main exports: requestContract, ConversationLaw, conversation_law
-/
import DataVault.Ai.ConversationInvariants

namespace DataVault.Ai

open DataVault.Control DataVault.Interleaving DataVault.Store DataVault.Users

variable {config : AiConfig} {w w' : AiWorld} {s s' : AiSystem} {event : AiEvent} {events : List AiEvent}
variable {actor : AuthenticatedUser} {run requestId id : Nat} {α β : Type}

/-! ### Request ids -/

/-- Between two steps of a run the request ids that it has drawn stay unused; it asks for a conversation with such an
id alone. -/
def requestContract (config : AiConfig) : Contract (aiMachine config) where
  rely run w w' := ∀ requestId, Unused run requestId w → Unused run requestId w'
  inv w := LeasesSound w ∧ ∃ exchanges, ConversationsSound config w exchanges
  needs run act w := Asking w (some (run, act))
  ends _ := Any

/-- Anything but a request for a conversation. -/
def Ordinary : AiAct → Prop
  | .createConversation .. | .acquireConversation .. => False
  | _ => True

theorem Ordinary.foreign {act : AiAct} (ordinary : Ordinary act) :
    ∀ other requestId, ¬Acquires other requestId (some (run, act)) := by
  rintro other requestId (⟨_, _, same⟩ | ⟨_, _, _, same⟩) <;> cases same <;> exact ordinary

theorem meets_of_ordinary {process : Process AiAct AiAct.Res α} (every : process.Every Ordinary) :
    (requestContract config).Meets run Any process w :=
  Contract.meets_any_of_every (fun _ _ ordinary _ _ acquires => absurd acquires (ordinary.foreign _ _)) every

/-- Neither a request for a conversation nor a part of the loop. -/
def Quiet : AiAct → Prop
  | .createConversation .. | .acquireConversation .. | .complete .. | .execute .. => False
  | _ => True

theorem Quiet.ordinary (act : AiAct) (quiet : Quiet act) : Ordinary act := by
  cases act <;> trivial

variable {P : AiAct → Prop}

theorem every_ask {act : AiAct} {next : act.Res → AiHandler α} (holds : P act)
    (later : ∀ answer, (next answer).run.Every P) : (ask act >>= next).run.Every P :=
  ⟨holds, later⟩

theorem every_check {outcome : Except AiFailure α} {next : α → AiHandler β}
    (later : ∀ value, (next value).run.Every P) : (check outcome >>= next).run.Every P :=
  Process.every_bind Process.every_liftExcept later

theorem quiet_ownedConversation : (ownedConversation actor id).run.Every Quiet := by
  refine ⟨trivial, fun found => ?_⟩
  exact every_check fun _ => Process.every_liftExcept

theorem quiet_contextHistory : (contextHistory config actor id).run.Every Quiet := by
  refine ⟨trivial, fun rows => ?_⟩
  exact every_check fun _ => trivial

theorem ordinary_runTools (toolCalls : List AiToolCall) :
    ∀ state : AgentState, (runTools config actor toolCalls state).run.Every Ordinary := by
  induction toolCalls with
  | nil => exact fun _ => trivial
  | cons toolCall rest ih =>
      intro state
      refine every_check fun fingerprint => ?_
      refine every_check fun _ => ?_
      refine every_check fun _ => ?_
      refine ⟨trivial, fun result => ?_⟩
      exact every_check fun _ => ih _

-- What the checks of an answer compute plays no part here.
attribute [local irreducible] assertModelCompletion addUsage stringLength trim

/-- Two checks before an answer. -/
theorem ordinary_answer {one two : Except AiFailure Unit} {result : AgentResult} :
    (do check one; check two; pure result : AiHandler AgentResult).run.Every Ordinary := by
  cases one <;> cases two <;> trivial

theorem ordinary_runIteration {more : AgentState → List AiToolCall → AiHandler AgentResult}
    (ordinary : ∀ state toolCalls, (more state toolCalls).run.Every Ordinary) (state : AgentState) :
    (runIteration requestId more state).run.Every Ordinary := by
  unfold runIteration
  refine every_ask trivial fun completion => ?_
  refine every_check fun completion => ?_
  refine every_check fun _ => ?_
  refine every_check fun usage => ?_
  split
  · exact ordinary_answer
  · exact ordinary _ _

theorem ordinary_runIterations (remaining : Nat) :
    ∀ state : AgentState, (runIterations config actor requestId remaining state).run.Every Ordinary := by
  induction remaining with
  | zero => exact ordinary_runIteration fun _ _ => trivial
  | succ remaining ih =>
      exact ordinary_runIteration fun state toolCalls =>
        Process.every_bind (ordinary_runTools toolCalls state) fun state => ih state

theorem quiet_persistExchange {user : String} {result : AgentResult} {duration : Int} :
    (persistExchange actor id requestId user result duration).run.Every Quiet := by
  refine ⟨trivial, fun persisted => ?_⟩
  refine every_check fun ids => ?_
  exact Process.every_bind (Process.every_recover quiet_ownedConversation fun _ => trivial) fun _ => trivial

theorem quiet_recoverCommitted : (recoverCommitted actor requestId).run.Every Quiet := by
  refine Process.every_recover ⟨trivial, fun found => ?_⟩ fun _ => trivial
  refine every_check fun usage => ?_
  cases usage with
  | none => trivial
  | some usage =>
      apply Process.every_bind quiet_ownedConversation
      intro conversation
      refine ⟨trivial, fun assistant => every_check fun assistant => ?_⟩
      cases assistant <;> trivial

theorem quiet_cleanup {newlyCreated : Bool} : (cleanup actor newlyCreated id requestId).run.Every Quiet := by
  cases newlyCreated <;> exact ⟨trivial, fun _ => trivial⟩

theorem ordinary_exchange {message : String} {startedAt : Int} :
    (exchange config actor id requestId message startedAt).run.Every Ordinary := by
  refine Process.Every.bind (fun prepared => ?_) ?_
  · cases prepared with
    | error failure => trivial
    | ok prepared =>
        refine Process.every_recover (quiet_persistExchange.mono Quiet.ordinary) fun failure => ?_
        refine Process.every_bind (quiet_recoverCommitted.mono Quiet.ordinary) fun recovered => ?_
        cases recovered <;> trivial
  · apply Process.every_bind (quiet_contextHistory.mono Quiet.ordinary)
    intro history
    apply Process.every_bind (ordinary_runIterations _ _)
    intro result
    exact ⟨trivial, fun _ => trivial⟩

theorem Ordinary.relies {choice : AiChoice} {act : AiAct} {answer : act.Res} (ordinary : Ordinary act)
    (distinct : DistinctIds w) (executed : (aiMachine config).exec run choice act w = some (answer, w')) :
    (requestContract config).rely run w w' :=
  fun _ unused => (move_exec distinct executed).unused unused fun _ => ordinary.foreign _ _

theorem meets_createConversation {expiresAt : Int} (unused : Unused run requestId w) :
    (requestContract config).Meets run (Ends (fun _ _ => True) Any)
      (createConversation config actor requestId expiresAt).run w := by
  have ordinary : Ordinary (.countConversations actor) := trivial
  refine Contract.meets_lift fun w₁ relied sound => ⟨fun _ _ asks => absurd asks (ordinary.foreign _ _), ?_⟩
  intro choice count w₂ executed
  obtain ⟨exchanges, conversations⟩ := sound.2
  have unused := ordinary.relies conversations.distinct executed _ (relied _ unused)
  refine Contract.meets_liftExcept (fun count _ => ?_) fun _ _ => trivial
  refine Contract.meets_liftExcept (fun _ _ => ?_) fun _ _ => trivial
  refine Contract.meets_lift fun w₃ relied _ => ⟨?_, fun _ created _ _ => by cases created <;> trivial⟩
  rintro other asked (⟨_, _, same⟩ | ⟨_, _, _, same⟩)
  · cases same
    exact relied _ unused
  · cases same

theorem meets_acquireConversation {expiresAt : Int} (unused : Unused run requestId w) :
    (requestContract config).Meets run (Ends (fun _ _ => True) Any)
      (acquireConversation config actor id requestId expiresAt).run w := by
  refine Contract.meets_lift fun w₁ relied _ => ⟨?_, fun _ acquired _ _ => ?_⟩
  · rintro other asked (⟨_, _, same⟩ | ⟨_, _, _, same⟩)
    · cases same
    · cases same
      exact relied _ unused
  · refine Contract.meets_liftExcept (fun acquired _ => ?_) fun _ _ => trivial
    cases acquired with
    | some conversation => trivial
    | none =>
        refine Contract.Meets.mono (fun outcome _ _ => by cases outcome <;> trivial) (meets_of_ordinary ?_)
        refine every_ask trivial fun found => every_check fun found => every_check fun existing => ?_
        exact every_check fun _ => every_check fun _ => trivial

/-- A request asks for one conversation, with the id that it has drawn. -/
theorem meets_chat (dto : AiChatDto) :
    (requestContract config).Meets run (Ends (fun _ _ => True) Any) (chat config actor dto).run w := by
  refine Contract.meets_liftExcept (fun _ _ => ?_) fun _ _ => trivial
  refine Contract.meets_liftExcept (fun _ _ => ?_) fun _ _ => trivial
  refine Contract.meets_lift fun w₁ _ sound => ⟨?_, fun choice requestId w₂ executed => ?_⟩
  · rintro other requestId (⟨_, _, same⟩ | ⟨_, _, _, same⟩) <;> cases same
  have drawn : Unused run requestId w₂ := by
    simp only [aiMachine, aiExec] at executed
    split at executed
    · cases executed
    · rename_i fresh
      cases executed
      refine ⟨List.mem_cons_self, fun had => fresh ?_⟩
      obtain ⟨drawn, there, same⟩ := List.mem_map.mp (sound.1.acquired _ had)
      exact List.any_eq_true.mpr ⟨drawn, there, decide_eq_true same⟩
  have ordinary : Ordinary .now := trivial
  refine Contract.meets_lift fun w₃ relied sound => ⟨fun _ _ asks => absurd asks (ordinary.foreign _ _), ?_⟩
  intro choice startedAt w₄ executed
  obtain ⟨exchanges, conversations⟩ := sound.2
  have unused := ordinary.relies conversations.distinct executed _ (relied _ drawn)
  refine Contract.meets_bind (Q := fun _ _ => True) (Contract.meets_recover (E := Any) ?_ fun _ _ _ => trivial) ?_
  · cases dto.conversationId with
    | none => exact meets_createConversation unused
    | some id => exact meets_acquireConversation unused
  · intro conversation w _
    exact Contract.Meets.mono (fun outcome _ _ => by cases outcome <;> trivial)
      (meets_of_ordinary (Process.every_withCleanup ordinary_exchange (quiet_cleanup.mono Quiet.ordinary)))

theorem handler_meets (job : AiJob) (run : Nat) (w : AiWorld) :
    (requestContract config).Meets run Any ((aiMachine config).handler job) w := by
  cases job with
  | chat actor dto => exact Contract.Meets.mono (fun _ _ _ => trivial) (meets_chat dto)
  | delete actor id =>
      exact meets_of_ordinary (every_ask trivial fun _ => every_check fun _ => trivial)

theorem requestContract_sound :
    (requestContract config).Sound (fun _ _ _ _ => True) (fun _ _ => True) where
  refl _ _ _ unused := unused
  trans one two requestId unused := two requestId (one requestId unused)
  step sound needs _ executed other differs requestId unused := by
    obtain ⟨leases, exchanges, conversations⟩ := sound
    refine (move_exec conversations.distinct executed).unused unused fun run asks => ?_
    -- a request id was drawn by one run alone
    have entry := List.inj_on_of_nodup_map leases.requests (needs run requestId asks).1 unused.1 rfl
    rcases asks with ⟨_, _, same⟩ | ⟨_, _, _, same⟩ <;> cases same <;> exact differs (Prod.mk.inj entry).1.symm
  keeps sound needs _ executed := by
    obtain ⟨leases, exchanges, conversations⟩ := sound
    have move := move_exec conversations.distinct executed
    refine ⟨move.leasesSound needs leases, ?_⟩
    rcases move.conversationsSound conversations with sound | ⟨_, _, _, sound⟩ <;> exact ⟨_, sound⟩
  drift sound _ happened _ _ unused := by
    cases happened
    exact unused
  driftKeeps sound _ happened := by
    obtain ⟨leases, exchanges, conversations⟩ := sound
    cases happened
    exact ⟨⟨leases.requests, leases.acquired, leases.holders, leases.unique⟩, exchanges,
      conversations.congr rfl rfl rfl rfl⟩
  handler := handler_meets
  ended _ _ := trivial

/-! ### The law of conversations -/

theorem permits (event : AiEvent) : Contract.Permits (fun _ _ _ _ => True) (fun _ _ => True) s event := by
  cases event with
  | step run choice => exact fun _ _ _ => trivial
  | arrive | drift => trivial

/-- A step of the system, in which every run knows what its contract asks for. -/
theorem step_apply (all : Contract.AllMeet (requestContract config) s)
    (applied : (aiMachine config).apply s event = some s') :
    ∃ carried, Move config s.world s'.world carried ∧ Asking s.world carried ∧
      (∀ run act, carried = some (run, act) ↔ Machine.Performs run act s event) ∧
      Contract.AllMeet (requestContract config) s' := by
  obtain ⟨exchanges, conversations⟩ := all.inv.2
  obtain ⟨carried, move, asked⟩ := move_apply conversations.distinct applied
  refine ⟨carried, move, fun run requestId acquires => ?_, asked,
    requestContract_sound.allMeet_apply all (permits event) applied⟩
  obtain ⟨act, rfl⟩ : ∃ act, carried = some (run, act) := by
    rcases acquires with ⟨_, _, same⟩ | ⟨_, _, _, same⟩ <;> exact ⟨_, same⟩
  obtain ⟨choice, resume, _, waiting⟩ := (asked run act).mp rfl
  exact (all.meets run _ waiting s.world (requestContract_sound.refl _ _) all.inv).1 run requestId acquires

theorem allMeet_run (all : Contract.AllMeet (requestContract config) s) (run : AiRun config s events s') :
    Contract.AllMeet (requestContract config) s' :=
  run.keeps (P := Contract.AllMeet (requestContract config))
    (fun _ event _ all _ applied => requestContract_sound.allMeet_apply all (permits event) applied) all

/-- The step commits an exchange to the conversation whose lease its request holds. -/
def Commits (s s' : AiSystem) (event : AiEvent) : Prop :=
  ∃ (run : Nat) (exchange : Exchange), ∃ conversation ∈ s.world.conversations,
    (∃ actor id user assistant totals calls duration, Machine.Performs run
      (.persistExchange actor id exchange.usage.requestId user assistant totals calls duration) s event) ∧
    conversation.activeRequestId = some exchange.usage.requestId ∧ exchange.usage.conversationId = conversation.id ∧
    s'.world.usage = s.world.usage ++ [exchange.usage] ∧ s'.world.messages = s.world.messages ++ exchange.messages

/-- Another request takes the lease of a conversation over. -/
def TakenOver (requestId : Nat) (s s' : AiSystem) : Prop :=
  ∃ conversation ∈ s.world.conversations, conversation.activeRequestId = some requestId ∧
    ∃ changed ∈ s'.world.conversations, changed.id = conversation.id ∧
      ∃ other, changed.activeRequestId = some other ∧ other ≠ requestId

/-- What every reachable state and every run from there on obeys. The first fields are about the state, the others about
the steps and the runs that begin there. -/
structure ConversationLaw (config : AiConfig) (s : AiSystem) : Prop where
  /-- Conversations have distinct ids. -/
  ids : (s.world.conversations.map (·.id)).Nodup
  /-- A conversation counts its messages, two for each exchange that was committed to it, up to the limit. -/
  counted : ∀ conversation ∈ s.world.conversations,
    conversation.messageCount =
      (countDocuments s.world.messages fun message => message.conversationId = conversation.id : Nat) ∧
    conversation.messageCount =
      2 * (countDocuments s.world.usage fun usage => usage.conversationId = conversation.id : Nat) ∧
    conversation.messageCount ≤ config.maxConversationMessages
  /-- The messages are those of the exchanges of the stored conversations, each with its usage record. -/
  paired : ∃ exchanges : List Exchange, s.world.usage = exchanges.map (·.usage) ∧
    s.world.messages = (exchanges.filter fun exchange => s.world.stores exchange.usage.conversationId).flatMap (·.messages)
  /-- A request id has one usage record at most. -/
  requests : (s.world.usage.map (·.requestId)).Nodup
  /-- A deleted conversation leaves no messages. -/
  stored : ∀ message ∈ s.world.messages, s.world.stores message.conversationId = true
  /-- Messages and usage records are added by commits alone. -/
  committed : ∀ event s', (aiMachine config).apply s event = some s' →
    s'.world.usage = s.world.usage ∧ s'.world.messages.Sublist s.world.messages ∨ Commits s s' event
  /-- A request whose lease was taken over commits nothing any more. -/
  fenced : ∀ requestId event s', (aiMachine config).apply s event = some s' → TakenOver requestId s s' →
    ∀ later s'', AiRun config s' later s'' → ∀ event' s₃, (aiMachine config).apply s'' event' = some s₃ →
      ∀ usage ∈ s₃.world.usage, usage.requestId = requestId → usage ∈ s''.world.usage
  /-- A conversation with messages stays in every step but a deletion. -/
  cleaned : ∀ event s', (aiMachine config).apply s event = some s' →
    (∀ run actor id, ¬Machine.Performs run (.delete actor id) s event) → ∀ conversation ∈ s.world.conversations,
      (∃ message ∈ s.world.messages, message.conversationId = conversation.id) →
        s'.world.stores conversation.id = true

/-- The messages of a stored conversation are two for each of its exchanges. -/
theorem count_messages {stored : Nat → Bool} (exchanges : List Exchange) (kept : stored id = true) :
    (countDocuments ((exchanges.filter fun exchange => stored exchange.usage.conversationId).flatMap (·.messages))
        fun message => message.conversationId = id) =
      2 * countDocuments exchanges fun exchange => exchange.usage.conversationId = id := by
  induction exchanges with
  | nil => rfl
  | cons exchange rest ih =>
      have placed : exchange.user.conversationId = exchange.usage.conversationId ∧
          exchange.assistant.conversationId = exchange.usage.conversationId :=
        ⟨exchange.userConcerns.1, exchange.assistantConcerns.1⟩
      by_cases same : exchange.usage.conversationId = id
      · rw [List.filter_cons_of_pos (by simp [same, kept]), List.flatMap_cons, countDocuments_append, ih]
        simp [countDocuments, Exchange.messages, placed, same]
        omega
      · rw [countDocuments_cons, if_neg (by simpa using same), Nat.add_zero, ← ih]
        cases there : stored exchange.usage.conversationId with
        | false => rw [List.filter_cons_of_neg (by simp [there])]
        | true =>
            rw [List.filter_cons_of_pos (by simp [there]), List.flatMap_cons, countDocuments_append]
            simp [countDocuments, Exchange.messages, placed, same]

theorem count_usage (exchanges : List Exchange) :
    (countDocuments (exchanges.map (·.usage)) fun usage => usage.conversationId = id) =
      countDocuments exchanges fun exchange => exchange.usage.conversationId = id := by
  rw [countDocuments, countDocuments, List.countP_map]
  rfl

/-- A step commits an exchange or adds nothing. -/
theorem commits_of_move {carried : Option (Nat × AiAct)} (move : Move config s.world s'.world carried)
    (asked : ∀ run act, carried = some (run, act) ↔ Machine.Performs run act s event) :
    s'.world.usage = s.world.usage ∧ s'.world.messages.Sublist s.world.messages ∨ Commits s s' event := by
  cases move
  case idle becomes | drawn becomes | created becomes | leased becomes | released becomes | discarded becomes =>
    rw [becomes]
    exact .inl ⟨rfl, List.Sublist.refl _⟩
  case deleted becomes =>
    rw [becomes]
    exact .inl ⟨rfl, List.filter_sublist⟩
  case committed run requestId exchange conversation performed mem named placed leased _ _ becomes =>
    subst named
    obtain ⟨actor, id, user, assistant, totals, calls, duration, performed⟩ := performed
    refine .inr ⟨run, exchange, conversation, mem, ⟨actor, id, user, assistant, totals, calls, duration,
      (asked _ _).mp performed⟩, leased, placed.1, ?_, ?_⟩
    · rw [becomes]
    · rw [becomes]

/-- A lease that is taken over is lost. -/
theorem lost_of_takenOver {carried : Option (Nat × AiAct)} (move : Move config s.world s'.world carried)
    (asking : Asking s.world carried) (leases : LeasesSound s.world) (distinct : DistinctIds s'.world)
    (taken : TakenOver requestId s s') : Lost requestId s'.world := by
  obtain ⟨conversation, mem, held, changed, changedMem, same, other, now, differs⟩ := taken
  have had := leases.holders conversation mem requestId held
  refine ⟨move.drawn_subset.2 had, fun third there holds => ?_⟩
  obtain ⟨target, holder⟩ := move.holder
  rcases holder third there requestId holds with ⟨before, beforeMem, named, holds'⟩ | ⟨_, ⟨run, asks⟩, _⟩
  · have equal := leases.unique before beforeMem conversation mem requestId holds' held
    obtain rfl := List.inj_on_of_nodup_map distinct there changedMem (named.symm.trans (equal.trans same.symm))
    exact differs (Option.some.inj (now.symm.trans holds))
  · exact (asking run requestId asks).2 had

/-- Every state that is reached from an empty database obeys the law of conversations, and so does every run from there
on: whatever requests arrive, however they interleave, and whichever of their transactions abort or commit without an
answer. -/
theorem conversation_law (idle : s.runs = []) (empty : s.world = { clock := s.world.clock })
    (reached : AiRun config s events s') : ConversationLaw config s' := by
  have start : Contract.AllMeet (requestContract config) s := by
    refine .idle ⟨?_, [], ?_⟩ idle
    · rw [empty]
      constructor <;> simp
    · rw [empty]
      constructor <;> simp [AiWorld.shelf]
  have all := allMeet_run start reached
  obtain ⟨leases, exchanges, sound⟩ := all.inv
  have counts : ∀ conversation ∈ s'.world.conversations, conversation.messageCount =
      2 * (countDocuments exchanges fun exchange => exchange.usage.conversationId = conversation.id : Nat) :=
    fun conversation mem => sound.counted conversation.unleased (mem_shelf mem)
  have stores : ∀ conversation ∈ s'.world.conversations, s'.world.stores conversation.id = true :=
    fun conversation mem => stores_iff.mpr ⟨_, mem_shelf mem, rfl⟩
  constructor
  case ids => exact sound.distinct
  case counted =>
    intro conversation mem
    refine ⟨?_, ?_, sound.bounded conversation.unleased (mem_shelf mem)⟩
    · rw [counts conversation mem, sound.messages, count_messages exchanges (stores conversation mem)]
      simp
    · rw [counts conversation mem, sound.usage, count_usage]
  case paired => exact ⟨exchanges, sound.usage, sound.messages⟩
  case requests => exact sound.requests
  case stored =>
    intro message mem
    rw [sound.messages] at mem
    obtain ⟨exchange, there, mine⟩ := List.mem_flatMap.mp mem
    rw [(Exchange.mem_messages mine).1]
    exact (List.mem_filter.mp there).2
  case committed =>
    intro event s'' applied
    obtain ⟨carried, move, _, asked, _⟩ := step_apply all applied
    exact commits_of_move move asked
  case fenced =>
    intro requestId event s₁ applied taken later s₂ run event' s₃ applied' usage mem named
    obtain ⟨carried, move, asking, _, all₁⟩ := step_apply all applied
    obtain ⟨_, _, sound₁⟩ := all₁.inv
    have lost := lost_of_takenOver move asking leases sound₁.distinct taken
    obtain ⟨all₂, lost₂⟩ : Contract.AllMeet (requestContract config) s₂ ∧ Lost requestId s₂.world := by
      refine run.keeps (P := fun s => Contract.AllMeet (requestContract config) s ∧ Lost requestId s.world) ?_ ⟨all₁, lost⟩
      rintro s event s' ⟨all, lost⟩ _ applied
      obtain ⟨carried, move, asking, _, all'⟩ := step_apply all applied
      exact ⟨all', move.lost asking lost⟩
    obtain ⟨carried', move', _, asked', _⟩ := step_apply all₂ applied'
    rcases commits_of_move move' asked' with ⟨same, _⟩ | ⟨_, exchange, conversation, there, _, holds, _, more, _⟩
    · exact same ▸ mem
    · rw [more] at mem
      rcases List.mem_append.mp mem with before | new
      · exact before
      · rw [List.mem_singleton.mp new] at named
        exact absurd (named ▸ holds) (lost₂.2 conversation there)
  case cleaned =>
    rintro event s'' applied spares conversation mem ⟨message, messageMem, placed⟩
    obtain ⟨carried, move, _, asked, _⟩ := step_apply all applied
    have kept : (s''.world.conversations.map (·.id)) = s'.world.conversations.map (·.id) →
        s''.world.stores conversation.id = true := by
      intro same
      rw [AiWorld.stores, same]
      exact stores conversation mem
    cases move
    case idle becomes | drawn becomes => exact kept (by rw [becomes])
    case created becomes =>
      have there := stores conversation mem
      rw [becomes]
      simp only [AiWorld.stores, List.map_cons, List.mem_cons, decide_eq_true_eq] at there ⊢
      exact .inr there
    case leased becomes | released becomes | committed becomes =>
      exact kept (by rw [becomes, replace_ids])
    case discarded other otherMem empty becomes =>
      have none := sound.no_exchanges otherMem empty
      rw [becomes]
      refine decide_eq_true (List.mem_map_of_mem (mem_without.mpr ⟨mem, fun same => ?_⟩))
      rw [sound.messages] at messageMem
      obtain ⟨exchange, there, mine⟩ := List.mem_flatMap.mp messageMem
      exact none exchange (List.mem_filter.mp there).1
        ((Exchange.mem_messages mine).1.symm.trans (placed.trans same))
    case deleted actor other performed _ _ _ =>
      obtain ⟨run, performed⟩ := performed
      exact absurd ((asked _ _).mp performed) (spares _ _ _)

/-! ### A run -/

def settings : AiConfig where
  fingerprint name arguments := .ok (name ++ ":" ++ arguments)

def owner : AuthenticatedUser := { id := 1, companyId := 1, role := .companyOwner }

/-- What the environment decides at every action of a request, with one answer of the model. -/
def answering (uuid : Nat) : AiChoice where
  uuid := uuid
  completion := .ok { content := some "Hi", model := "m", promptTokens := 1, completionTokens := 1, totalTokens := 2 }

def unused : AiSystem where
  world := { clock := 0 }
  runs := []

/-- A request creates a conversation and stops; after its lease has expired another one takes the conversation over
and commits an exchange, before the first one comes back in vain. -/
def takeover : List AiEvent :=
  .arrive (.chat owner { message := "Hello" }) :: List.replicate 4 (.step 0 (answering 7)) ++
    .drift 100000 :: .arrive (.chat owner { conversationId := some 0, message := "Again" }) ::
    List.replicate 9 (.step 1 (answering 8)) ++ List.replicate 6 (.step 0 (answering 7))

theorem conversation_law_takeover :
    ∃ s', (aiMachine settings).play takeover unused = some s' ∧ ConversationLaw settings s' ∧
      s'.world.conversations.map (·.messageCount) = [2] ∧ s'.world.usage.map (·.requestId) = [8] := by
  have plays : ((aiMachine settings).play takeover unused).any fun s' => Decidable.decide
      (s'.world.conversations.map (·.messageCount) = [2] ∧ s'.world.usage.map (·.requestId) = [8]) := by
    decide +kernel
  obtain ⟨s', played, checked⟩ := (Option.any_eq_true ..).mp plays
  obtain ⟨counts, requests⟩ := of_decide_eq_true checked
  exact ⟨s', played, conversation_law (s := unused) rfl rfl (Machine.run_of_play played), counts, requests⟩

end DataVault.Ai
