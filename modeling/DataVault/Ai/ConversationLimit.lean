/-
Module: DataVault.Ai.ConversationLimit
Layer: Proof
Purpose: How many conversations a user can have. A request counts before it inserts, and nothing holds the others back
  in between: the limit is kept by the runs in which every count that finds room leaves room for those who have
  counted before.
Imports: DataVault.Ai.ConversationLaw
Trusted boundary: none
Main exports: AiWorld.stored, inserting, countsApart, conversation_limit_exceeded, conversation_limit
-/
import DataVault.Ai.ConversationLaw

namespace DataVault.Ai

open DataVault.Control DataVault.Interleaving DataVault.Store DataVault.Users

/-- The conversations of a user, as `createConversation` counts them. -/
def AiWorld.stored (w : AiWorld) (actor : AuthenticatedUser) : Nat :=
  countDocuments w.conversations fun conversation =>
    conversation.companyId = actor.companyId && conversation.userId = actor.id

/-- The action inserts a conversation of this user. -/
def AiAct.inserts (actor : AuthenticatedUser) : AiAct → Bool
  | .createConversation other _ _ => other.companyId = actor.companyId && other.id = actor.id
  | _ => false

/-- The requests of a user that have found room and are about to insert. -/
def inserting (s : AiSystem) (actor : AuthenticatedUser) : Nat :=
  s.runs.countP fun process => process.awaited.any (AiAct.inserts actor)

/-- A request that counts and finds room would find it also with the conversations that others are about to insert. A
count whose answer is lost finds nothing. -/
def countsApart (config : AiConfig) (s : AiSystem) : AiEvent → Bool
  | .step run choice =>
      match s.runs[run]?.bind Process.awaited with
      | some (.countConversations actor) =>
          choice.fate ≠ .delivered || config.maxConversations ≤ s.world.stored actor ||
            s.world.stored actor + inserting s actor < config.maxConversations
      | _ => true
  | _ => true

variable {config : AiConfig} {w w' : AiWorld} {s s' : AiSystem} {event : AiEvent} {events : List AiEvent}
variable {actor other : AuthenticatedUser} {run requestId id : Nat} {expiresAt now : Int} {α : Type}

/-! ### What one action does to the number -/

theorem stored_update {filter : AiConversation → Bool} {update : AiConversation → AiConversation}
    {updated : AiConversation} {conversations : List AiConversation}
    (found : findOneAndUpdate filter update w.conversations = some (updated, conversations))
    (keeps : ∀ conversation, (update conversation).companyId = conversation.companyId ∧
      (update conversation).userId = conversation.userId) :
    ({ w with conversations := conversations } : AiWorld).stored actor = w.stored actor := by
  obtain ⟨conversation, _, _, _, counts⟩ := countDocuments_update
    (fun conversation => conversation.companyId = actor.companyId && conversation.userId = actor.id) found
  rw [(keeps conversation).1, (keeps conversation).2] at counts
  exact Nat.add_right_cancel counts

theorem stored_acquireConversation :
    (w.acquireConversation config other id requestId expiresAt now).2.stored actor = w.stored actor := by
  unfold AiWorld.acquireConversation
  split
  · rfl
  · rename_i found
    exact stored_update found fun _ => ⟨rfl, rfl⟩

theorem stored_release : (w.release other id requestId).stored actor = w.stored actor := by
  unfold AiWorld.release
  split
  · rfl
  · rename_i found
    exact stored_update found fun _ => ⟨rfl, rfl⟩

theorem stored_discard : (w.discard other id requestId).stored actor ≤ w.stored actor := by
  unfold AiWorld.discard
  split
  · exact Nat.le_refl _
  · rename_i found
    exact countDocuments_delete_le found

theorem stored_delete {value : Unit} (done : w.delete other id now = .ok (value, w')) :
    w'.stored actor ≤ w.stored actor := by
  unfold AiWorld.delete at done
  split at done
  · split at done <;> cases done
  · rename_i found
    cases done
    exact countDocuments_delete_le found

theorem stored_persistExchange {user assistant : String} {totals : UsageTotals} {calls : Nat}
    {duration createdAt : Int} {value : Nat × Nat}
    (done : w.persistExchange config other id requestId user assistant totals calls duration createdAt =
      .ok (value, w')) : w'.stored actor = w.stored actor := by
  obtain ⟨_, _, done⟩ := bind_ok_iff.mp done
  obtain ⟨_, _, done⟩ := bind_ok_iff.mp done
  obtain ⟨⟨updated, conversations⟩, found, done⟩ := bind_ok_iff.mp done
  cases done
  exact stored_update (orFail_ok_iff.mp found) fun _ => ⟨rfl, rfl⟩

theorem stored_createConversation : (w.createConversation other requestId expiresAt).2.stored actor =
    w.stored actor + if AiAct.inserts actor (.createConversation other requestId expiresAt) then 1 else 0 := by
  simp [AiWorld.createConversation, AiWorld.stored, AiAct.inserts]

/-- A transaction takes effect or does not. -/
theorem transact_stored {choice : AiChoice} {work : Except AiFailure (α × AiWorld)} {answer : Except AiFailure α}
    {bound : Nat} (before : w.stored actor ≤ bound)
    (after : ∀ value w', work = .ok (value, w') → w'.stored actor ≤ bound)
    (done : transact choice w work = (answer, w')) : w'.stored actor ≤ bound := by
  unfold transact at done
  split at done
  · cases done
    exact before
  · rename_i value world
    cases fate : choice.fate <;> rw [fate] at done <;> cases done
    · exact after value _ rfl
    · exact after value _ rfl
    · exact before

/-- Only an insertion raises the number. -/
theorem stored_exec {choice : AiChoice} {act : AiAct} {answer : act.Res}
    (executed : aiExec config run choice act w = some (answer, w')) :
    w'.stored actor ≤ w.stored actor + if AiAct.inserts actor act then 1 else 0 := by
  cases act with
  | now | countConversations | findConversation | history | complete | execute | ownedConversation | findUsage
    | findAssistant =>
      cases executed
      exact Nat.le_refl _
  | randomUUID =>
      simp only [aiExec] at executed
      split at executed
      · cases executed
      · cases executed
        exact Nat.le_refl _
  | createConversation actor requestId expiresAt =>
      refine transact_stored (Nat.le_add_right _ _) (fun value w' done => ?_) (Option.some.inj executed)
      cases done
      exact Nat.le_of_eq stored_createConversation
  | acquireConversation actor id requestId expiresAt =>
      refine transact_stored (Nat.le_refl _) (fun value w' done => ?_) (Option.some.inj executed)
      rw [← (Prod.mk.inj (Except.ok.inj done)).2]
      exact Nat.le_of_eq stored_acquireConversation
  | persistExchange =>
      exact transact_stored (Nat.le_refl _) (fun _ _ done => Nat.le_of_eq (stored_persistExchange done))
        (Option.some.inj executed)
  | discard actor id requestId =>
      refine transact_stored (Nat.le_refl _) (fun value w' done => ?_) (Option.some.inj executed)
      cases done
      exact stored_discard
  | release actor id requestId =>
      refine transact_stored (Nat.le_refl _) (fun value w' done => ?_) (Option.some.inj executed)
      cases done
      exact Nat.le_of_eq stored_release
  | delete actor id =>
      exact transact_stored (Nat.le_refl _) (fun _ _ done => stored_delete done) (Option.some.inj executed)

/-! ### A request inserts after it has found room -/

/-- Anything but an insertion. -/
def InsertsNothing : AiAct → Prop
  | .createConversation .. => False
  | _ => True

/-- An insertion follows on a count of the same user that has found room. -/
def FollowsRoom (config : AiConfig) : (act : AiAct) → act.Res → AiAct → Prop
  | .countConversations actor, answer, .createConversation other _ _ =>
      other = actor ∧ ∃ count, answer = .ok count ∧ count < config.maxConversations
  | _, _, next => InsertsNothing next

theorem InsertsNothing.free (act : AiAct) (answer : act.Res) (next : AiAct) (nothing : InsertsNothing next) :
    FollowsRoom config act answer next := by
  cases next with
  | createConversation => exact nothing.elim
  | _ => cases act <;> trivial

theorem Ordinary.insertsNothing (act : AiAct) (ordinary : Ordinary act) : InsertsNothing act := by
  cases act <;> trivial

/-- A process that inserts after it has found room. -/
abbrev Cautious (config : AiConfig) (process : Process AiAct AiAct.Res α) : Prop :=
  process.Continues InsertsNothing (FollowsRoom config)

theorem cautious_of_every {process : Process AiAct AiAct.Res α} (every : process.Every Ordinary) :
    Cautious config process :=
  Process.Continues.of_every InsertsNothing.free (every.mono Ordinary.insertsNothing)

theorem cautious_createConversation : Cautious config (createConversation config actor requestId expiresAt).run := by
  constructor
  · intro first awaits
    cases awaits
    trivial
  · intro answer
    apply Process.continues_liftExcept (P := FollowsRoom config (.countConversations actor) answer)
    intro count counted
    apply Process.continues_liftExcept
    intro _ checked
    have room : count < config.maxConversations := of_decide_eq_true (require_ok_iff.mp checked)
    constructor
    · intro next awaits
      cases awaits
      exact ⟨rfl, count, counted, room⟩
    · intro created
      cases created <;> exact ⟨nofun, trivial⟩

theorem cautious_acquireConversation :
    Cautious config (acquireConversation config actor id requestId expiresAt).run := by
  refine Process.continues_lift InsertsNothing.free ?_ fun acquired => ?_
  · trivial
  apply Process.continues_liftExcept
  intro acquired _
  cases acquired with
  | some conversation => exact cautious_of_every trivial
  | none =>
      apply cautious_of_every
      refine every_ask trivial fun found => every_check fun found => every_check fun existing => ?_
      exact every_check fun _ => every_check fun _ => trivial

theorem cautious_chat (dto : AiChatDto) : Cautious config (chat config actor dto).run := by
  apply Process.continues_liftExcept
  intro _ _
  apply Process.continues_liftExcept
  intro _ _
  refine Process.continues_lift InsertsNothing.free ?_ fun requestId => ?_
  · trivial
  refine Process.continues_lift InsertsNothing.free ?_ fun startedAt => ?_
  · trivial
  apply Process.continues_bind InsertsNothing.free
  · refine Process.continues_recover InsertsNothing.free ?_ fun _ => cautious_of_every trivial
    cases dto.conversationId with
    | none => exact cautious_createConversation
    | some id => exact cautious_acquireConversation
  · intro conversation
    exact cautious_of_every (Process.every_withCleanup ordinary_exchange (quiet_cleanup.mono Quiet.ordinary))

theorem cautious_handler (job : AiJob) : Cautious config ((aiMachine config).handler job) := by
  cases job with
  | chat actor dto => exact cautious_chat dto
  | delete actor id => exact cautious_of_every (every_ask trivial fun _ => every_check fun _ => trivial)

/-! ### The limit

What is bounded is the number of stored conversations together with those that are about to be inserted by requests
that have found room. A count that leaves room for the latter keeps the sum within the limit, and an insertion moves
one from the second summand to the first. -/

/-- Stored and about to be inserted, no user has more than the limit; and every request inserts after it has found
room. -/
structure WithinLimit (config : AiConfig) (s : AiSystem) : Prop where
  bounded : ∀ actor, s.world.stored actor + inserting s actor ≤ config.maxConversations
  cautious : ∀ (k : Nat) process, s.runs[k]? = some process → process.Chained (FollowsRoom config)

/-- What a step does to the requests of a user that are about to insert. -/
theorem inserting_step {act : AiAct} {resume : act.Res → Process AiAct AiAct.Res (Except AiFailure AiReply)}
    (waiting : s.runs[run]? = some (.await act resume)) (next : Process AiAct AiAct.Res (Except AiFailure AiReply)) :
    inserting { world := w', runs := s.runs.set run next } actor + (if AiAct.inserts actor act then 1 else 0) =
      inserting s actor + if next.awaited.any (AiAct.inserts actor) then 1 else 0 :=
  Machine.countP_set (fun process => process.awaited.any (AiAct.inserts actor)) waiting

/-- A request that is about to insert has just counted, and has found room. -/
theorem counted_of_inserts {act : AiAct} {answer : act.Res} {next : AiAct} (inserts : AiAct.inserts actor next)
    (follows : FollowsRoom config act answer next) :
    ∃ counter count, (⟨act, answer⟩ : (act : AiAct) × act.Res) = ⟨.countConversations counter, .ok count⟩ ∧
      counter.companyId = actor.companyId ∧ counter.id = actor.id ∧ count < config.maxConversations := by
  cases next with
  | createConversation other requestId expiresAt =>
      simp only [AiAct.inserts, Bool.and_eq_true, decide_eq_true_eq] at inserts
      cases act with
      | countConversations counter =>
          obtain ⟨rfl, count, rfl, room⟩ := follows
          exact ⟨_, count, rfl, inserts.1, inserts.2, room⟩
      | _ => exact follows.elim
  | _ => cases inserts

theorem stored_congr (company : other.companyId = actor.companyId) (user : other.id = actor.id) :
    w.stored other = w.stored actor ∧ inserting s other = inserting s actor := by
  have same : AiAct.inserts other = AiAct.inserts actor := by
    funext act
    cases act <;> simp [AiAct.inserts, company, user]
  constructor
  · rw [AiWorld.stored, AiWorld.stored, company, user]
  · rw [inserting, inserting, same]

theorem bounded_step {act : AiAct} {resume : act.Res → Process AiAct AiAct.Res (Except AiFailure AiReply)}
    {choice : AiChoice} {answer : act.Res} (limit : WithinLimit config s) (apart : countsApart config s (.step run choice))
    (waiting : s.runs[run]? = some (.await act resume))
    (executed : aiExec config run choice act s.world = some (answer, w')) :
    w'.stored actor + inserting { world := w', runs := s.runs.set run (resume answer) } actor ≤
      config.maxConversations := by
  have bounded := limit.bounded actor
  have raised : w'.stored actor ≤ s.world.stored actor + if AiAct.inserts actor act then 1 else 0 :=
    stored_exec executed
  have moved : inserting { world := w', runs := s.runs.set run (resume answer) } actor +
      (if AiAct.inserts actor act then 1 else 0) =
        inserting s actor + if (resume answer).awaited.any (AiAct.inserts actor) then 1 else 0 :=
    inserting_step waiting (resume answer)
  cases inserts : (resume answer).awaited.any (AiAct.inserts actor) with
  | false =>
      rw [inserts] at moved
      simp only [Bool.false_eq_true, if_false] at moved
      omega
  | true =>
      -- the step was a count that found room, and there was room for one more than all who had found it
      obtain ⟨next, awaits, inserts'⟩ := (Option.any_eq_true ..).mp inserts
      have follows := (limit.cautious run _ waiting answer).1 next awaits
      obtain ⟨counter, count, same, company, user, room⟩ := counted_of_inserts inserts' follows
      cases same
      obtain ⟨stored, inserting⟩ := stored_congr (w := s.world) (s := s) company user
      have counted : count = s.world.stored actor ∧ w' = s.world ∧ choice.fate = .delivered := by
        simp only [aiExec, Option.some.injEq, Prod.mk.injEq, query] at executed
        obtain ⟨answered, rfl⟩ := executed
        split at answered <;> cases answered
        rename_i delivered
        exact ⟨stored, rfl, delivered⟩
      obtain ⟨rfl, rfl, delivered⟩ := counted
      simp only [countsApart, waiting, Option.bind_some, Process.awaited, Bool.or_eq_true, decide_eq_true_eq, stored,
        inserting, delivered, ne_eq, not_true_eq_false, decide_false, Bool.false_eq_true, false_or] at apart
      simp only [inserts, AiAct.inserts, Bool.false_eq_true, if_false, if_true] at moved
      omega

theorem withinLimit_apply (limit : WithinLimit config s) (apart : countsApart config s event)
    (applied : (aiMachine config).apply s event = some s') : WithinLimit config s' := by
  constructor
  case cautious =>
    intro k process present
    rcases Machine.apply_origin present applied with before | ⟨job, rfl⟩ | ⟨_, act, resume, answer, _, there, _, rfl⟩
    · exact limit.cautious k process before
    · exact (cautious_handler job).2
    · exact (limit.cautious k _ there answer).2
  case bounded =>
    intro actor
    cases event with
    | arrive job =>
        cases applied
        have cautious : Cautious config ((aiMachine config).handler job) := cautious_handler job
        have starts := cautious.1
        have none : ((aiMachine config).handler job).awaited.any (AiAct.inserts actor) = false := by
          cases awaits : ((aiMachine config).handler job).awaited with
          | none => rfl
          | some act =>
              have nothing := starts act awaits
              cases act <;> first | rfl | exact nothing.elim
        simpa [inserting, none] using limit.bounded actor
    | drift change =>
        cases applied
        exact limit.bounded actor
    | step run choice =>
        simp only [Machine.apply] at applied
        split at applied
        · rename_i act resume waiting
          obtain ⟨⟨answer, w'⟩, executed, rfl⟩ := Option.map_eq_some_iff.mp applied
          exact bounded_step limit apart waiting executed
        · cases applied

/-- From a database within the limit, a run whose counts all keep apart never has a user with more conversations than
the limit. -/
theorem conversation_limit (idle : s.runs = []) (within : ∀ actor, s.world.stored actor ≤ config.maxConversations)
    (run : (aiMachine config).Run (fun s event => countsApart config s event) s events s') (actor : AuthenticatedUser) :
    s'.world.stored actor ≤ config.maxConversations := by
  have start : WithinLimit config s := by
    constructor
    case bounded => simpa [inserting, idle] using within
    case cautious => simp [idle]
  have limit := run.keeps (P := WithinLimit config) (fun _ _ _ limit apart applied => withinLimit_apply limit apart applied)
    start
  exact Nat.le_trans (Nat.le_add_right _ _) (limit.bounded actor)

/-! ### Runs -/

/-- A user may have one conversation. -/
def single : AiConfig := { settings with maxConversations := 1 }

/-- One request after the other: the second one finds no room. -/
def oneByOne : List AiEvent :=
  .arrive (.chat owner { message := "Hello" }) :: List.replicate 10 (.step 0 (answering 7)) ++
    .arrive (.chat owner { message := "Hello" }) :: List.replicate 3 (.step 1 (answering 8))

theorem conversation_limit_refuses :
    ∃ s', (aiMachine single).playIf (fun s event => countsApart single s event) oneByOne unused = some s' ∧
      s'.world.stored owner ≤ 1 ∧ s'.runs[1]?.bind Process.returned = some (.error (.conflict
        "Conversation limit reached; delete an old conversation first" (some "ai_conversation_limit"))) := by
  have plays : ((aiMachine single).playIf (fun s event => countsApart single s event) oneByOne unused).any fun s' =>
      Decidable.decide (s'.runs[1]?.bind Process.returned = some (.error (.conflict
        "Conversation limit reached; delete an old conversation first" (some "ai_conversation_limit")))) := by
    decide +kernel
  obtain ⟨s', played, checked⟩ := (Option.any_eq_true ..).mp plays
  exact ⟨s', played, conversation_limit (s := unused) rfl (fun _ => Nat.zero_le _) (Machine.run_of_playIf played) owner,
    of_decide_eq_true checked⟩

/-- Two requests that both count before one of them inserts. -/
def crossing : List AiEvent :=
  .arrive (.chat owner { message := "Hello" }) :: .arrive (.chat owner { message := "Hello" }) ::
    List.replicate 3 (.step 0 (answering 7)) ++ List.replicate 3 (.step 1 (answering 8)) ++
    List.replicate 7 (.step 0 (answering 7)) ++ List.replicate 7 (.step 1 (answering 8))

/-- Both requests of one user without a conversation end in an exchange, and the user has two conversations where one
is the limit. -/
theorem conversation_limit_exceeded :
    ∃ s', (aiMachine single).play crossing unused = some s' ∧ single.maxConversations < s'.world.stored owner ∧
      s'.world.usage.map (·.requestId) = [7, 8] := by
  have plays : ((aiMachine single).play crossing unused).any fun s' => Decidable.decide
      (single.maxConversations < s'.world.stored owner ∧ s'.world.usage.map (·.requestId) = [7, 8]) := by
    decide +kernel
  obtain ⟨s', played, checked⟩ := (Option.any_eq_true ..).mp plays
  exact ⟨s', played, of_decide_eq_true checked⟩

end DataVault.Ai
