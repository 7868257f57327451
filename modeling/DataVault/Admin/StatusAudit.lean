/-
Module: DataVault.Admin.StatusAudit
Layer: Proofs
Purpose: Whatever the order in which calls of `changeCompanyStatus` take their steps, the audit records of a company
  tell its status: suspended and reactivated in turn, each from the status that the record before it set. A call changes
  the status together with its record or not at all, also where its commit was never acknowledged.
Imports: DataVault.Admin.CompanyStatus, DataVault.Interleaving.Following
Trusted boundary: none
Main exports: Chain, StatusAudited, Changes, company_status_audit
-/
import DataVault.Admin.CompanyStatus
import DataVault.Interleaving.Following

namespace DataVault.Admin

open DataVault.Auth (AuthFailure Fate)
open DataVault.Companies DataVault.Control DataVault.Interleaving

/-! ### The records of a company -/

/-- Records that lead from one status to another, each from the status that the one before it set to the other one. -/
inductive Chain (start : CompanyPlatformStatus) : List StatusAudit → CompanyPlatformStatus → Prop where
  | nil : Chain start [] start
  | concat {rows : List StatusAudit} {status : CompanyPlatformStatus} {row : StatusAudit}
      (earlier : Chain start rows status) (previous : row.previousStatus = status)
      (changes : row.previousStatus ≠ row.nextStatus) (named : row.action = statusAction row.nextStatus) :
      Chain start (rows ++ [row]) row.nextStatus

/-- The records of a company, in the order of their commits. -/
def StatusWorld.auditsOf (w : StatusWorld) (id : Nat) : List StatusAudit := w.audits.filter fun row => row.targetId = id

/-- The status of the company of this id; one that is not registered is not suspended. -/
def StatusWorld.statusOf (w : StatusWorld) (id : Nat) : CompanyPlatformStatus :=
  ((w.companies id).map (·.status)).getD .active

/-- What the records of a company say of its status: suspensions and reactivations in turn, each from the status that
the record before it set, and the status that the last one set. -/
structure StatusAudited (rows : List StatusAudit) (status : CompanyPlatformStatus) : Prop where
  alternate : ∀ (i : Nat) row, rows[i]? = some row →
    row.action = if i % 2 = 0 then .companySuspended else .companyReactivated
  named : ∀ row ∈ rows, row.action = statusAction row.nextStatus
  first : ∀ row, rows[0]? = some row → row.previousStatus = .active
  linked : ∀ (i : Nat) one two, rows[i]? = some one → rows[i + 1]? = some two → two.previousStatus = one.nextStatus
  current : status = (rows.getLast?.map (·.nextStatus)).getD .active

variable {rows : List StatusAudit} {status start : CompanyPlatformStatus}

theorem Chain.current (chain : Chain start rows status) : status = (rows.getLast?.map (·.nextStatus)).getD start := by
  cases chain with
  | nil => rfl
  | concat => simp

theorem Chain.named (chain : Chain start rows status) : ∀ row ∈ rows, row.action = statusAction row.nextStatus := by
  induction chain with
  | nil => simp
  | concat _ _ _ named ih =>
      intro other mem
      rcases List.mem_append.mp mem with earlier | last
      · exact ih other earlier
      · rw [List.mem_singleton.mp last]
        exact named

theorem Chain.first (chain : Chain start rows status) : ∀ row, rows[0]? = some row → row.previousStatus = start := by
  induction chain with
  | nil => simp
  | concat earlier previous _ _ ih =>
      intro other there
      cases earlier with
      | nil =>
          cases there
          exact previous
      | concat =>
          rw [List.getElem?_append_left (by simp)] at there
          exact ih other there

theorem Chain.linked (chain : Chain start rows status) :
    ∀ (i : Nat) one two, rows[i]? = some one → rows[i + 1]? = some two → two.previousStatus = one.nextStatus := by
  induction chain with
  | nil => simp
  | @concat rows status row earlier previous _ _ ih =>
      intro i one two here next
      rcases Nat.lt_trichotomy (i + 1) rows.length with inside | last | beyond
      · rw [List.getElem?_append_left (by omega)] at here
        rw [List.getElem?_append_left inside] at next
        exact ih i one two here next
      · rw [List.getElem?_append_left (by omega)] at here
        rw [List.getElem?_append_right (by omega), last, Nat.sub_self] at next
        cases next
        have final : rows.getLast? = some one := by
          rw [List.getLast?_eq_getElem?, ← last]
          exact here
        rw [previous, earlier.current, final]
        rfl
      · rw [List.getElem?_eq_none (by simp; omega)] at next
        cases next

/-- After an even number of records a company is active. -/
theorem Chain.parity (chain : Chain .active rows status) :
    status = if rows.length % 2 = 0 then .active else .suspended := by
  induction chain with
  | nil => rfl
  | @concat rows status row _ previous changes _ ih =>
      rw [previous, ih] at changes
      rw [List.length_append, List.length_singleton]
      cases next : row.nextStatus <;> rw [next] at changes <;> grind

theorem Chain.alternate (chain : Chain .active rows status) :
    ∀ (i : Nat) row, rows[i]? = some row →
      row.action = if i % 2 = 0 then .companySuspended else .companyReactivated := by
  induction chain with
  | nil => simp
  | @concat rows status row earlier previous changes named ih =>
      intro i other there
      rcases Nat.lt_trichotomy i rows.length with inside | last | beyond
      · rw [List.getElem?_append_left inside] at there
        exact ih i other there
      · rw [List.getElem?_append_right (by omega), last, Nat.sub_self] at there
        cases there
        have parity := earlier.parity
        rw [previous, parity] at changes
        rw [named, last]
        cases next : row.nextStatus <;> rw [next] at changes <;> grind [statusAction]
      · rw [List.getElem?_eq_none (by simp; omega)] at there
        cases there

theorem Chain.audited (chain : Chain .active rows status) : StatusAudited rows status where
  alternate := chain.alternate
  named := chain.named
  first := chain.first
  linked := chain.linked
  current := chain.current

/-! ### One step -/

variable {w w' : StatusWorld} {actorId id : Nat} {previousStatus nextStatus : CompanyPlatformStatus}
  {reason : CompanyPlatformReason} {now : Int}

/-- The update goes through only from the other status. -/
theorem status_of_changeable {company : CompanyStanding} (changeable : company.changeable nextStatus = true) :
    company.status ≠ nextStatus := by
  unfold CompanyStanding.changeable at changeable
  unfold CompanyStanding.status
  cases nextStatus with
  | suspended =>
      intro suspended
      cases stored : company.platformStatus with
      | none =>
          rw [stored] at suspended
          cases suspended
      | some status =>
          rw [stored] at suspended changeable
          cases suspended
          cases changeable
  | active =>
      rw [beq_iff_eq.mp changeable]
      simp

/-- There are only two statuses. -/
theorem eq_of_both_differ {one two three : CompanyPlatformStatus} (first : one ≠ three) (second : two ≠ three) :
    one = two := by
  cases one <;> cases two <;> cases three <;> simp at *

/-- A company's records tell its status. This is the invariant of the runs: the transaction of a call compares the
stored status with the one that the call has read, so it only ever adds a link to the chain. -/
def Traced (w : StatusWorld) : Prop := ∀ id, Chain .active (w.auditsOf id) (w.statusOf id)

/-- The writes of a transaction add the record of the change they make, from whatever status had been read. -/
theorem Traced.writeStatus (traced : Traced w) (differs : previousStatus ≠ nextStatus)
    (written : w.writeStatus actorId id previousStatus nextStatus reason now = .ok w') : Traced w' := by
  unfold StatusWorld.writeStatus at written
  cases found : (w.companies id).filter (·.changeable nextStatus) with
  | none =>
      rw [found] at written
      cases written
  | some company =>
      rw [found] at written
      cases written
      rcases Option.filter_eq_some_iff.mp found with ⟨stored, changeable⟩
      have moved : w.statusOf id ≠ nextStatus := by
        unfold StatusWorld.statusOf
        rw [stored]
        exact status_of_changeable changeable
      intro other
      by_cases same : other = id
      · subst same
        let row : StatusAudit :=
          { action := statusAction nextStatus
            actorId := actorId
            targetId := other
            reason := reason
            previousStatus := previousStatus
            nextStatus := nextStatus }
        have chained : row.previousStatus = w.statusOf other := eq_of_both_differ differs moved
        have last := Chain.concat (traced other) chained differs rfl
        simpa [StatusWorld.auditsOf, StatusWorld.statusOf, CompanyStanding.status] using last
      · have earlier := traced other
        have elsewhere : ¬id = other := fun equal => same equal.symm
        simpa [StatusWorld.auditsOf, StatusWorld.statusOf, same, elsewhere] using earlier

/-- The status of one company is changed, and the change is recorded, in one step. -/
def Changes (w w' : StatusWorld) : Prop :=
  ∃ (row : StatusAudit) (company : CompanyStanding), company.status = row.nextStatus ∧
    w' = { w with
      companies := Function.update w.companies row.targetId (some company)
      audits := w.audits ++ [row] }

theorem changes_writeStatus
    (written : w.writeStatus actorId id previousStatus nextStatus reason now = .ok w') : Changes w w' := by
  unfold StatusWorld.writeStatus at written
  cases found : (w.companies id).filter (·.changeable nextStatus) with
  | none =>
      rw [found] at written
      cases written
  | some company =>
      rw [found] at written
      cases written
      let row : StatusAudit :=
        { action := statusAction nextStatus
          actorId := actorId
          targetId := id
          reason := reason
          previousStatus := previousStatus
          nextStatus := nextStatus }
      exact ⟨row, _, rfl, rfl⟩

/-- A transaction writes only where the status it has read is not the one it sets. -/
def Differs : StatusAct → Prop
  | .findCompany _ => True
  | .writeStatus _ _ previousStatus nextStatus _ => previousStatus ≠ nextStatus

theorem Traced.exec (run : Nat) {choice : StatusChoice} {act : StatusAct} {answer : act.Res} (traced : Traced w)
    (differs : Differs act) (executed : statusExec run choice act w = some (answer, w')) : Traced w' := by
  cases act with
  | findCompany id =>
      cases executed
      exact traced
  | writeStatus actorId id previousStatus nextStatus reason =>
      simp only [statusExec] at executed
      cases written : w.writeStatus actorId id previousStatus nextStatus reason (w.clock - choice.stale) with
      | error failure =>
          rw [written] at executed
          cases executed
          exact traced
      | ok changed =>
          rw [written] at executed
          cases fate : choice.fate with
          | delivered | lostAfter =>
              rw [fate] at executed
              cases executed
              exact traced.writeStatus differs written
          | lostBefore =>
              rw [fate] at executed
              cases executed
              exact traced

theorem Traced.drift {change : StatusDrift} (traced : Traced w) (happened : statusDrift change w = some w') :
    Traced w' := by
  cases change with
  | tick elapsed =>
      cases happened
      exact traced
  | register id =>
      simp only [statusDrift] at happened
      cases registered : w.companies id with
      | some company =>
          rw [registered] at happened
          cases happened
      | none =>
          rw [registered] at happened
          cases happened
          intro other
          have earlier := traced other
          by_cases same : other = id
          · subst same
            simpa [StatusWorld.auditsOf, StatusWorld.statusOf, CompanyStanding.status, registered] using earlier
          · simpa [StatusWorld.auditsOf, StatusWorld.statusOf, same] using earlier

/-! ### The calls -/

/-- How a call goes on once it has changed something: it returns, or its commit was not acknowledged and it throws. -/
def Ended (choice : StatusChoice)
    (next : Process StatusAct StatusAct.Res (Except AuthFailure (Nat × CompanyPlatformStatus))) : Prop :=
  (∃ value, next = .done (.ok value)) ∨ choice.fate = .lostAfter ∧ next = .done (.error .database)

/-- What a call is, whatever it is answered: its transaction writes only a change, with the record of it, and the call
ends as soon as it has written. -/
def Careful : Process StatusAct StatusAct.Res (Except AuthFailure (Nat × CompanyPlatformStatus)) → Prop
  | .done _ => True
  | .await act resume => Differs act ∧ (∀ answer, Careful (resume answer)) ∧
      ∀ choice run w answer w', statusExec run choice act w = some (answer, w') → w' ≠ w →
        Changes w w' ∧ Ended choice (resume answer)

/-- The transaction of a call has changed nothing where it has not committed. -/
theorem careful_write {previousStatus nextStatus : CompanyPlatformStatus}
    {resume :
      Except AuthFailure Unit → Process StatusAct StatusAct.Res (Except AuthFailure (Nat × CompanyPlatformStatus))}
    (differs : previousStatus ≠ nextStatus) (fails : ∀ failure, resume (.error failure) = .done (.error failure))
    (returns : ∃ value, resume (.ok ()) = .done (.ok value)) :
    Careful (.await (.writeStatus actorId id previousStatus nextStatus reason) resume) := by
  constructor
  · exact differs
  constructor
  · intro answer
    cases answer with
    | error failure =>
        rw [fails]
        trivial
    | ok done =>
        rcases returns with ⟨value, returned⟩
        change Careful (resume (.ok ()))
        rw [returned]
        trivial
  · intro choice run w answer w' executed moved
    simp only [statusExec] at executed
    cases written : w.writeStatus actorId id previousStatus nextStatus reason (w.clock - choice.stale) with
    | error failure =>
        rw [written] at executed
        cases executed
        exact absurd rfl moved
    | ok changed =>
        have together := changes_writeStatus written
        rw [written] at executed
        cases fate : choice.fate with
        | delivered =>
            rw [fate] at executed
            cases executed
            exact ⟨together, .inl returns⟩
        | lostAfter =>
            rw [fate] at executed
            cases executed
            exact ⟨together, .inr ⟨fate, fails _⟩⟩
        | lostBefore =>
            rw [fate] at executed
            cases executed
            exact absurd rfl moved

theorem careful_changeCompanyStatus (actorId id : Nat) (nextStatus : CompanyPlatformStatus)
    (reason : CompanyPlatformReason) : Careful (changeCompanyStatus actorId id nextStatus reason).run := by
  constructor
  · trivial
  constructor
  · intro found
    cases found with
    | error failure => trivial
    | ok found =>
        cases found with
        | none => trivial
        | some company =>
            change Careful (ExceptT.run (liftExcept (require (company.status != nextStatus) _) >>= _))
            cases differs : company.status != nextStatus with
            | false => trivial
            | true => exact careful_write (by simpa using differs) (fun _ => rfl) ⟨_, rfl⟩
  · intro choice run w answer w' executed moved
    cases executed
    exact absurd rfl moved

section Runs

variable {s s' : System StatusAct StatusAct.Res StatusWorld (Except AuthFailure (Nat × CompanyPlatformStatus))}
  {events : List (Event StatusChoice StatusDrift StatusJob)}

/-- In every state of every run, the records of a company tell its status, and the calls under way are careful. -/
theorem sound_run (idle : s.runs = []) (traced : Traced s.world)
    (run : statusMachine.Run (fun _ _ => True) s events s') :
    Traced s'.world ∧ ∀ (k : Nat) process, s'.runs[k]? = some process → Careful process := by
  apply run.keeps (P := fun s => Traced s.world ∧ ∀ (k : Nat) process, s.runs[k]? = some process → Careful process)
  · rintro s event s' ⟨traced, careful⟩ _ applied
    constructor
    case left =>
      cases Machine.apply_moves applied with
      | arrival job same => exact same ▸ traced
      | @action run choice act resume answer waiting executed =>
          exact traced.exec run (careful run _ waiting).1 executed
      | drifted happened => exact traced.drift happened
    case right =>
      intro k process present
      rcases Machine.apply_origin present applied with before | ⟨job, rfl⟩ | ⟨_, act, resume, answer, _, there, _, rfl⟩
      · exact careful k process before
      · exact careful_changeCompanyStatus job.actorId job.id job.nextStatus job.reason
      · exact (careful k _ there).2.1 answer
  · constructor
    case left => exact traced
    case right =>
      intro k process present
      rw [idle] at present
      cases present

/-- A call that has ended stays as it ended. -/
theorem ended_run {k : Nat} {result : Except AuthFailure (Nat × CompanyPlatformStatus)}
    (ended : s.runs[k]? = some (.done result)) (run : statusMachine.Run (fun _ _ => True) s events s') :
    s'.runs[k]? = some (.done result) := by
  apply run.keeps (P := fun s => s.runs[k]? = some (.done result)) _ ended
  intro s event s' ended _ applied
  rcases Machine.apply_run ended applied with ⟨kept, _⟩ | ⟨_, _, _, _, _, awaiting, _⟩
  · exact kept
  · cases awaiting

/-- A step of a call that changes anything is the one with which the call ends. -/
theorem step_moves {k : Nat} {choice : StatusChoice}
    (careful : ∀ (k : Nat) process, s.runs[k]? = some process → Careful process)
    (applied : statusMachine.apply s (.step k choice) = some s') (moved : s'.world ≠ s.world) :
    Changes s.world s'.world ∧ ∃ next, s'.runs[k]? = some next ∧ Ended choice next := by
  cases Machine.apply_moves applied with
  | action waiting _ =>
      rcases Machine.apply_run waiting applied with
        ⟨_, foreign⟩ | ⟨_, act, resume, answer, step, same, executed, there⟩
      · exact absurd rfl (foreign choice)
      · cases step
        cases same
        rcases (careful k _ waiting).2.2 choice k s.world answer s'.world executed moved with ⟨together, ended⟩
        exact ⟨together, _, there, ended⟩

/-- For every interleaving of calls by any administrators on any companies, from companies that are active and have no
records: the records of each company suspend and reactivate it in turn, each from the status that the one before it
set, and the last one tells its status. A call that throws has changed nothing, unless its transaction committed and
the acknowledgement was lost: then it has changed the status and recorded that in one step. -/
theorem company_status_audit (idle : s.runs = []) (empty : s.world.audits = [])
    (active : ∀ id company, s.world.companies id = some company → company.status = .active)
    (run : statusMachine.Run (fun _ _ => True) s events s') :
    (∀ id company, s'.world.companies id = some company →
      StatusAudited (s'.world.auditsOf id) company.status) ∧
    ∀ k choice failure before middle middle' after, events = before ++ .step k choice :: after →
      statusMachine.Run (fun _ _ => True) s before middle →
      statusMachine.apply middle (.step k choice) = some middle' →
      statusMachine.Run (fun _ _ => True) middle' after s' →
      s'.runs[k]? = some (.done (.error failure)) →
        middle'.world = middle.world ∨
          choice.fate = .lostAfter ∧ failure = .database ∧ Changes middle.world middle'.world := by
  have traced : Traced s.world := by
    intro id
    have none_yet : s.world.auditsOf id = [] := by simp [StatusWorld.auditsOf, empty]
    have unsuspended : s.world.statusOf id = .active := by
      unfold StatusWorld.statusOf
      cases registered : s.world.companies id with
      | none => rfl
      | some company => exact active id company registered
    rw [none_yet, unsuspended]
    exact .nil
  constructor
  case left =>
    intro id company registered
    have chain := (sound_run idle traced run).1 id
    unfold StatusWorld.statusOf at chain
    rw [registered] at chain
    exact chain.audited
  case right =>
    intro k choice failure before middle middle' after _ earlier applied later thrown
    by_cases moved : middle'.world = middle.world
    · exact .inl moved
    · rcases step_moves (sound_run idle traced earlier).2 applied moved with ⟨together, next, there, ended⟩
      rcases ended with ⟨value, rfl⟩ | ⟨lost, rfl⟩
      · cases (ended_run there later).symm.trans thrown
      · cases (ended_run there later).symm.trans thrown
        exact .inr ⟨lost, rfl, together⟩

end Runs

/-- Two companies, one from before there was a status. -/
def registered : StatusWorld where
  clock := 100
  companies id := if id = 1 then some {} else if id = 2 then some { platformStatus := none } else none
  audits := []

/-- Two administrators suspend the second company at once; one of them reactivates it. -/
def race : List (Event StatusChoice StatusDrift StatusJob) :=
  [.arrive ⟨8, 2, .suspended, .securityReview⟩, .arrive ⟨9, 2, .suspended, .policyReview⟩,
    .step 0 {}, .step 1 {}, .step 1 {}, .step 0 {}, .arrive ⟨8, 2, .active, .reviewCompleted⟩, .step 2 {}, .step 2 {}]

theorem company_status_audit_race :
    ∃ s', statusMachine.play race ⟨registered, []⟩ = some s' ∧
      s'.runs[0]?.bind (·.returned) = some (.error (.conflict "Company platform status changed concurrently")) ∧
      (s'.world.auditsOf 2).map (fun row => (row.actorId, row.action)) =
        [(9, .companySuspended), (8, .companyReactivated)] ∧
      ∀ company, s'.world.companies 2 = some company → StatusAudited (s'.world.auditsOf 2) company.status := by
  have plays : ((statusMachine.play race ⟨registered, []⟩).any fun s' => Decidable.decide
      (s'.runs[0]?.bind (·.returned) = some (.error (.conflict "Company platform status changed concurrently")) ∧
        (s'.world.auditsOf 2).map (fun row => (row.actorId, row.action)) =
          [(9, .companySuspended), (8, .companyReactivated)])) = true := by decide +kernel
  rcases (Option.any_eq_true _ _).mp plays with ⟨s', played, reached⟩
  rcases of_decide_eq_true reached with ⟨refused, recorded⟩
  have audited := (company_status_audit (s := ⟨registered, []⟩) rfl rfl (by
    intro id company found
    simp only [registered] at found
    repeat' split at found
    all_goals cases found
    all_goals rfl) (Machine.run_of_play played)).1
  exact ⟨s', played, refused, recorded, audited 2⟩

/-- The commit of a suspension takes effect, its acknowledgement does not arrive: the call throws, the company is
suspended and the change is recorded. -/
theorem company_status_audit_lost :
    ∃ s s', statusMachine.play [.arrive ⟨8, 1, .suspended, .securityReview⟩, .step 0 {}] ⟨registered, []⟩ = some s ∧
      statusMachine.apply s (.step 0 { fate := .lostAfter }) = some s' ∧
      s'.runs[0]?.bind (·.returned) = some (.error .database) ∧ s.world.statusOf 1 = .active ∧
      s'.world.statusOf 1 = .suspended ∧ s.world.auditsOf 1 = [] ∧
      (s'.world.auditsOf 1).map (·.action) = [.companySuspended] := by
  have plays : ((statusMachine.play [.arrive ⟨8, 1, .suspended, .securityReview⟩, .step 0 {}] ⟨registered, []⟩).any
      fun s => (statusMachine.apply s (.step 0 { fate := .lostAfter })).any fun s' => Decidable.decide
        (s'.runs[0]?.bind (·.returned) = some (.error .database) ∧ s.world.statusOf 1 = .active ∧
          s'.world.statusOf 1 = .suspended ∧ s.world.auditsOf 1 = [] ∧
          (s'.world.auditsOf 1).map (·.action) = [.companySuspended])) = true := by decide +kernel
  rcases (Option.any_eq_true _ _).mp plays with ⟨s, played, later⟩
  rcases (Option.any_eq_true _ _).mp later with ⟨s', taken, reached⟩
  exact ⟨s, s', played, taken, of_decide_eq_true reached⟩

end DataVault.Admin
