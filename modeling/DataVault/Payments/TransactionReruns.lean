/-
Module: DataVault.Payments.TransactionReruns
Layer: Proof
Purpose: The three billing transactions whose callbacks branch on the document in memory and assign to it:
  that of `applyCanonical` and the two of `changePlan`. After a transient abort the database is rolled back,
  the document is not. What such a transaction commits in the end is what a single execution would commit
  exactly where no aborted execution has changed the answer to what the callback asks of the document.
Imports: DataVault.Control.Rerun, DataVault.Payments.CanonicalAccess
Trusted boundary: none
Main exports: BillingTransaction, BillingTransaction.callback, execute_decides, BillingTransaction.Survives,
  rerun_commits_iff
-/
import DataVault.Control.Rerun
import DataVault.Payments.CanonicalAccess

namespace DataVault.Payments

open DataVault.Control DataVault.Plans DataVault.Subscriptions

/-! ### The callbacks -/

inductive BillingTransaction where
  | canonical (status : StripeSubscriptionStatus) (remote : RemoteSubscription) (event : Option Nat)
      (draftsHeld : Bool)
  | queuePlan (code : PlanCode)
  | localPlan (code : PlanCode)

namespace BillingTransaction

/-- The update that an execution of the callback calls; `none` where it returns without one. -/
def written : BillingTransaction → Execution → Subscription → Except Failure (Option SubscriptionUpdate)
  | .canonical status remote _ draftsHeld, execution, doc => do
      let fields ← canonicalFields execution.company doc status remote draftsHeld execution.now
      pure (some (.canonical fields))
  | .queuePlan code, execution, doc => do
      let queued ← Payments.queuePlan execution.company doc code execution.operation execution.now
      pure (queued.map SubscriptionUpdate.queuePlan)
  | .localPlan code, execution, _ => do
      Payments.localPlan execution.company code execution.now
      pure (some (.localPlan code))

/-- `update` assigns to the document in memory what it has stored. -/
def assign (update : Option SubscriptionUpdate) (doc : Subscription) : Subscription :=
  update.elim doc fun update => update.apply doc

def callback (transaction : BillingTransaction) :
    Callback Execution Subscription (Option SubscriptionUpdate) Failure where
  decide := transaction.written
  remember := assign

/-- The transaction as a command of the run that has `doc` in memory. -/
def command (doc : Subscription) : BillingTransaction → Command
  | .canonical status remote event draftsHeld => .applyCanonical doc status remote event draftsHeld
  | .queuePlan code => .queuePlan doc code
  | .localPlan code => .localPlan doc code

end BillingTransaction

/-- A transaction that commits stores what its callback decides on. -/
theorem execute_decides {transaction : BillingTransaction} {db after : BillingDb} {enabled : Bool}
    {run step : Nat} {clock : Int} {published : Except Failure Unit} {doc : Subscription}
    {answer : (transaction.command doc).Res}
    (executed : db.execute enabled run step clock published (transaction.command doc) = .ok (answer, after)) :
    ∃ update, transaction.callback.decide ⟨db.company, step, clock⟩ doc = .ok update ∧
      ∃ revision, after.subscription =
        { BillingTransaction.assign update db.subscription with revision := revision } := by
  cases transaction with
  | canonical status remote event draftsHeld =>
      obtain ⟨fields, computed, executed⟩ := bind_ok_iff.mp executed
      obtain ⟨_, _, executed⟩ := bind_ok_iff.mp executed
      obtain ⟨_, _, executed⟩ := bind_ok_iff.mp executed
      cases executed
      exact ⟨some (.canonical answer), bind_ok_iff.mpr ⟨answer, computed, rfl⟩, _, rfl⟩
  | queuePlan code =>
      obtain ⟨queued, queues, executed⟩ := bind_ok_iff.mp executed
      refine ⟨queued.map SubscriptionUpdate.queuePlan, bind_ok_iff.mpr ⟨queued, queues, rfl⟩, ?_⟩
      cases queued with
      | none =>
          cases executed
          exact ⟨_, rfl⟩
      | some queued =>
          obtain ⟨_, _, executed⟩ := bind_ok_iff.mp executed
          cases executed
          exact ⟨_, rfl⟩
  | localPlan code =>
      obtain ⟨_, fits, executed⟩ := bind_ok_iff.mp executed
      obtain ⟨_, _, executed⟩ := bind_ok_iff.mp executed
      cases executed
      exact ⟨some (.localPlan code), bind_ok_iff.mpr ⟨(), fits, rfl⟩, _, rfl⟩

/-! ### What `applyCanonical` asks of the document in memory

The callback reads the document in memory at three places: the plan before, a queued plan, and the start of
metering. The answers to these three questions determine what it writes, so a rerun diverges only where an aborted
execution has changed one of them. -/

/-- The snapshot leads to no other plan than `code`. -/
def KeepsPlan (remote : RemoteSubscription) (execution : Execution) (code : PlanCode) : Prop :=
  ∀ other, Lands remote execution other → other = code

/-- How the fields of a commit depend on the document in memory: the plan where the snapshot leads to none, whether the
plan changes, whether the pending plan is reached, and whether the meter starts. -/
structure CanonicalFields.Decided (remote : RemoteSubscription) (execution : Execution) (doc : Subscription)
    (fields : CanonicalFields) : Prop where
  planCode : Lands remote execution fields.planCode ∨
    fields.planCode = doc.planCode ∧ ∀ code, ¬ Lands remote execution code
  changed : fields.planChangedAt.isSome ↔ fields.planCode ≠ doc.planCode
  clears : fields.clearPending = true ↔ some fields.planCode = doc.pendingPlanCode
  meters : fields.stripeMeterStartedAt.isSome ↔
    fields.planCode = .premium ∧ (doc.stripeMeterStartedAt = none ∨ fields.planCode ≠ doc.planCode)

section Canonical

variable {execution : Execution} {doc memory : Subscription} {status : StripeSubscriptionStatus}
  {remote : RemoteSubscription} {draftsHeld : Bool} {fields : CanonicalFields}

theorem canonicalFields_decided
    (computed : canonicalFields execution.company doc status remote draftsHeld execution.now = .ok fields) :
    fields.Decided remote execution doc := by
  obtain ⟨target, planned, computed⟩ := bind_ok_iff.mp computed
  dsimp only at computed
  generalize (if execution.company.unresolvedUsage || draftsHeld then PaymentSyncIssue.reconciliationRequired
    else .none) = issue at computed
  have plan := settlePlan_planCode execution doc issue planned
  generalize settlePlan execution.company doc remote target issue execution.now = outcome at plan computed
  cases computed
  refine ⟨plan, ?_, ?_, ?_⟩
  · dsimp only
    split <;> simp_all
  · simp
  · dsimp only
    split <;> simp_all

/-- Two documents that answer the three questions in the same way give the same commit. -/
theorem canonicalFields_congr
    (computed : canonicalFields execution.company doc status remote draftsHeld execution.now = .ok fields)
    (plan : memory.planCode = doc.planCode)
    (pending : some fields.planCode = memory.pendingPlanCode ↔ some fields.planCode = doc.pendingPlanCode)
    (meter : fields.planCode = .premium → fields.planCode = doc.planCode →
      (memory.stripeMeterStartedAt = none ↔ doc.stripeMeterStartedAt = none)) :
    canonicalFields execution.company memory status remote draftsHeld execution.now = .ok fields := by
  obtain ⟨target, planned, computed⟩ := bind_ok_iff.mp computed
  refine bind_ok_iff.mpr ⟨target, planned, ?_⟩
  dsimp only at computed ⊢
  generalize (if execution.company.unresolvedUsage || draftsHeld then PaymentSyncIssue.reconciliationRequired
    else .none) = issue at computed ⊢
  have same : settlePlan execution.company memory remote target issue execution.now =
      settlePlan execution.company doc remote target issue execution.now := by
    simp only [settlePlan, plan]
  rw [same, plan]
  generalize settlePlan execution.company doc remote target issue execution.now = outcome at computed ⊢
  cases computed
  dsimp only at pending meter
  generalize (if outcome.2.1 = PaymentAccess.suspended then doc.planCode else outcome.1) = planCode
    at pending meter ⊢
  have metered :
      (planCode = .premium ∧ (memory.stripeMeterStartedAt = none ∨ planCode ≠ doc.planCode)) ↔
        (planCode = .premium ∧ (doc.stripeMeterStartedAt = none ∨ planCode ≠ doc.planCode)) := by
    refine and_congr_right fun premium => ?_
    by_cases kept : planCode = doc.planCode
    · simp only [kept, ne_eq, not_true_eq_false, or_false]
      exact meter premium kept
    · simp only [ne_eq, kept, not_false_eq_true, or_true]
  simp only [pending, metered]
  rfl

end Canonical

/-! ### When a rerun commits what a single execution commits

An abort before the callback has written leaves the memory as it was; one after it leaves the assignments of
`update`. The condition `Survives` names the document in memory and the aborted executions, and both directions are
proved for each of the three callbacks. -/

/-- The condition on the aborted executions, the committing one and the loaded document. -/
def BillingTransaction.Survives (loaded : Subscription) (aborted : List (Aborted Execution))
    (last : Execution) : BillingTransaction → Prop
  | .canonical _ remote _ _ =>
      NoneLate aborted ∨
        (∀ execution, ⟨execution, true⟩ ∈ aborted → KeepsPlan remote execution loaded.planCode) ∧
        (KeepsPlan remote last loaded.planCode →
          loaded.pendingPlanCode ≠ some loaded.planCode ∧
            (loaded.planCode = .premium → loaded.stripeMeterStartedAt ≠ none))
  | .queuePlan code => NoneLate aborted ∨ queueWanted loaded code = false
  | .localPlan _ => True

section Reruns

variable {loaded memory : Subscription} {aborted : List (Aborted Execution)} {last : Execution}

theorem exists_late (some_late : ¬ NoneLate aborted) : ∃ execution, ⟨execution, true⟩ ∈ aborted := by
  simp only [NoneLate, not_forall, Bool.not_eq_false] at some_late
  obtain ⟨⟨execution, late⟩, mem, rfl⟩ := some_late
  exact ⟨execution, mem⟩

/-! #### `applyCanonical` -/

section Canonical

variable {status : StripeSubscriptionStatus} {remote : RemoteSubscription} {event : Option Nat}
  {draftsHeld : Bool} {fields : CanonicalFields}

theorem canonical_written {execution : Execution} {doc : Subscription} {update : Option SubscriptionUpdate} :
    (BillingTransaction.canonical status remote event draftsHeld).callback.decide execution doc = .ok update ↔
      ∃ fields, canonicalFields execution.company doc status remote draftsHeld execution.now = .ok fields ∧
        update = some (.canonical fields) := by
  constructor
  · intro decided
    obtain ⟨fields, computed, decided⟩ := bind_ok_iff.mp decided
    cases decided
    exact ⟨fields, computed, rfl⟩
  · rintro ⟨fields, computed, rfl⟩
    exact bind_ok_iff.mpr ⟨fields, computed, rfl⟩

/-- The memory of executions that keep the plan: the same plan; a queued plan is gone only if it was the
current one, and metering has started only if it had to. -/
structure Undisturbed (loaded memory : Subscription) : Prop where
  planCode : memory.planCode = loaded.planCode
  pending : memory.pendingPlanCode = loaded.pendingPlanCode ∨
    memory.pendingPlanCode = none ∧ loaded.pendingPlanCode = some loaded.planCode
  meter : memory.stripeMeterStartedAt = loaded.stripeMeterStartedAt ∨
    loaded.planCode = .premium ∧ loaded.stripeMeterStartedAt = none

theorem CanonicalFields.Decided.kept {execution : Execution} {doc : Subscription}
    (decided : fields.Decided remote execution doc) (keeps : KeepsPlan remote execution doc.planCode) :
    fields.planCode = doc.planCode := by
  rcases decided.planCode with lands | ⟨same, _⟩
  · exact keeps _ lands
  · exact same

theorem Undisturbed.assign {before : Subscription} {execution : Execution}
    (undisturbed : Undisturbed loaded before) (keeps : KeepsPlan remote execution loaded.planCode)
    (decided : fields.Decided remote execution before) :
    Undisturbed loaded ((SubscriptionUpdate.canonical fields).apply before) := by
  have same : fields.planCode = before.planCode := decided.kept (undisturbed.planCode ▸ keeps)
  constructor
  case planCode => exact same.trans undisturbed.planCode
  case pending =>
    simp only [SubscriptionUpdate.apply]
    by_cases clears : fields.clearPending = true
    · have cleared := decided.clears.mp clears
      rw [if_pos clears]
      rcases undisturbed.pending with kept | ⟨gone, was⟩
      · exact .inr ⟨rfl, by rw [← kept, ← cleared, same, undisturbed.planCode]⟩
      · exact .inr ⟨rfl, was⟩
    · rw [if_neg clears]
      exact undisturbed.pending
  case meter =>
    simp only [SubscriptionUpdate.apply]
    rcases undisturbed.meter with kept | started
    · cases metered : fields.stripeMeterStartedAt with
      | none => exact .inl kept
      | some instant =>
          obtain ⟨premium, unmetered⟩ := decided.meters.mp (by rw [metered]; rfl)
          refine .inr ⟨by rw [← undisturbed.planCode, ← same, premium], ?_⟩
          rw [← kept]
          exact unmetered.resolve_right fun changed => changed same
    · exact .inr started

/-- Under the condition, the committing execution decides as it would on the loaded document. -/
theorem canonical_survives
    (reruns : (BillingTransaction.canonical status remote event draftsHeld).callback.Reruns aborted loaded memory)
    (computed : canonicalFields last.company memory status remote draftsHeld last.now = .ok fields)
    (keep : ∀ execution, ⟨execution, true⟩ ∈ aborted → KeepsPlan remote execution loaded.planCode)
    (settled : KeepsPlan remote last loaded.planCode →
      loaded.pendingPlanCode ≠ some loaded.planCode ∧
        (loaded.planCode = .premium → loaded.stripeMeterStartedAt ≠ none)) :
    canonicalFields last.company loaded status remote draftsHeld last.now = .ok fields := by
  have undisturbed : Undisturbed loaded memory := by
    refine reruns.keeps (Undisturbed loaded) ?_ ⟨rfl, .inl rfl, .inl rfl⟩
    intro execution late before update before_undisturbed decided
    obtain ⟨fields, computed, rfl⟩ := canonical_written.mp decided
    exact before_undisturbed.assign (keep execution late) (canonicalFields_decided computed)
  have decided := canonicalFields_decided computed
  have quiet : fields.planCode = loaded.planCode →
      loaded.pendingPlanCode ≠ some loaded.planCode ∧
        (loaded.planCode = .premium → loaded.stripeMeterStartedAt ≠ none) := by
    intro same
    refine settled fun code lands => ?_
    rcases decided.planCode with landed | ⟨_, nowhere⟩
    · exact (landed.unique lands).trans same
    · exact absurd lands (nowhere code)
  refine canonicalFields_congr computed undisturbed.planCode.symm ?_ ?_
  · rcases undisturbed.pending with kept | ⟨gone, was⟩
    · rw [kept]
    · rw [gone, was]
      constructor
      · intro same
        exact absurd was (quiet (Option.some.inj same)).1
      · intro impossible
        cases impossible
  · intro premium same
    rcases undisturbed.meter with kept | ⟨was, unmetered⟩
    · rw [kept]
    · exact absurd unmetered ((quiet (same.trans undisturbed.planCode)).2 was)

/-- If both decide alike, no aborted execution has moved the plan. -/
theorem keepsPlan_of_same
    (reruns : (BillingTransaction.canonical status remote event draftsHeld).callback.Reruns aborted loaded memory)
    (computed : canonicalFields last.company memory status remote draftsHeld last.now = .ok fields)
    (single : canonicalFields last.company loaded status remote draftsHeld last.now = .ok fields) :
    ∀ execution, ⟨execution, true⟩ ∈ aborted → KeepsPlan remote execution loaded.planCode := by
  intro execution late code lands
  by_contra moved
  have plan : memory.planCode = code := by
    refine reruns.settles (fun doc => doc.planCode = loaded.planCode ∨ doc.planCode = code)
      (fun doc => doc.planCode = code) ?_ ?_ late ?_ (.inl rfl)
    · intro other _ before update holds decided
      obtain ⟨fields, computed, rfl⟩ := canonical_written.mp decided
      rcases (canonicalFields_decided computed).planCode with landed | ⟨same, _⟩
      · exact .inr (lands.unique landed)
      · exact holds.imp same.trans same.trans
    · intro other _ before update _ done decided
      obtain ⟨fields, computed, rfl⟩ := canonical_written.mp decided
      rcases (canonicalFields_decided computed).planCode with landed | ⟨same, _⟩
      · exact lands.unique landed
      · exact same.trans done
    · intro before update _ decided
      obtain ⟨fields, computed, rfl⟩ := canonical_written.mp decided
      rcases (canonicalFields_decided computed).planCode with landed | ⟨_, nowhere⟩
      · exact lands.unique landed
      · exact absurd lands (nowhere code)
  -- Either way the commit has the plan of the memory: no change of plan there, one on the loaded document.
  have decided := canonicalFields_decided computed
  have same : fields.planCode = memory.planCode := by
    rcases decided.planCode with landed | ⟨same, _⟩
    · exact (lands.unique landed).trans plan.symm
    · exact same
  have changed : fields.planChangedAt.isSome = true := by
    refine (canonicalFields_decided single).changed.mpr ?_
    rw [same, plan]
    exact moved
  exact decided.changed.mp changed same

/-- An execution that keeps the plan clears a queued plan that is the current one and starts the metering of
Premium. -/
structure Finished (loaded memory : Subscription) : Prop where
  planCode : memory.planCode = loaded.planCode
  pending : memory.pendingPlanCode ≠ some loaded.planCode
  meter : loaded.planCode = .premium → memory.stripeMeterStartedAt ≠ none

theorem Finished.of_assign {before : Subscription} {execution : Execution}
    (same : before.planCode = loaded.planCode) (keeps : KeepsPlan remote execution loaded.planCode)
    (decided : fields.Decided remote execution before) :
    Finished loaded ((SubscriptionUpdate.canonical fields).apply before) := by
  have kept : fields.planCode = loaded.planCode := (decided.kept (same ▸ keeps)).trans same
  constructor
  case planCode => exact kept
  case pending =>
    simp only [SubscriptionUpdate.apply]
    by_cases clears : fields.clearPending = true
    · simp [clears]
    · rw [if_neg clears]
      intro queued
      exact clears (decided.clears.mpr (by rw [kept, queued]))
  case meter =>
    intro premium
    simp only [SubscriptionUpdate.apply]
    cases metered : fields.stripeMeterStartedAt with
    | some instant => simp
    | none =>
        intro unmetered
        have starts := decided.meters.mpr ⟨kept.trans premium, .inl (by simpa using unmetered)⟩
        rw [metered] at starts
        cases starts

/-- If both decide alike although an execution aborted late, the loaded document left nothing to do. -/
theorem settled_of_same
    (reruns : (BillingTransaction.canonical status remote event draftsHeld).callback.Reruns aborted loaded memory)
    (computed : canonicalFields last.company memory status remote draftsHeld last.now = .ok fields)
    (single : canonicalFields last.company loaded status remote draftsHeld last.now = .ok fields)
    {execution : Execution} (late : ⟨execution, true⟩ ∈ aborted)
    (keep : ∀ execution, ⟨execution, true⟩ ∈ aborted → KeepsPlan remote execution loaded.planCode)
    (keepLast : KeepsPlan remote last loaded.planCode) :
    loaded.pendingPlanCode ≠ some loaded.planCode ∧
      (loaded.planCode = .premium → loaded.stripeMeterStartedAt ≠ none) := by
  have finishes : ∀ other, ⟨other, true⟩ ∈ aborted → ∀ before update, before.planCode = loaded.planCode →
      (BillingTransaction.canonical status remote event draftsHeld).callback.decide other before = .ok update →
      Finished loaded (BillingTransaction.assign update before) := by
    intro other mem before update same decided
    obtain ⟨fields, computed, rfl⟩ := canonical_written.mp decided
    exact Finished.of_assign same (keep other mem) (canonicalFields_decided computed)
  have finished : Finished loaded memory := by
    refine reruns.settles (fun doc => doc.planCode = loaded.planCode) (Finished loaded) ?_ ?_ late ?_ rfl
    · intro other mem before update same decided
      exact (finishes other mem before update same decided).planCode
    · intro other mem before update same _ decided
      exact finishes other mem before update same decided
    · intro before update same decided
      exact finishes execution late before update same decided
  have decided := canonicalFields_decided computed
  have decidedSingle := canonicalFields_decided single
  have same : fields.planCode = loaded.planCode := decidedSingle.kept keepLast
  constructor
  · intro queued
    have clears := decidedSingle.clears.mpr (by rw [same, queued])
    exact finished.pending (by rw [← decided.clears.mp clears, same])
  · intro premium unmetered
    have starts := decidedSingle.meters.mpr ⟨same.trans premium, .inl unmetered⟩
    rcases (decided.meters.mp starts).2 with untouched | changed
    · exact finished.meter premium untouched
    · exact changed (same.trans finished.planCode.symm)

end Canonical

/-! #### `changePlan` -/

section QueuePlan

variable {code : PlanCode}

/-- The callback queues exactly what is wanted, and afterwards it is not wanted any more. -/
theorem queuePlan_written {execution : Execution} {doc : Subscription} {update : Option SubscriptionUpdate}
    (decided : (BillingTransaction.queuePlan code).callback.decide execution doc = .ok update) :
    (update.isSome ↔ queueWanted doc code = true) ∧
      queueWanted (BillingTransaction.assign update doc) code = false := by
  obtain ⟨queued, queues, decided⟩ := bind_ok_iff.mp decided
  cases decided
  cases queued with
  | some queued =>
      obtain ⟨same, _, _⟩ := queuePlan_fits queues
      obtain ⟨_, _, queues⟩ := bind_ok_iff.mp queues
      obtain ⟨_, _, queues⟩ := bind_ok_iff.mp queues
      dsimp only at queues
      split at queues
      · rename_i wanted
        exact ⟨by simp [wanted], by
          simp [BillingTransaction.assign, SubscriptionUpdate.apply, queueWanted, same]⟩
      · cases queues
  | none =>
      obtain ⟨_, _, queues⟩ := bind_ok_iff.mp queues
      obtain ⟨_, _, queues⟩ := bind_ok_iff.mp queues
      dsimp only at queues
      split at queues
      · split at queues
        · cases queues
        · obtain ⟨_, _, queues⟩ := bind_ok_iff.mp queues
          cases queues
      · rename_i unwanted
        exact ⟨by simp [unwanted], by simpa [BillingTransaction.assign] using unwanted⟩

/-- A document that wants nothing queued stays as it is. -/
theorem queuePlan_unwanted
    (reruns : (BillingTransaction.queuePlan code).callback.Reruns aborted loaded memory)
    (unwanted : queueWanted loaded code = false) : memory = loaded := by
  refine reruns.keeps (fun doc => doc = loaded) ?_ rfl
  rintro execution _ before update rfl decided
  cases update with
  | none => rfl
  | some update =>
      have wanted := (queuePlan_written decided).1.mp rfl
      rw [unwanted] at wanted
      cases wanted

/-- After an execution that aborted late nothing is wanted any more. -/
theorem queuePlan_late
    (reruns : (BillingTransaction.queuePlan code).callback.Reruns aborted loaded memory)
    {execution : Execution} (late : ⟨execution, true⟩ ∈ aborted) : queueWanted memory code = false := by
  refine reruns.settles (fun _ => True) (fun doc => queueWanted doc code = false) ?_ ?_ late ?_ trivial
  · intros
    trivial
  · intro _ _ before update _ _ decided
    exact (queuePlan_written decided).2
  · intro before update _ decided
    exact (queuePlan_written decided).2

end QueuePlan

/-- A driver reruns the callback of a transaction on one document in memory, which aborted executions may have changed.
The execution that commits writes what it would write on the loaded document if and only if the condition holds. -/
theorem rerun_commits_iff (transaction : BillingTransaction) {update : Option SubscriptionUpdate}
    (reruns : transaction.callback.Reruns aborted loaded memory)
    (commits : transaction.callback.decide last memory = .ok update) :
    transaction.callback.decide last loaded = .ok update ↔ transaction.Survives loaded aborted last := by
  cases transaction with
  | canonical status remote event draftsHeld =>
      obtain ⟨fields, computed, rfl⟩ := canonical_written.mp commits
      rw [canonical_written]
      constructor
      · rintro ⟨_, single, same⟩
        cases same
        by_cases none : NoneLate aborted
        · exact .inl none
        · obtain ⟨execution, late⟩ := exists_late none
          have keep := keepsPlan_of_same reruns computed single
          exact .inr ⟨keep, settled_of_same reruns computed single late keep⟩
      · rintro (none | ⟨keep, settled⟩)
        · exact ⟨fields, reruns.of_noneLate none ▸ computed, rfl⟩
        · exact ⟨fields, canonical_survives reruns computed keep settled, rfl⟩
  | queuePlan code =>
      constructor
      · intro single
        by_cases none : NoneLate aborted
        · exact .inl none
        · obtain ⟨execution, late⟩ := exists_late none
          have written := (queuePlan_written commits).1
          have writtenSingle := (queuePlan_written single).1
          refine .inr (Bool.eq_false_iff.mpr fun wanted => ?_)
          have again := written.mp (writtenSingle.mpr wanted)
          rw [queuePlan_late reruns late] at again
          cases again
      · rintro (none | unwanted)
        · exact reruns.of_noneLate none ▸ commits
        · exact queuePlan_unwanted reruns unwanted ▸ commits
  | localPlan code =>
      constructor
      · intro _
        trivial
      · intro _
        exact commits

end Reruns

/-! ### One survivor and two that do not -/

/-- A Basic company with two employees and three files, at a time. -/
def smallCompany (now : Int) : Execution := ⟨⟨2, [], 3, false⟩, 0, now⟩

def basicCompany (pending : Option PlanCode) : Subscription where
  companyId := 1
  planCode := .basic
  activatedAt := 0
  planChangedAt := 0
  stripeManaged := true
  pendingPlanCode := pending

/-- A snapshot of an active subscription of a plan. -/
def activeSnapshot (code : PlanCode) : RemoteSubscription :=
  { (default : RemoteSubscription) with
    status := some .active
    chargeAutomatically := true
    items :=
      ⟨1, priceOf code, some 1, 0, 2678400⟩ ::
        if code = .premium then [⟨2, .overage, none, 0, 2678400⟩] else [] }

/-- What an active snapshot of a plan writes, for a change of the plan or without one. -/
def activeFields (code : PlanCode) (changes : Bool) (now : Int) : CanonicalFields where
  stripeStatus := .active
  stripeCancelAtPeriodEnd := false
  paymentAccess := .deferred
  paymentSyncIssue := .none
  stripeSyncedAt := now
  planCode := code
  stripeMeterStartedAt := if changes then some 0 else none
  planChangedAt := if changes then some now else none
  clearPending := changes

/-- The snapshot of a renewal survives a rerun. -/
theorem rerun_commits_renewal :
    let renewal := BillingTransaction.canonical .active (activeSnapshot .basic) none false
    renewal.callback.decide (smallCompany 60) (basicCompany none) =
      .ok (some (.canonical (activeFields .basic false 60))) := by
  intro renewal
  have first : renewal.callback.decide (smallCompany 0) (basicCompany none) =
      .ok (some (.canonical (activeFields .basic false 0))) := by decide +kernel
  have reruns := Callback.Reruns.late first (.nil _)
  refine (rerun_commits_iff renewal reruns (by decide +kernel)).mpr (.inr ⟨fun execution late => ?_, fun _ => ?_⟩)
  · rintro code ⟨leads, _⟩
    exact (Except.ok.inj leads.2).symm
  · decide

/-- An upgrade to Premium whose first execution aborts late: the second execution of `applyCanonical` writes
neither `planChangedAt` nor `stripeMeterStartedAt` and leaves the queued plan; that of `changePlan` queues
nothing, although the document in memory shows the plan as queued. -/
theorem rerun_diverges :
    (∃ memory, (BillingTransaction.canonical .active (activeSnapshot .premium) none false).callback.Reruns
        [⟨smallCompany 0, true⟩] (basicCompany (some .premium)) memory ∧
      (BillingTransaction.canonical .active (activeSnapshot .premium) none false).callback.decide
        (smallCompany 60) memory = .ok (some (.canonical (activeFields .premium false 60))) ∧
      (BillingTransaction.canonical .active (activeSnapshot .premium) none false).callback.decide
        (smallCompany 60) (basicCompany (some .premium)) =
          .ok (some (.canonical (activeFields .premium true 60)))) ∧
    ∃ memory, (BillingTransaction.queuePlan .premium).callback.Reruns
        [⟨smallCompany 0, true⟩] (basicCompany none) memory ∧
      memory.pendingPlanCode = some .premium ∧
      (BillingTransaction.queuePlan .premium).callback.decide (smallCompany 60) memory = .ok none ∧
      (BillingTransaction.queuePlan .premium).callback.decide (smallCompany 60) (basicCompany none) =
        .ok (some (.queuePlan ⟨.premium, 2678400000, 0⟩)) := by
  constructor
  · have first : (BillingTransaction.canonical .active (activeSnapshot .premium) none false).callback.decide
        (smallCompany 0) (basicCompany (some .premium)) =
          .ok (some (.canonical (activeFields .premium true 0))) := by decide +kernel
    exact ⟨_, .late first (.nil _), by decide +kernel, by decide +kernel⟩
  · have first : (BillingTransaction.queuePlan .premium).callback.decide (smallCompany 0) (basicCompany none) =
        .ok (some (.queuePlan ⟨.premium, 2678400000, 0⟩)) := by decide +kernel
    exact ⟨_, .late first (.nil _), rfl, by decide +kernel, by decide +kernel⟩

end DataVault.Payments
