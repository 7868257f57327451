/-
Module: DataVault.Maintenance.FreeRecovery
Layer: Proof
Purpose: What the recovery of an unmanaged Basic subscription leaves. The command writes nothing unless it succeeds,
  and a success puts the company on Free with no employee and no live invitation. It compares the uploads of the
  current billing period with the Free allowance, not the stored files, so that the company fits Free exactly where
  its stored files already did.
Imports: DataVault.Maintenance.ResetStripeTest
Trusted boundary: none
Main exports: FitsFree, OnFree, run_error_unchanged, inspectBasicRecovery_ok, updateSubscription_ok,
  recovery_fits_free, recovery_of_ten_files, recovery_of_eleven_files
-/
import DataVault.Maintenance.ResetStripeTest

namespace DataVault.Maintenance

open Control Plans Store Subscriptions

variable {db db' : Database} {options : StripeResetOptions} {companyId : ObjectId} {instant : Int}

/-! ### What fitting Free means -/

/-- `files.countDocuments({ companyId })` of `assertPlanFits`. -/
def storedFiles (db : Database) (companyId : ObjectId) : Nat :=
  count db.companyFiles [(.companyId, equals (.objectId companyId))]

/-- What `assertPlanFits` requires of a company that moves to Free: nobody beside the owner, nobody invited, and no
more stored files than the allowance. -/
structure FitsFree (db : Database) (companyId : ObjectId) (instant : Int) : Prop where
  employees : count db.users [(.companyId, equals (.objectId companyId)), (.role, equals companyMember)] = 0
  pendingInvitations :
    count db.invitations
      [(.companyId, equals (.objectId companyId)), (.status, equals pending), (.expiresAt, laterThan instant)] = 0
  files : storedFiles db companyId ≤ 10

/-- The limits are those of the catalogue. -/
theorem fitsFree_iff : FitsFree db companyId instant ↔
    PlanCode.free.fitsEmployees
        (count db.users [(.companyId, equals (.objectId companyId)), (.role, equals companyMember)] +
          count db.invitations
            [(.companyId, equals (.objectId companyId)), (.status, equals pending),
              (.expiresAt, laterThan instant)]) ∧
      PlanCode.free.fitsFiles (storedFiles db companyId) := by
  constructor
  · rintro ⟨employees, pendingInvitations, files⟩
    constructor
    · intro limit capped
      rw [employees, pendingInvitations]
      exact Nat.zero_le limit
    · intro _
      exact files
  · rintro ⟨seats, files⟩
    have nobody := Nat.add_eq_zero_iff.mp (Nat.le_zero.mp (seats 0 rfl))
    exact ⟨nobody.1, nobody.2, files rfl⟩

/-- The company has one subscription, and its plan is Free. -/
def OnFree (db : Database) (companyId : ObjectId) : Prop :=
  ∃ subscription, db.subscriptions.filter (Document.satisfies (tenant companyId)) = [subscription] ∧
    subscription.get .planCode = some (storedPlan .free)

/-! ### The command as a whole -/

/-- A transaction that fails before its commit leaves the collections as they were. -/
theorem settle_error {commit : Commit} {attempt : Except CliFailure (StripeResetReport × Database)}
    {failure : CliFailure} (failed : (settle db commit attempt).1 = .error failure)
    (reported : failure ≠ .mongoTransaction) : (settle db commit attempt).2 = db := by
  cases attempt with
  | error refused => rfl
  | ok done =>
      cases commit with
      | acknowledged => cases failed
      | aborted => rfl
      | unacknowledged =>
          -- The write may have been committed, but this is not a refusal.
          cases failed
          exact absurd rfl reported

theorem settle_ok {commit : Commit} {attempt : Except CliFailure (StripeResetReport × Database)}
    {report : StripeResetReport} (succeeded : (settle db commit attempt).1 = .ok report) :
    attempt = .ok (report, (settle db commit attempt).2) := by
  cases attempt with
  | error refused => cases succeeded
  | ok done =>
      cases commit with
      | acknowledged =>
          cases succeeded
          rfl
      | aborted => cases succeeded
      | unacknowledged => cases succeeded

/-- The identifier that passes is the one the text names. -/
theorem validateStripeResetOptions_ok (valid : validateStripeResetOptions options = .ok companyId) :
    ObjectId.ofHex? options.companyId = some companyId := by
  obtain ⟨_, _, valid⟩ := bind_ok_iff.mp valid
  obtain ⟨parsed, found, valid⟩ := bind_ok_iff.mp valid
  rw [orFail_ok_iff] at found
  simp only [bind_ok_iff] at valid
  rcases valid with ⟨_, _, _, _, _, _, _, _, same⟩
  cases same
  exact found

/-- What the command refuses leaves every collection as it was. -/
theorem run_error_unchanged {commit : Commit} {failure : CliFailure}
    (failed : (run db options instant commit).1 = .error failure) (reported : failure ≠ .mongoTransaction) :
    (run db options instant commit).2 = db := by
  unfold run at failed ⊢
  cases valid : validateStripeResetOptions options with
  | error early => rfl
  | ok companyId =>
      rw [valid] at failed
      exact settle_error failed reported

/-- A success of the recovery is its transaction, committed. -/
theorem run_ok {commit : Commit} {report : StripeResetReport} (recover : options.recoverUnmanagedBasic = true)
    (named : ObjectId.ofHex? options.companyId = some companyId)
    (succeeded : (run db options instant commit).1 = .ok report) :
    recoverUnmanagedBasic db options companyId instant = .ok (report, (run db options instant commit).2) := by
  unfold run at succeeded ⊢
  cases valid : validateStripeResetOptions options with
  | error early =>
      rw [valid] at succeeded
      cases succeeded
  | ok id =>
      rw [valid] at succeeded
      have same := validateStripeResetOptions_ok valid
      rw [named] at same
      cases same
      simp only [recover, if_true] at succeeded ⊢
      exact settle_ok succeeded

/-! ### The transaction of the recovery -/

theorem subscriptionOf_ok {subscription : Document Field} (found : subscriptionOf db companyId = .ok subscription) :
    db.subscriptions.filter (Document.satisfies (tenant companyId)) = [subscription] := by
  obtain ⟨_, _, found⟩ := bind_ok_iff.mp found
  split at found
  · rename_i single
    cases found
    exact single
  · cases found

/-- What the inspection has established, as far as the plan is concerned. -/
theorem inspectBasicRecovery_ok {checked : BasicRecovery}
    (passed : inspectBasicRecovery db companyId instant = .ok checked) :
    db.subscriptions.filter (Document.satisfies (tenant companyId)) = [checked.subscription] ∧
      count db.users (tenant companyId) = 1 ∧
      count db.users (tenant companyId ++ [(.role, equals companyOwner)]) = 1 ∧
      count db.invitations (tenant companyId ++ [(.status, equals pending), (.expiresAt, laterThan instant)]) = 0 := by
  obtain ⟨subscription, single, passed⟩ := bind_ok_iff.mp passed
  obtain ⟨_, _, passed⟩ := bind_ok_iff.mp passed
  obtain ⟨_, _, passed⟩ := bind_ok_iff.mp passed
  obtain ⟨_, _, passed⟩ := bind_ok_iff.mp passed
  obtain ⟨_, account, passed⟩ := bind_ok_iff.mp passed
  obtain ⟨_, invitations, passed⟩ := bind_ok_iff.mp passed
  obtain ⟨period, _, passed⟩ := bind_ok_iff.mp passed
  obtain ⟨uploadedFiles, _, passed⟩ := bind_ok_iff.mp passed
  obtain ⟨_, _, same⟩ := bind_ok_iff.mp passed
  cases same
  simp only [require_ok_iff, Bool.and_eq_true, decide_eq_true_eq] at account invitations
  exact ⟨subscriptionOf_ok single, account.1, account.2, invitations⟩

/-- The write changes one subscription, which the query has selected, and no other collection. -/
theorem updateSubscription_ok {query : Query Field} {changes : List (Field × Value)}
    (written : updateSubscription db query changes = .ok db') :
    ∃ before subscription after, db.subscriptions = before ++ subscription :: after ∧
      subscription.satisfies query = true ∧
      db' = { db with subscriptions := before ++ clearAndSet changes subscription :: after } := by
  unfold updateSubscription at written
  cases update : updateOne db.subscriptions query (clearAndSet changes) with
  | mk result subscriptions =>
      rw [update] at written
      obtain ⟨_, counted, same⟩ := bind_ok_iff.mp written
      cases same
      simp only [require_ok_iff, Bool.and_eq_true, decide_eq_true_eq] at counted
      obtain ⟨before, subscription, after, split, selected, rfl⟩ := updateOne_matched update counted.1
      exact ⟨before, subscription, after, split, selected, rfl⟩

theorem tenant_satisfies {document : Document Field} :
    document.satisfies (tenant companyId) = refersTo companyId (document.get .companyId) := by
  simp [Document.satisfies, tenant]

/-- The identifier itself is one of the references to the company. -/
theorem refersTo_of_equals {found : Option Value} (same : equals (.objectId companyId) found = true) :
    refersTo companyId found = true := by
  rw [equals_iff.mp same]
  simp [refersTo]

/-- Where every user of the company is its owner, none is an employee. -/
theorem no_employees {users : List (Document Field)} (total : count users (tenant companyId) = 1)
    (owners : count users (tenant companyId ++ [(.role, equals companyOwner)]) = 1) :
    count users [(.companyId, equals (.objectId companyId)), (.role, equals companyMember)] = 0 := by
  have disjoint : count users (tenant companyId ++ [(.role, equals companyOwner)]) +
      count users [(.companyId, equals (.objectId companyId)), (.role, equals companyMember)] ≤
        count users (tenant companyId) := by
    simp only [count]
    refine countDocuments_add_le users ?_ ?_ ?_
    · intro user owner
      exact satisfies_of_subset (List.subset_append_left _ _) owner
    · intro user employee
      simp only [Document.satisfies, List.all_cons, Bool.and_eq_true] at employee
      rw [tenant_satisfies]
      exact refersTo_of_equals employee.1
    · intro user owner employee
      simp only [Document.satisfies, tenant, List.cons_append, List.nil_append, List.all_cons, List.all_nil,
        Bool.and_eq_true, equals_iff] at owner employee
      rw [employee.2.1] at owner
      exact absurd owner.2.1 (by decide)
  omega

/-- A live invitation that names the company by its identifier is one of those the command counts. -/
theorem live_invitation {invitation : Document Field}
    (live : invitation.satisfies
      [(.companyId, equals (.objectId companyId)), (.status, equals pending), (.expiresAt, laterThan instant)] = true) :
    invitation.satisfies (tenant companyId ++ [(.status, equals pending), (.expiresAt, laterThan instant)]) = true := by
  simp only [Document.satisfies, tenant, List.cons_append, List.nil_append, List.all_cons, List.all_nil,
    Bool.and_eq_true] at live ⊢
  exact ⟨refersTo_of_equals live.1, live.2⟩

/-- A success of the transaction that was asked to execute. -/
theorem recoverUnmanagedBasic_ok {report : StripeResetReport} (execute : options.execute = true)
    (recovered : recoverUnmanagedBasic db options companyId instant = .ok (report, db')) :
    ∃ checked query changes, inspectBasicRecovery db companyId instant = .ok checked ∧
      updateSubscription db query changes = .ok db' ∧ (.companyId, equals (.objectId companyId)) ∈ query ∧
      (.planCode, storedPlan .free) ∈ changes ∧ (changes.map Prod.fst).Nodup ∧
      .companyId ∉ changes.map Prod.fst := by
  obtain ⟨checked, passed, recovered⟩ := bind_ok_iff.mp recovered
  obtain ⟨_, _, recovered⟩ := bind_ok_iff.mp recovered
  simp only [execute, Bool.not_true, Bool.false_eq_true, if_false] at recovered
  obtain ⟨changed, written, same⟩ := bind_ok_iff.mp recovered
  cases same
  refine ⟨checked, _, _, passed, written, ?_, ?_, ?_, ?_⟩
  · simp
  · simp
  · simp
  · simp

/-! ### What a recovery leaves -/

/-- The write that puts a subscription on Free keeps it the company's only one. -/
theorem onFree_of_update {query : Query Field} {changes : List (Field × Value)} {subscription : Document Field}
    (single : db.subscriptions.filter (Document.satisfies (tenant companyId)) = [subscription])
    (written : updateSubscription db query changes = .ok db')
    (of_company : (.companyId, equals (.objectId companyId)) ∈ query)
    (free : (.planCode, storedPlan .free) ∈ changes) (once : (changes.map Prod.fst).Nodup)
    (keeps_company : .companyId ∉ changes.map Prod.fst) : OnFree db' companyId := by
  obtain ⟨before, updated, after, split, selected, rfl⟩ := updateSubscription_ok written
  have company : equals (.objectId companyId) (updated.get .companyId) = true := by
    simp only [Document.satisfies, List.all_eq_true] at selected
    exact selected _ of_company
  have was_tenant : updated.satisfies (tenant companyId) = true := by
    rw [tenant_satisfies]
    exact refersTo_of_equals company
  have stays_tenant : (clearAndSet changes updated).satisfies (tenant companyId) = true := by
    rw [tenant_satisfies, clearAndSet, Document.get_set_of_notMem keeps_company,
      Document.get_unset_of_notMem (by decide)]
    exact refersTo_of_equals company
  refine ⟨clearAndSet changes updated, ?_, Document.get_set_of_mem once free⟩
  rw [split, List.filter_append, List.filter_cons_of_pos was_tenant] at single
  rw [List.filter_append, List.filter_cons_of_pos stays_tenant]
  -- Nothing else in the collection belongs to the company.
  have alone := congrArg List.length single
  simp only [List.length_append, List.length_cons, List.length_nil] at alone
  rw [List.eq_nil_of_length_eq_zero (show (before.filter _).length = 0 by omega),
    List.eq_nil_of_length_eq_zero (show (after.filter _).length = 0 by omega), List.nil_append]

/-- For every state of the collections, every clock and every way the commit can end: a refusal changes nothing, and a
success leaves the company on Free without employees and live invitations. It fits Free, as every other way to Free
requires, exactly where at most ten of its files were stored before. -/
theorem recovery_fits_free (db : Database) (options : StripeResetOptions) (instant : Int) (commit : Commit)
    (companyId : ObjectId) (recover : options.recoverUnmanagedBasic = true) (execute : options.execute = true)
    (named : ObjectId.ofHex? options.companyId = some companyId) :
    (∀ failure, (run db options instant commit).1 = .error failure → failure ≠ .mongoTransaction →
      (run db options instant commit).2 = db) ∧
    (∀ report, (run db options instant commit).1 = .ok report →
      OnFree (run db options instant commit).2 companyId ∧
        (FitsFree (run db options instant commit).2 companyId instant ↔ storedFiles db companyId ≤ 10)) := by
  constructor
  · intro failure failed reported
    exact run_error_unchanged failed reported
  · intro report succeeded
    have recovered := run_ok recover named succeeded
    generalize (run db options instant commit).2 = afterwards at recovered ⊢
    rcases recoverUnmanagedBasic_ok execute recovered with
      ⟨checked, query, changes, passed, written, of_company, free, once, keeps_company⟩
    obtain ⟨single, total, owners, invitations⟩ := inspectBasicRecovery_ok passed
    have on_free := onFree_of_update single written of_company free once keeps_company
    obtain ⟨before, updated, after, _, _, rfl⟩ := updateSubscription_ok written
    refine ⟨on_free, ?_⟩
    constructor
    · intro fits
      exact fits.files
    · intro few
      constructor
      · exact no_employees total owners
      · exact Nat.le_zero.mp (Nat.le_trans (countDocuments_le _ fun invitation => live_invitation) (Nat.le_of_eq invitations))
      · exact few

/-! ### Two recoveries -/

/-- A company on an unmanaged Basic subscription, as an abandoned setup Checkout leaves it, with some stored files. -/
def abandonedCheckout (files : Nat) : Database :=
  let companyId : Value := .objectId ⟨"65f0000000000000000000c1".toList, by decide⟩
  let activatedAt : Value := .date 1756634400000
  let attemptAt : Value := .date 1788220800000
  { companies := [Document.set [(.id, companyId)] ∅]
    subscriptions :=
      [Document.set
        [(.id, .objectId ⟨"65f0000000000000000000d2".toList, by decide⟩), (.companyId, companyId),
          (.planCode, storedPlan .basic), (.activatedAt, activatedAt), (.planChangedAt, activatedAt),
          (.revision, .integer 4), (.stripeManaged, .bool false), (.paymentAccess, unmanaged),
          (.paymentSyncIssue, storedIssue .retryRequired), (.stripeCancelAtPeriodEnd, .bool false),
          (.stripePlanConfirmed, .bool false), (.stripeCustomerId, .string "cus_oldFixture123"),
          (.stripeCustomerAttemptAt, attemptAt), (.stripeCheckoutAttemptAt, attemptAt),
          (.stripeCheckoutSessionId, .string "cs_test_oldSetup123"), (.stripeCheckoutPlan, storedPlan .premium),
          (.stripeCheckoutOperation, .string "12345678-1234-4123-8123-123456789012"),
          (.stripeNextSyncAt, attemptAt)] ∅]
    stripeEvents := []
    stripeUsage := []
    users := [Document.set [(.companyId, companyId), (.role, companyOwner)] ∅]
    invitations := []
    periods := []
    companyFiles := List.replicate files (Document.set [(.companyId, companyId)] ∅) }

def executeRecovery : StripeResetOptions :=
  { companyId := "65F0000000000000000000C1"
    environment := some "development"
    execute := true
    expectedRevision := some 4
    confirmReset := true
    confirmAppStopped := true
    confirmOldStripeQuiescent := true
    recoverUnmanagedBasic := true
    confirmTransitionToFree := true }

def recoveredCompany : ObjectId := ⟨"65f0000000000000000000c1".toList, by decide⟩

/-- With ten stored files the recovery succeeds and the company fits Free. -/
theorem recovery_of_ten_files :
    let after := run (abandonedCheckout 10) executeRecovery 1789466400000 .acknowledged
    after.1.isOk = true ∧ OnFree after.2 recoveredCompany ∧ FitsFree after.2 recoveredCompany 1789466400000 := by
  have succeeds : (run (abandonedCheckout 10) executeRecovery 1789466400000 .acknowledged).1.isOk = true := by
    decide +kernel
  cases outcome : (run (abandonedCheckout 10) executeRecovery 1789466400000 .acknowledged).1 with
  | error failure =>
      rw [outcome] at succeeds
      cases succeeds
  | ok report =>
      have left := (recovery_fits_free (abandonedCheckout 10) executeRecovery 1789466400000 .acknowledged
        recoveredCompany rfl rfl (by decide +kernel)).2 report outcome
      exact ⟨rfl, left.1, left.2.mpr (by decide +kernel)⟩

/-- Eleven files that were stored in earlier periods pass, as none was uploaded in this one: the company is on Free
with more files than Free allows. -/
theorem recovery_of_eleven_files :
    ¬ ∀ (db : Database) (options : StripeResetOptions) (instant : Int) (commit : Commit) (companyId : ObjectId)
        (report : StripeResetReport), options.recoverUnmanagedBasic = true → options.execute = true →
      ObjectId.ofHex? options.companyId = some companyId → (run db options instant commit).1 = .ok report →
      FitsFree (run db options instant commit).2 companyId instant := by
  intro always
  have succeeds : (run (abandonedCheckout 11) executeRecovery 1789466400000 .acknowledged).1.isOk = true := by
    decide +kernel
  cases outcome : (run (abandonedCheckout 11) executeRecovery 1789466400000 .acknowledged).1 with
  | error failure =>
      rw [outcome] at succeeds
      cases succeeds
  | ok report =>
      have fits := always (abandonedCheckout 11) executeRecovery 1789466400000 .acknowledged recoveredCompany report
        rfl rfl (by decide +kernel) outcome
      have stored :
          storedFiles (run (abandonedCheckout 11) executeRecovery 1789466400000 .acknowledged).2 recoveredCompany = 11 := by
        decide +kernel
      have few := fits.files
      rw [stored] at few
      exact absurd few (by decide)

end DataVault.Maintenance
