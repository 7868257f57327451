/-
Module: DataVault.Subscriptions.Capacity
Layer: Model
Purpose: The capacity decisions that several services make inside their transactions, as functions of the
  locked subscription and of the counts read beside it: `assertEmployeeCapacity` and
  `recordFileUploadsInTransaction` of subscriptions/entitlements.service.ts, `changePlan` of
  subscriptions/subscriptions.service.ts, `assertPlanFits` of payments/payments.service.ts and the overage
  price of subscriptions/billing.service.ts.
Imports: DataVault.Control.Fallible, DataVault.Payments.MeterWindow
Trusted boundary: human-reviewed spec
Main exports: employeeLimit, assertEmployeeCapacity, planFits, assertPlanFits, changePlan,
  recordFileUploads, planFits_ok_iff, recordFileUploads_fits
-/
import DataVault.Control.Fallible
import DataVault.Payments.MeterWindow

namespace DataVault.Subscriptions

open DataVault.Control DataVault.Plans DataVault.Payments

/-! ### Employees -/

/-- The smaller of two limits, `null` being no limit. -/
def employeeLimit (plan target : PlanDefinition) : Option Nat :=
  match plan.maxEmployees, target.maxEmployees with
  | none, limit => limit
  | limit, none => limit
  | some limit, some targetLimit => some (min limit targetLimit)

/-- `assertEmployeeCapacity`, after the lock: `employees` members and `pendingInvitations` pending invitations
that expire after `instant` were counted. -/
def assertEmployeeCapacity (enabled : Bool) (subscription : Subscription)
    (employees pendingInvitations : Nat) (additionalSeats instant : Int) : Except Failure Unit := do
  require (isSafeInteger additionalSeats && 0 ≤ additionalSeats)
    (.badRequest "Additional employee seats must be a non-negative integer")
  assertPaymentAccess subscription enabled instant
  let plan := planCatalog subscription.planCode
  let target := planCatalog subscription.targetPlan
  match employeeLimit plan target with
  | none => pure ()
  | some limit =>
      let name := plan.name
      require (employees + pendingInvitations + additionalSeats ≤ limit)
        (.employeeLimitReached s!"The {name} plan employee limit has been reached" limit employees
          pendingInvitations)

/-- The combined limit is at least as strict as that of the plan. -/
theorem employeeLimit_le {plan : PlanDefinition} (target : PlanDefinition) {limit : Nat}
    (capped : plan.maxEmployees = some limit) :
    ∃ stricter, employeeLimit plan target = some stricter ∧ stricter ≤ limit := by
  unfold employeeLimit
  rw [capped]
  cases target.maxEmployees with
  | none => exact ⟨limit, rfl, Nat.le_refl _⟩
  | some targetLimit => exact ⟨min limit targetLimit, rfl, Nat.min_le_left _ _⟩

/-- What passes the check fits the current plan with the additional seats. -/
theorem assertEmployeeCapacity_fits {enabled : Bool} {subscription : Subscription}
    {employees pendingInvitations additionalSeats : Nat} {instant : Int}
    (passed : assertEmployeeCapacity enabled subscription employees pendingInvitations additionalSeats
      instant = .ok ()) :
    subscription.planCode.fitsEmployees (employees + pendingInvitations + additionalSeats) := by
  intro limit capped
  obtain ⟨stricter, combined, le⟩ :=
    employeeLimit_le (planCatalog subscription.targetPlan) capped
  obtain ⟨_, _, passed⟩ := bind_ok_iff.mp passed
  obtain ⟨_, _, passed⟩ := bind_ok_iff.mp passed
  simp only [combined, require_ok_iff, decide_eq_true_eq] at passed
  omega

/-! ### Plan changes -/

/-- The two limits of a target plan, checked in the same order by both services; they differ in the text of
the errors. -/
def planFits (employeeMessage : PlanDefinition → Nat → String) (fileMessage : String) (code : PlanCode)
    (employees pendingInvitations storedFiles : Nat) : Except Failure Unit :=
  let plan := planCatalog code
  let fileLimit : Except Failure Unit :=
    if plan.extraFilePriceCents = none ∧ storedFiles > plan.includedFilesPerMonth then
      .error (.planFileLimit fileMessage code plan.includedFilesPerMonth storedFiles)
    else .ok ()
  match plan.maxEmployees with
  | none => fileLimit
  | some limit =>
      if employees + pendingInvitations > limit then
        .error (.planEmployeeLimit (employeeMessage plan limit) code limit employees pendingInvitations)
      else fileLimit

/-- The check passes exactly if the counts fit the plan, and fails with a conflict. -/
theorem planFits_ok_iff {employeeMessage : PlanDefinition → Nat → String} {fileMessage : String}
    {code : PlanCode} {employees pendingInvitations storedFiles : Nat} :
    planFits employeeMessage fileMessage code employees pendingInvitations storedFiles = .ok () ↔
      code.fitsEmployees (employees + pendingInvitations) ∧ code.fitsFiles storedFiles := by
  unfold PlanCode.fitsEmployees PlanCode.fitsFiles
  simp only [planFits]
  split
  · rename_i unlimited
    simp [unlimited]
  · rename_i limit capped
    simp only [capped]
    split <;> simp <;> omega

/-- `PaymentsService.assertPlanFits` on the counts it reads; it returns the number of employees. -/
def assertPlanFits (code : PlanCode) (employees pendingInvitations storedFiles : Nat) :
    Except Failure Nat := do
  planFits
    (fun _ _ => "Accepted employees and pending invitations exceed the target plan limit")
    "Stored files exceed the target plan limit" code employees pendingInvitations storedFiles
  pure employees

/-- The callback of `SubscriptionsService.changePlan` on the locked subscription and the counts it reads;
the document it leaves. -/
def changePlan (subscription : Subscription) (planCode : PlanCode) (changedAt : Int)
    (employees pendingInvitations storedFiles : Nat) : Except Failure Subscription := do
  require (!subscription.stripeManaged)
    (.forbidden "Stripe-managed plans require the payment integration")
  planFits
    (fun plan limit =>
      let name := plan.name
      s!"The {name} plan supports at most {limit} employees and pending invitations")
    "Stored files exceed the target plan limit" planCode employees pendingInvitations storedFiles
  if subscription.planCode = planCode then
    pure subscription
  else
    pure { subscription with planCode := planCode, planChangedAt := changedAt }

/-- A committed plan change leaves the requested plan, and the counts fit it. -/
theorem changePlan_fits {subscription changed : Subscription} {planCode : PlanCode} {changedAt : Int}
    {employees pendingInvitations storedFiles : Nat}
    (committed : changePlan subscription planCode changedAt employees pendingInvitations storedFiles =
      .ok changed) :
    changed.planCode = planCode ∧ changed.pendingPlanCode = subscription.pendingPlanCode ∧
      planCode.fitsEmployees (employees + pendingInvitations) ∧ planCode.fitsFiles storedFiles := by
  obtain ⟨_, _, committed⟩ := bind_ok_iff.mp committed
  obtain ⟨_, fits, committed⟩ := bind_ok_iff.mp committed
  have fitting := planFits_ok_iff.mp fits
  split at committed <;> cases committed
  · exact ⟨‹_›, rfl, fitting⟩
  · exact ⟨rfl, rfl, fitting⟩

/-- A committed plan change touches the plan and its date only. -/
theorem changePlan_touches {subscription changed : Subscription} {planCode : PlanCode} {changedAt : Int}
    {employees pendingInvitations storedFiles : Nat}
    (committed : changePlan subscription planCode changedAt employees pendingInvitations storedFiles =
      .ok changed) :
    ∃ planChangedAt, changed = { subscription with planCode := planCode, planChangedAt := planChangedAt } := by
  obtain ⟨_, _, committed⟩ := bind_ok_iff.mp committed
  obtain ⟨_, _, committed⟩ := bind_ok_iff.mp committed
  split at committed
  · rename_i same
    cases committed
    exact ⟨subscription.planChangedAt, by rw [← same]⟩
  · cases committed
    exact ⟨changedAt, rfl⟩

/-! ### Stored files -/

structure SubscriptionPeriod where
  companyId : Nat
  startsAt : Int
  endsAt : Int
  uploadedFiles : Nat := 0
  fileOverageCents : Nat := 0
deriving DecidableEq, Repr

/-- `BillingService.calculateAdditionalOverageCents`. -/
def calculateAdditionalOverageCents (plan : PlanDefinition) (uploadedFiles resultingFiles : Nat) :
    Except Failure Nat :=
  if !isSafeInteger uploadedFiles || !isSafeInteger resultingFiles || resultingFiles < uploadedFiles then
    .error (.internalServerError "Invalid billing accounting data")
  else
    match plan.extraFilePriceCents with
    | none => .ok 0
    | some price =>
        let priorExcess := uploadedFiles - plan.includedFilesPerMonth
        let resultingExcess := resultingFiles - plan.includedFilesPerMonth
        let cents := (resultingExcess - priorExcess) * price
        if !isSafeInteger cents then .error (.internalServerError "Billing amount exceeds safe range")
        else .ok cents

/-- The check of an upload on the files stored after it, against the current plan and the target plan; the
error names the current plan's limit in both cases. -/
def storedFileLimit (plan target : PlanDefinition) (files : Nat) : Except Failure Unit :=
  if (plan.extraFilePriceCents = none ∧ files > plan.includedFilesPerMonth) ∨
      (target.extraFilePriceCents = none ∧ files > target.includedFilesPerMonth) then
    .error (.fileLimitReached "The stored file limit has been reached. Delete a file to upload another."
      plan.includedFilesPerMonth)
  else .ok ()

theorem storedFileLimit_ok_iff {code target : PlanCode} {files : Nat} {result : Unit} :
    storedFileLimit (planCatalog code) (planCatalog target) files = .ok result ↔
      code.fitsFiles files ∧ target.fitsFiles files := by
  unfold storedFileLimit PlanCode.fitsFiles
  split
  · simp only [reduceCtorEq, false_iff]
    grind
  · simp only [true_iff]
    grind

/-- What an upload transaction writes beside the file itself. -/
structure UploadRecord where
  usage : Option StripeUsage
  period : SubscriptionPeriod
deriving DecidableEq, Repr

/-- `recordFileUploadsInTransaction` on the locked subscription: `usageOf` reads the stored row of a period
and `storedFiles` files are counted. -/
def recordFileUploads (enabled : Bool) (subscription : Subscription)
    (usageOf : BillingPeriod → Option SubscriptionPeriod) (storedFiles quantity : Nat) (instant : Int) :
    Except Failure UploadRecord := do
  require (isSafeInteger quantity && 1 ≤ quantity)
    (.badRequest "File quantity must be a positive integer")
  assertPaymentAccess subscription enabled instant
  let plan := planCatalog subscription.planCode
  let target := planCatalog subscription.targetPlan
  let period ← orFail (billingPeriod subscription.activatedAt instant) .invalidBillingPeriod
  let usage := (usageOf period).getD
    { companyId := subscription.companyId, startsAt := period.startsAt, endsAt := period.endsAt }
  let resultingFiles := usage.uploadedFiles + quantity
  storedFileLimit plan target (storedFiles + quantity)
  let cents ← calculateAdditionalOverageCents plan storedFiles (storedFiles + quantity)
  let row ←
    if subscription.stripeManaged then
      enqueueOverage enabled subscription period resultingFiles cents instant
    else pure none
  pure
    { usage := row
      period := { usage with
        uploadedFiles := usage.uploadedFiles + quantity
        fileOverageCents := usage.fileOverageCents + cents } }

/-- What an upload adds fits the current plan and the queued one. -/
theorem recordFileUploads_fits {enabled : Bool} {subscription : Subscription}
    {usageOf : BillingPeriod → Option SubscriptionPeriod} {storedFiles quantity : Nat} {instant : Int}
    {record : UploadRecord}
    (recorded : recordFileUploads enabled subscription usageOf storedFiles quantity instant = .ok record) :
    subscription.planCode.fitsFiles (storedFiles + quantity) ∧
      subscription.targetPlan.fitsFiles (storedFiles + quantity) := by
  obtain ⟨_, _, recorded⟩ := bind_ok_iff.mp recorded
  obtain ⟨_, _, recorded⟩ := bind_ok_iff.mp recorded
  obtain ⟨_, _, recorded⟩ := bind_ok_iff.mp recorded
  obtain ⟨_, limit, _⟩ := bind_ok_iff.mp recorded
  exact storedFileLimit_ok_iff.mp limit

/-- The usage row of an upload waits for its first delivery. -/
theorem recordFileUploads_pending {enabled : Bool} {subscription : Subscription}
    {usageOf : BillingPeriod → Option SubscriptionPeriod} {storedFiles quantity : Nat} {instant : Int}
    {record : UploadRecord} {row : StripeUsage}
    (recorded : recordFileUploads enabled subscription usageOf storedFiles quantity instant = .ok record)
    (queued : record.usage = some row) : row.state = .pending ∧ row.firstAttemptAt = none := by
  obtain ⟨_, _, recorded⟩ := bind_ok_iff.mp recorded
  obtain ⟨_, _, recorded⟩ := bind_ok_iff.mp recorded
  obtain ⟨_, _, recorded⟩ := bind_ok_iff.mp recorded
  obtain ⟨_, _, recorded⟩ := bind_ok_iff.mp recorded
  obtain ⟨_, _, recorded⟩ := bind_ok_iff.mp recorded
  split at recorded
  · obtain ⟨_, enqueued, recorded⟩ := bind_ok_iff.mp recorded
    cases recorded
    cases queued
    exact enqueueOverage_pending enqueued
  · cases recorded
    cases queued

end DataVault.Subscriptions
