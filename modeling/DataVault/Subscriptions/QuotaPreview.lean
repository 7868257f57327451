/-
Module: DataVault.Subscriptions.QuotaPreview
Layer: Proofs
Purpose: `checkFileUpload` of subscriptions/entitlements.service.ts, the quote that is shown before an upload, against
  `recordFileUploads`, which decides and charges it: on one state and at one instant they agree.
Imports: DataVault.Subscriptions.UsageAccounting
Trusted boundary: human-reviewed spec
Main exports: FileQuota, AccountingDb.checkFileUpload, QuotaAgrees, quota_preview
-/
import DataVault.Subscriptions.UsageAccounting

namespace DataVault.Subscriptions

open DataVault.Control DataVault.Plans DataVault.Payments DataVault.Store

/-! ### The quote -/

inductive EntitlementDenialReason where
  | fileLimitReached
  | employeeLimitReached
deriving DecidableEq, Repr

/-- What `checkFileUpload` returns. -/
structure FileQuota where
  allowed : Bool
  reason : Option EntitlementDenialReason
  planCode : PlanCode
  uploadedFiles : Nat
  quotaBasis : String := "stored_files"
  requestedFiles : Nat
  includedFilesPerMonth : Nat
  remainingIncludedFiles : Nat
  additionalChargeCents : Nat
  billingPeriod : BillingPeriod

/-- The `allowed` of `checkFileUpload`. -/
def quotaAllows (plan target : PlanDefinition) (resultingFiles : Nat) : Bool :=
  let excessFiles := resultingFiles - plan.includedFilesPerMonth
  (plan.extraFilePriceCents.isSome || excessFiles = 0) &&
    (target.extraFilePriceCents.isSome || resultingFiles ≤ target.includedFilesPerMonth)

/-- The object that `checkFileUpload` returns. -/
def quotaOf (plan target : PlanDefinition) (period : BillingPeriod)
    (uploadedFiles storedFiles quantity additionalChargeCents : Nat) : FileQuota :=
  let allowed := quotaAllows plan target (storedFiles + quantity)
  { allowed := allowed
    reason := if allowed then none else some .fileLimitReached
    planCode := plan.code
    uploadedFiles := uploadedFiles
    requestedFiles := quantity
    includedFilesPerMonth := plan.includedFilesPerMonth
    remainingIncludedFiles := plan.includedFilesPerMonth - storedFiles
    additionalChargeCents := additionalChargeCents
    billingPeriod := period }

/-- `checkFileUpload`. -/
def AccountingDb.checkFileUpload (db : AccountingDb) (enabled : Bool) (companyId quantity : Nat) (instant : Int) :
    Except Failure FileQuota := do
  require (isSafeInteger quantity && 1 ≤ quantity) (.badRequest "File quantity must be a positive integer")
  let subscription ← orFail (db.subscriptions companyId) (.notFound "Company subscription not found")
  assertPaymentAccess subscription enabled instant
  let plan := planCatalog subscription.planCode
  let target := planCatalog subscription.targetPlan
  let period ← orFail (Subscriptions.billingPeriod subscription.activatedAt instant) .invalidBillingPeriod
  let uploadedFiles := ((db.periodRow (companyId, period.startsAt)).map (·.uploadedFiles)).getD 0
  let storedFiles := db.storedFiles companyId
  let additionalChargeCents ← calculateAdditionalOverageCents plan storedFiles (storedFiles + quantity)
  pure (quotaOf plan target period uploadedFiles storedFiles quantity additionalChargeCents)

/-! ### The agreement -/

/-- The request is rejected on payment access. -/
def RejectedOnPayment {α : Type} (result : Except Failure α) : Prop :=
  result = .error (.forbidden "Company billing requires attention before new uploads or employee onboarding")

/-- The request is rejected on the limit of stored files. -/
def FileLimitReached {α : Type} (result : Except Failure α) : Prop :=
  ∃ message limit, result = .error (.fileLimitReached message limit)

/-- What a quote promises of the upload that is decided on the same state. -/
structure QuotaAgrees (db : AccountingDb) (companyId : Nat) (quote : Except Failure FileQuota)
    (upload : Except Failure AccountingDb) : Prop where
  access : RejectedOnPayment quote ↔ RejectedOnPayment upload
  limit : (∃ quota, quote = .ok quota ∧ quota.allowed = false) ↔ FileLimitReached upload
  charge : ∀ after, upload = .ok after → ∃ quota, quote = .ok quota ∧
    after.overageCents (companyId, quota.billingPeriod.startsAt) =
      db.overageCents (companyId, quota.billingPeriod.startsAt) + quota.additionalChargeCents
  metered : ∀ after subscription, upload = .ok after → db.subscriptions companyId = some subscription →
    subscription.stripeManaged = true → ∃ quota, quote = .ok quota ∧
      (quota.additionalChargeCents : Int) =
        50 * (after.meteredQuantity (companyId, quota.billingPeriod.startsAt) -
          db.meteredQuantity (companyId, quota.billingPeriod.startsAt))

/-- What the files cost that an upload adds to those above the included ones. -/
def extraFileCents (plan : PlanDefinition) (storedFiles quantity : Nat) : Nat :=
  (storedFiles + quantity - plan.includedFilesPerMonth - (storedFiles - plan.includedFilesPerMonth)) *
    plan.extraFilePriceCents.getD 0

/-! ### The decision -/

theorem calculateAdditionalOverageCents_safe {plan : PlanDefinition} {storedFiles quantity : Nat}
    (totals : storedFiles + quantity < 2 ^ 53) (charges : extraFileCents plan storedFiles quantity < 2 ^ 53) :
    calculateAdditionalOverageCents plan storedFiles (storedFiles + quantity) =
      .ok (extraFileCents plan storedFiles quantity) := by
  have valid : (!isSafeInteger storedFiles || !isSafeInteger (storedFiles + quantity : Nat) ||
      decide (storedFiles + quantity < storedFiles)) = false := by
    simp only [isSafeInteger, Bool.or_eq_false_iff, Bool.not_eq_false', decide_eq_true_eq, decide_eq_false_iff_not]
    omega
  have cents : isSafeInteger (extraFileCents plan storedFiles quantity : Nat) = true := by
    simp only [isSafeInteger, decide_eq_true_eq]
    omega
  unfold extraFileCents at cents ⊢
  unfold calculateAdditionalOverageCents
  rw [valid]
  cases price : plan.extraFilePriceCents with
  | none => simp
  | some price =>
      rw [price, Option.getD_some] at cents
      simp only [Option.getD_some, cents]
      rfl

theorem storedFileLimit_eq (plan target : PlanDefinition) (files : Nat) :
    storedFileLimit plan target files =
      if quotaAllows plan target files then .ok ()
      else .error (.fileLimitReached "The stored file limit has been reached. Delete a file to upload another."
        plan.includedFilesPerMonth) := by
  have decides : quotaAllows plan target files = true ↔
      ¬((plan.extraFilePriceCents = none ∧ files > plan.includedFilesPerMonth) ∨
        (target.extraFilePriceCents = none ∧ files > target.includedFilesPerMonth)) := by
    unfold quotaAllows
    cases plan.extraFilePriceCents <;> cases target.extraFilePriceCents <;> simp <;> omega
  unfold storedFileLimit
  split
  case isTrue over_limit => simp [mt decides.mp (not_not.mpr over_limit)]
  case isFalse within => simp [decides.mpr within]

/-- What the upload of a company does once payments and the stored files allow it, for the cents it costs. -/
def chargeUpload (enabled : Bool) (subscription : Subscription)
    (usageOf : BillingPeriod → Option SubscriptionPeriod) (period : BillingPeriod) (quantity cents : Nat)
    (instant : Int) : Except Failure UploadRecord := do
  let usage := rowOf subscription.companyId usageOf period
  let row ←
    if subscription.stripeManaged then
      enqueueOverage enabled subscription period (usage.uploadedFiles + quantity : Nat) cents instant
    else pure none
  pure
    { usage := row
      period := { usage with
        uploadedFiles := usage.uploadedFiles + quantity
        fileOverageCents := usage.fileOverageCents + cents } }

/-- The decision on an upload that payments let through is that of the quote. -/
theorem recordFileUploads_eq {enabled : Bool} {subscription : Subscription}
    {usageOf : BillingPeriod → Option SubscriptionPeriod} {storedFiles quantity : Nat} {instant : Int}
    {period : BillingPeriod} (valid : (isSafeInteger quantity && decide (1 ≤ quantity)) = true)
    (access : assertPaymentAccess subscription enabled instant = .ok ())
    (current : billingPeriod subscription.activatedAt instant = some period)
    (totals : storedFiles + quantity < 2 ^ 53)
    (charges : extraFileCents (planCatalog subscription.planCode) storedFiles quantity < 2 ^ 53) :
    recordFileUploads enabled subscription usageOf storedFiles quantity instant =
      if quotaAllows (planCatalog subscription.planCode) (planCatalog subscription.targetPlan)
        (storedFiles + quantity) then
        chargeUpload enabled subscription usageOf period quantity
          (extraFileCents (planCatalog subscription.planCode) storedFiles quantity) instant
      else .error (.fileLimitReached "The stored file limit has been reached. Delete a file to upload another."
        (planCatalog subscription.planCode).includedFilesPerMonth) := by
  unfold recordFileUploads
  rw [valid, access, current]
  change (do
    storedFileLimit (planCatalog subscription.planCode) (planCatalog subscription.targetPlan) (storedFiles + quantity)
    let cents ← calculateAdditionalOverageCents (planCatalog subscription.planCode) storedFiles
      (storedFiles + quantity)
    chargeUpload enabled subscription usageOf period quantity cents instant) = _
  rw [storedFileLimit_eq, calculateAdditionalOverageCents_safe totals charges]
  split
  case isTrue => rfl
  case isFalse => rfl

/-- What an upload adds to the row of its period, and what it meters. -/
structure Charged (subscription : Subscription) (before : SubscriptionPeriod) (quantity cents : Nat)
    (record : UploadRecord) : Prop where
  row : record.period =
    { before with
      uploadedFiles := before.uploadedFiles + quantity
      fileOverageCents := before.fileOverageCents + cents }
  unmetered : record.usage = none → subscription.stripeManaged = true → cents = 0
  metered : ∀ row, record.usage = some row → 50 * row.quantity = cents ∧
    periodKey row = (subscription.companyId, before.startsAt)

theorem chargeUpload_charged {enabled : Bool} {subscription : Subscription}
    {usageOf : BillingPeriod → Option SubscriptionPeriod} {period : BillingPeriod} {quantity cents : Nat}
    {instant : Int} {record : UploadRecord}
    (under : subscription.stripeManaged = true → enabled = true)
    (starts : (rowOf subscription.companyId usageOf period).startsAt = period.startsAt)
    (recorded : chargeUpload enabled subscription usageOf period quantity cents instant = .ok record) :
    Charged subscription (rowOf subscription.companyId usageOf period) quantity cents record := by
  unfold chargeUpload at recorded
  split at recorded
  case isTrue managed =>
    rcases bind_ok_iff.mp recorded with ⟨usage, enqueued, recorded⟩
    cases recorded
    constructor
    case row => rfl
    case unmetered =>
      rintro rfl _
      rw [under managed] at enqueued
      exact Int.ofNat_eq_zero.mp (enqueueOverage_none managed enqueued)
    case metered =>
      rintro row rfl
      rcases enqueueOverage_quantity enqueued with ⟨quantities, _, key⟩
      rw [starts]
      exact ⟨quantities, key⟩
  case isFalse unmanaged =>
    cases recorded
    constructor
    case row => rfl
    case unmetered => exact fun _ managed => absurd managed unmanaged
    case metered =>
      intro row metered
      cases metered

/-- The failures by which an upload is refused. -/
def Refuses : Failure → Prop
  | .forbidden _ | .fileLimitReached .. => True
  | _ => False

theorem enqueueOverage_refuses {enabled : Bool} {subscription : Subscription} {period : BillingPeriod}
    {sequence cents now : Int} {failure : Failure} (refuses : Refuses failure) :
    enqueueOverage enabled subscription period sequence cents now ≠ .error failure := by
  intro failed
  simp only [enqueueOverage] at failed
  repeat' split at failed
  all_goals cases failed
  all_goals exact refuses

/-- Behind the limit, nothing refuses an upload. -/
theorem chargeUpload_refuses {enabled : Bool} {subscription : Subscription}
    {usageOf : BillingPeriod → Option SubscriptionPeriod} {period : BillingPeriod} {quantity cents : Nat}
    {instant : Int} {failure : Failure} (refuses : Refuses failure) :
    chargeUpload enabled subscription usageOf period quantity cents instant ≠ .error failure := by
  unfold chargeUpload
  split
  case isTrue =>
    apply bind_ne_error (enqueueOverage_refuses refuses)
    intro usage _ failed
    cases failed
  case isFalse =>
    intro failed
    cases failed

theorem storeUsage_refuses {usages : UsageTable} {usage : Option StripeUsage} {failure : Failure}
    (refuses : Refuses failure) : AccountingDb.storeUsage usages usage ≠ .error failure := by
  cases usage with
  | none =>
      intro failed
      cases failed
  | some row =>
      apply orFail_ne_error
      rintro rfl
      exact refuses

/-! ### Both sides -/

theorem QuotaAgrees.of_failure {db : AccountingDb} {companyId : Nat} {quote : Except Failure FileQuota}
    {upload : Except Failure AccountingDb} {failure : Failure} (quote_fails : quote = .error failure)
    (upload_fails : upload = .error failure) (other : ∀ message limit, failure ≠ .fileLimitReached message limit) :
    QuotaAgrees db companyId quote upload := by
  subst quote_fails upload_fails
  constructor
  case access => simp [RejectedOnPayment]
  case limit => simp [FileLimitReached, other]
  case charge =>
    intro after done
    cases done
  case metered =>
    intro after subscription done
    cases done

/-- The subscription that `acquireLock` returns. -/
def Subscription.locked (subscription : Subscription) : Subscription :=
  { subscription with revision := subscription.revision + 1 }

/-- What the transaction of an upload does behind the limit. -/
def AccountingDb.writeUpload (db : AccountingDb) (enabled : Bool) (companyId : Nat) (found : Subscription)
    (period : BillingPeriod) (quantity cents : Nat) (instant : Int) : Except Failure AccountingDb := do
  let record ← chargeUpload enabled found.locked (fun period => db.periodRow (companyId, period.startsAt)) period
    quantity cents instant
  let usages ← AccountingDb.storeUsage db.usages record.usage
  pure { db with
    subscriptions := Function.update db.subscriptions companyId (some found.locked)
    periods := upsert SubscriptionPeriod.key record.period db.periods
    usages := usages
    uploads :=
      { key := record.period.key
        quantity := quantity
        cents := record.period.fileOverageCents - db.overageCents record.period.key
        managed := found.stripeManaged } :: db.uploads }

/-- Behind the limit, nothing refuses an upload. -/
theorem writeUpload_refuses {db : AccountingDb} {enabled : Bool} {companyId : Nat} {found : Subscription}
    {period : BillingPeriod} {quantity cents : Nat} {instant : Int} {failure : Failure} (refuses : Refuses failure) :
    db.writeUpload enabled companyId found period quantity cents instant ≠ .error failure := by
  apply bind_ne_error (chargeUpload_refuses refuses)
  intro record _
  apply bind_ne_error (storeUsage_refuses refuses)
  intro usages _ failed
  cases failed

section Access

variable {db : AccountingDb} {enabled : Bool} {companyId quantity : Nat} {instant : Int} {found : Subscription}
  {period : BillingPeriod} (valid : (isSafeInteger quantity && decide (1 ≤ quantity)) = true)
  (stored : db.subscriptions companyId = some found) (access : assertPaymentAccess found enabled instant = .ok ())
  (current : billingPeriod found.activatedAt instant = some period)
  (totals : db.storedFiles companyId + quantity < 2 ^ 53)
  (charges : extraFileCents (planCatalog found.planCode) (db.storedFiles companyId) quantity < 2 ^ 53)
include valid stored access current totals charges

/-- The quote for an upload that payments let through. -/
theorem check_eq :
    db.checkFileUpload enabled companyId quantity instant =
      .ok (quotaOf (planCatalog found.planCode) (planCatalog found.targetPlan) period
        (((db.periodRow (companyId, period.startsAt)).map (·.uploadedFiles)).getD 0) (db.storedFiles companyId)
        quantity (extraFileCents (planCatalog found.planCode) (db.storedFiles companyId) quantity)) := by
  unfold AccountingDb.checkFileUpload
  rw [valid, stored]
  apply bind_ok_iff.mpr
  exists (), rfl
  apply bind_ok_iff.mpr
  exists found, rfl
  apply bind_ok_iff.mpr
  exists (), access
  apply bind_ok_iff.mpr
  exists period, orFail_ok_iff.mpr current
  apply bind_ok_iff.mpr
  exact ⟨_, calculateAdditionalOverageCents_safe totals charges, rfl⟩

/-- The decision on an upload that payments let through is the limit of the quote. -/
theorem upload_eq :
    db.recordFileUploads enabled companyId quantity instant =
      if quotaAllows (planCatalog found.planCode) (planCatalog found.targetPlan)
        (db.storedFiles companyId + quantity) then
        db.writeUpload enabled companyId found period quantity
          (extraFileCents (planCatalog found.planCode) (db.storedFiles companyId) quantity) instant
      else .error (.fileLimitReached "The stored file limit has been reached. Delete a file to upload another."
        (planCatalog found.planCode).includedFilesPerMonth) := by
  unfold AccountingDb.recordFileUploads
  rw [valid, stored]
  have decided := @recordFileUploads_eq _ found.locked
    (fun period => db.periodRow (companyId, period.startsAt)) _ _ _ _ valid access current totals charges
  change (do
    let record ← recordFileUploads enabled found.locked
      (fun period => db.periodRow (companyId, period.startsAt)) (db.storedFiles companyId) quantity instant
    _) = _
  rw [decided]
  split
  case isTrue allowed => exact (if_pos allowed).symm
  case isFalse refused => exact (if_neg refused).symm

end Access

/-- What a success has charged and metered. -/
theorem writeUpload_charges {db after : AccountingDb} {enabled : Bool} {companyId quantity cents : Nat}
    {instant : Int} {found : Subscription} {period : BillingPeriod} (owned : found.companyId = companyId)
    (access : assertPaymentAccess found enabled instant = .ok ())
    (done : db.writeUpload enabled companyId found period quantity cents instant = .ok after) :
    after.overageCents (companyId, period.startsAt) = db.overageCents (companyId, period.startsAt) + cents ∧
      (found.stripeManaged = true → (cents : Int) =
        50 * (after.meteredQuantity (companyId, period.startsAt) -
          db.meteredQuantity (companyId, period.startsAt))) := by
  rcases bind_ok_iff.mp done with ⟨record, recorded, done⟩
  rcases bind_ok_iff.mp done with ⟨usages, inserted, done⟩
  have periods : after.periods = upsert SubscriptionPeriod.key record.period db.periods := by
    rw [← Except.ok.inj done]
  have stored : after.usages = usages := by rw [← Except.ok.inj done]
  subst owned stored
  rcases Accounted.rowOf_counters db found.companyId period with ⟨keyed, files, overage⟩
  have under : found.locked.stripeManaged = true → enabled = true := by
    intro managed
    cases enabled with
    | true => rfl
    | false => cases managed.symm.trans ((assertPaymentAccess_disabled _ _).mp access)
  have charged := chargeUpload_charged under (congrArg Prod.snd keyed) recorded
  constructor
  case left =>
    have counters := (@Accounted.counters_upload _ _ _ _ _ _ (found.companyId, period.startsAt) files overage charged.row
      periods).2
    rw [if_pos keyed] at counters
    omega
  case right =>
    intro managed
    cases usage : record.usage with
    | none =>
        have free := charged.unmetered usage managed
        rw [usage] at inserted
        have same : after.meteredQuantity (found.companyId, period.startsAt) =
            db.meteredQuantity (found.companyId, period.startsAt) := by
          unfold AccountingDb.meteredQuantity
          rw [← Except.ok.inj inserted]
        omega
    | some row =>
        rcases charged.metered row usage with ⟨whole, key⟩
        rw [usage] at inserted
        have here : periodKey row = (found.companyId, period.startsAt) :=
          key.trans (congrArg (Prod.mk found.companyId) (congrArg Prod.snd keyed))
        have metered := @Accounted.meteredQuantity_insert _ _ _ (found.companyId, period.startsAt)
          (orFail_ok_iff.mp inserted)
        rw [if_pos here] at metered
        omega

/-- Where payments let an upload through, the quote and the decision agree. -/
theorem agrees_of_access {db : AccountingDb} {enabled : Bool} {companyId quantity : Nat} {instant : Int}
    {found : Subscription} {period : BillingPeriod} (valid : (isSafeInteger quantity && decide (1 ≤ quantity)) = true)
    (stored : db.subscriptions companyId = some found) (owned : found.companyId = companyId)
    (access : assertPaymentAccess found enabled instant = .ok ())
    (current : billingPeriod found.activatedAt instant = some period)
    (totals : db.storedFiles companyId + quantity < 2 ^ 53)
    (charges : extraFileCents (planCatalog found.planCode) (db.storedFiles companyId) quantity < 2 ^ 53) :
    QuotaAgrees db companyId (db.checkFileUpload enabled companyId quantity instant)
      (db.recordFileUploads enabled companyId quantity instant) := by
  rw [check_eq valid stored access current totals charges, upload_eq valid stored access current totals charges]
  split
  case isFalse refused =>
    constructor
    case access => simp [RejectedOnPayment]
    case limit => simpa [FileLimitReached, quotaOf] using refused
    case charge =>
      intro after done
      cases done
    case metered =>
      intro after subscription done
      cases done
  case isTrue allowed =>
    constructor
    case access =>
      constructor
      · intro rejected
        cases rejected
      · intro rejected
        exact absurd rejected (writeUpload_refuses trivial)
    case limit =>
      constructor
      · rintro ⟨quota, same, denied⟩
        cases same
        exact Bool.noConfusion (allowed.symm.trans denied)
      · rintro ⟨message, limit, reached⟩
        exact absurd reached (writeUpload_refuses trivial)
    case charge =>
      intro after done
      exact ⟨_, rfl, (writeUpload_charges owned access done).1⟩
    case metered =>
      intro after subscription done same managed
      cases stored.symm.trans same
      exact ⟨_, rfl, (writeUpload_charges owned access done).2 managed⟩

theorem assertPaymentAccess_limit {subscription : Subscription} {enabled : Bool} {instant : Int} {failure : Failure}
    (denied : assertPaymentAccess subscription enabled instant = .error failure) :
    ∀ message limit, failure ≠ .fileLimitReached message limit := by
  unfold assertPaymentAccess at denied
  repeat' split at denied
  all_goals cases denied
  simp

/-- A quote and the decision on the same state and at the same instant agree: on payment access, on the limit of stored
files, and in what a successful upload adds to the row of its period and to the metered usage. -/
theorem quota_preview {db : AccountingDb} (enabled : Bool) {companyId quantity : Nat} (instant : Int)
    (owned : ∀ found, db.subscriptions companyId = some found → found.companyId = companyId)
    (totals : db.storedFiles companyId + quantity < 2 ^ 53)
    (charges : ∀ found, db.subscriptions companyId = some found →
      extraFileCents (planCatalog found.planCode) (db.storedFiles companyId) quantity < 2 ^ 53) :
    QuotaAgrees db companyId (db.checkFileUpload enabled companyId quantity instant)
      (db.recordFileUploads enabled companyId quantity instant) := by
  cases valid : isSafeInteger quantity && decide (1 ≤ quantity) with
  | false =>
      unfold AccountingDb.checkFileUpload AccountingDb.recordFileUploads
      rw [valid]
      exact .of_failure rfl rfl (by simp)
  | true =>
      cases stored : db.subscriptions companyId with
      | none =>
          unfold AccountingDb.checkFileUpload AccountingDb.recordFileUploads
          rw [valid, stored]
          exact .of_failure rfl rfl (by simp)
      | some found =>
          cases access : assertPaymentAccess found enabled instant with
          | error failure =>
              apply @QuotaAgrees.of_failure _ _ _ _ failure _ _ (assertPaymentAccess_limit access)
              · unfold AccountingDb.checkFileUpload
                rw [valid, stored]
                change (assertPaymentAccess found enabled instant >>= _) = _
                exact bind_error access
              · unfold AccountingDb.recordFileUploads Subscriptions.recordFileUploads
                rw [valid, stored]
                change ((assertPaymentAccess found.locked enabled instant >>= _) >>= _) = _
                exact bind_error (bind_error access)
          | ok =>
              cases current : billingPeriod found.activatedAt instant with
              | none =>
                  have missing : orFail (billingPeriod found.activatedAt instant) Failure.invalidBillingPeriod =
                      .error .invalidBillingPeriod := by
                    rw [current]
                    rfl
                  apply @QuotaAgrees.of_failure _ _ _ _ .invalidBillingPeriod _ _ (by simp)
                  · unfold AccountingDb.checkFileUpload
                    rw [valid, stored]
                    change (assertPaymentAccess found enabled instant >>= _) = _
                    rw [access]
                    change (orFail (billingPeriod found.activatedAt instant) _ >>= _) = _
                    exact bind_error missing
                  · unfold AccountingDb.recordFileUploads Subscriptions.recordFileUploads
                    rw [valid, stored]
                    change ((assertPaymentAccess found enabled instant >>= _) >>= _) = _
                    rw [access]
                    change ((orFail (billingPeriod found.activatedAt instant) _ >>= _) >>= _) = _
                    exact bind_error (bind_error missing)
              | some period =>
                  exact agrees_of_access valid stored (owned found stored) access current totals (charges found stored)

/-- A managed company with 999 stored files: three more cost a dollar, which is quoted, charged and metered. -/
theorem quota_preview_extra_files :
    QuotaAgrees (AccountingDb.after [.subscription managedPremium, .storedFiles 7 999]) 7
      ((AccountingDb.after [.subscription managedPremium, .storedFiles 7 999]).checkFileUpload true 7 3 60000)
      ((AccountingDb.after [.subscription managedPremium, .storedFiles 7 999]).recordFileUploads true 7 3 60000) := by
  have stored : ∀ found, (AccountingDb.after [.subscription managedPremium, .storedFiles 7 999]).subscriptions 7 =
      some found → found = managedPremium := by
    intro found same
    exact (Option.some.inj same).symm
  apply quota_preview true 60000
  · intro found same
    rw [stored found same]
    rfl
  · decide
  · intro found same
    rw [stored found same]
    decide

example :
    let db := AccountingDb.after [.subscription managedPremium, .storedFiles 7 999]
    (db.checkFileUpload true 7 3 60000).toOption.map (·.additionalChargeCents) = some 100 := by decide +kernel

end DataVault.Subscriptions
