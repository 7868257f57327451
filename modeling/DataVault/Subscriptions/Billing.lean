/-
Module: DataVault.Subscriptions.Billing
Layer: Model
Purpose: `BillingService.calculate` of subscriptions/billing.service.ts: the view of a company's accounting that
  is computed from its plan, its members and the row of a period. Bigints are natural numbers; what becomes a
  number again is checked against the safe range.
Imports: DataVault.Subscriptions.Capacity
Trusted boundary: human-reviewed spec
Main exports: BillingCalculation, calculate, SubscriptionPeriod.Sound, calculate_accepts
-/
import DataVault.Subscriptions.Capacity

namespace DataVault.Subscriptions

open DataVault.Control DataVault.Plans DataVault.Payments

/-- What `calculate` returns. -/
structure BillingCalculation where
  companyId : Nat
  calculationBasis : String := "current_plan_estimate_with_recorded_overage"
  currency : BillingCurrency
  plan : PlanDefinition
  activatedAt : Int
  planChangedAt : Int
  planChangedInCurrentPeriod : Bool
  billingPeriod : BillingPeriod
  baseAmountCents : Nat
  employeeCount : Nat
  billableEmployeeCount : Nat
  employeeUnitPriceCents : Nat
  employeeChargeCents : Nat
  includedUploadAllowance : Nat
  successfulUploads : Nat
  billableOverageUploads : Nat
  overageUnitPriceCents : Nat
  overageChargeCents : Nat
  totalAmountCents : Nat

/-- The error of accounting data that no upload can have left. -/
def invalidAccounting : Failure := .internalServerError "Invalid billing accounting data"

/-- `assertInteger`, of a natural number. -/
def assertInteger (value : Nat) : Except Failure Unit := require (isSafeInteger value) invalidAccounting

/-- `safeNumber`. -/
def safeNumber (value : Nat) : Except Failure Nat := do
  require (value ≤ 9007199254740991) (.internalServerError "Billing amount exceeds safe range")
  pure value

/-- `calculate`. -/
def calculate (subscription : Subscription) (usage : Option SubscriptionPeriod) (employeeCount : Nat)
    (instant : Int) : Except Failure BillingCalculation := do
  let plan := planCatalog subscription.planCode
  let period ← orFail (billingPeriod subscription.activatedAt instant) .invalidBillingPeriod
  let successfulUploads := (usage.map (·.uploadedFiles)).getD 0
  let overageChargeCents := (usage.map (·.fileOverageCents)).getD 0
  let overageUnitPriceCents := (planCatalog .premium).extraFilePriceCents.getD 0
  assertInteger employeeCount
  assertInteger successfulUploads
  assertInteger overageChargeCents
  assertInteger plan.basePriceCents
  assertInteger plan.employeePriceCents
  assertInteger overageUnitPriceCents
  require (overageUnitPriceCents ≠ 0 && overageChargeCents % overageUnitPriceCents = 0) invalidAccounting
  let billableEmployeeCount := if plan.employeePriceCents > 0 then employeeCount else 0
  let employeeChargeCents ← safeNumber (billableEmployeeCount * plan.employeePriceCents)
  let billableOverageUploads ← safeNumber (overageChargeCents / overageUnitPriceCents)
  require (billableOverageUploads ≤ successfulUploads) invalidAccounting
  let totalAmountCents ← safeNumber (plan.basePriceCents + employeeChargeCents + overageChargeCents)
  pure
    { companyId := subscription.companyId
      currency := plan.currency
      plan := plan
      activatedAt := subscription.activatedAt
      planChangedAt := subscription.planChangedAt
      planChangedInCurrentPeriod := subscription.planChangedAt ≥ period.startsAt &&
        subscription.planChangedAt ≤ instant && subscription.planChangedAt ≠ subscription.activatedAt
      billingPeriod := period
      baseAmountCents := plan.basePriceCents
      employeeCount := employeeCount
      billableEmployeeCount := billableEmployeeCount
      employeeUnitPriceCents := plan.employeePriceCents
      employeeChargeCents := employeeChargeCents
      includedUploadAllowance := plan.includedFilesPerMonth
      successfulUploads := successfulUploads
      billableOverageUploads := billableOverageUploads
      overageUnitPriceCents := overageUnitPriceCents
      overageChargeCents := overageChargeCents
      totalAmountCents := totalAmountCents }

/-- The overage of a period is 50 cents for each of at most all its uploads. -/
def SubscriptionPeriod.Sound (row : SubscriptionPeriod) : Prop :=
  ∃ extraFiles ≤ row.uploadedFiles, row.fileOverageCents = 50 * extraFiles

theorem safeNumber_valid (value : Nat) : safeNumber value ≠ .error invalidAccounting := by
  unfold safeNumber require invalidAccounting
  split
  · exact fun failed => by cases failed
  · exact fun failed => by simp at failed

theorem safeNumber_ok {value number : Nat} (safe : safeNumber value = .ok number) : number = value := by
  obtain ⟨_, _, safe⟩ := bind_ok_iff.mp safe
  cases safe
  rfl

theorem require_valid {condition : Bool} (holds : condition) :
    require condition invalidAccounting ≠ .error invalidAccounting := by
  have passed : require condition invalidAccounting = .ok () := require_ok_iff.mpr holds
  rw [passed]
  exact fun failed => by cases failed

theorem orFail_valid {α : Type} {found : Option α} : orFail found .invalidBillingPeriod ≠ .error invalidAccounting := by
  cases found with
  | none => exact fun failed => by cases failed
  | some value => exact fun failed => by cases failed

/-- A sound row of safe numbers is never rejected as invalid accounting data. -/
theorem calculate_accepts {subscription : Subscription} {usage : Option SubscriptionPeriod} {employeeCount : Nat}
    {instant : Int} (counted : isSafeInteger employeeCount)
    (sound : ∀ row ∈ usage, row.Sound ∧ isSafeInteger row.uploadedFiles ∧ isSafeInteger row.fileOverageCents) :
    calculate subscription usage employeeCount instant ≠ .error invalidAccounting := by
  obtain ⟨extraFiles, few, cents, uploads_safe, cents_safe⟩ :
      ∃ extraFiles, extraFiles ≤ (usage.map (·.uploadedFiles)).getD 0 ∧
        (usage.map (·.fileOverageCents)).getD 0 = 50 * extraFiles ∧
        isSafeInteger ((usage.map (·.uploadedFiles)).getD 0 : Nat) ∧
        isSafeInteger ((usage.map (·.fileOverageCents)).getD 0 : Nat) := by
    cases usage with
    | none => exact ⟨0, Nat.le_refl _, rfl, rfl, rfl⟩
    | some row =>
        obtain ⟨⟨extraFiles, few, cents⟩, uploads_safe, cents_safe⟩ := sound row rfl
        exact ⟨extraFiles, few, cents, uploads_safe, cents_safe⟩
  have prices : isSafeInteger (planCatalog subscription.planCode).basePriceCents ∧
      isSafeInteger (planCatalog subscription.planCode).employeePriceCents := by
    cases subscription.planCode <;> decide
  refine bind_ne_error orFail_valid fun period _ => bind_ne_error (require_valid counted) fun _ _ => ?_
  refine bind_ne_error (require_valid uploads_safe) fun _ _ => bind_ne_error (require_valid cents_safe) fun _ _ => ?_
  refine bind_ne_error (require_valid prices.1) fun _ _ => bind_ne_error (require_valid prices.2) fun _ _ => ?_
  refine bind_ne_error (require_valid rfl) fun _ _ => ?_
  refine bind_ne_error (require_valid ?_) fun _ _ => bind_ne_error (safeNumber_valid _) fun _ _ => ?_
  · rw [cents]
    simp [planCatalog]
  refine bind_ne_error (safeNumber_valid _) fun extra charged => bind_ne_error (require_valid ?_) fun _ _ => ?_
  · rw [safeNumber_ok charged, cents]
    simpa [planCatalog] using few
  exact bind_ne_error (safeNumber_valid _) fun _ _ accepted => by cases accepted

end DataVault.Subscriptions
