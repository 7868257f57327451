/-
Module: DataVault.Plans.Catalog
Layer: Model
Purpose: The plan catalogue of plans/plan.constants.ts and `findOne` of plans/plans.service.ts, with the two
  limits every plan sets: on stored files, where extra files cannot be bought, and on employees.
Imports: Mathlib.Tactic.Common
Trusted boundary: human-reviewed spec
Main exports: PlanCode, PlanDefinition, planCatalog, PlanCode.fitsFiles, PlanCode.fitsEmployees
-/
import Mathlib.Tactic.Common

namespace DataVault.Plans

inductive PlanCode where
  | free
  | basic
  | premium
deriving DecidableEq, Repr

inductive BillingCurrency where
  | usd
deriving DecidableEq, Repr

inductive BillingInterval where
  | month
deriving DecidableEq, Repr

/-- `null` limits and prices are `none`. -/
structure PlanDefinition where
  code : PlanCode
  name : String
  includedFilesPerMonth : Nat
  maxEmployees : Option Nat
  basePriceCents : Nat
  employeePriceCents : Nat
  extraFilePriceCents : Option Nat
  currency : BillingCurrency
  interval : BillingInterval
deriving DecidableEq, Repr

/-- `PLAN_CATALOG`, read by `PlansService.findOne`. The service's `Unknown plan` error needs a code outside
the enumeration. -/
def planCatalog : PlanCode → PlanDefinition
  | .free =>
      { code := .free
        name := "Free"
        includedFilesPerMonth := 10
        maxEmployees := some 0
        basePriceCents := 0
        employeePriceCents := 0
        extraFilePriceCents := none
        currency := .usd
        interval := .month }
  | .basic =>
      { code := .basic
        name := "Basic"
        includedFilesPerMonth := 100
        maxEmployees := some 10
        basePriceCents := 0
        employeePriceCents := 500
        extraFilePriceCents := none
        currency := .usd
        interval := .month }
  | .premium =>
      { code := .premium
        name := "Premium"
        includedFilesPerMonth := 1000
        maxEmployees := none
        basePriceCents := 30000
        employeePriceCents := 0
        extraFilePriceCents := some 50
        currency := .usd
        interval := .month }

/-- The catalogue is keyed by the code of each definition. -/
@[simp] theorem planCatalog_code (code : PlanCode) : (planCatalog code).code = code := by
  cases code <;> rfl

namespace PlanCode

/-- A number of stored files the plan allows: at most the included ones unless extra files are sold. -/
def fitsFiles (code : PlanCode) (files : Nat) : Prop :=
  (planCatalog code).extraFilePriceCents = none → files ≤ (planCatalog code).includedFilesPerMonth

instance (code : PlanCode) (files : Nat) : Decidable (code.fitsFiles files) :=
  inferInstanceAs (Decidable (_ → _))

/-- A number of employees and pending invitations the plan allows. -/
def fitsEmployees (code : PlanCode) (employees : Nat) : Prop :=
  ∀ limit, (planCatalog code).maxEmployees = some limit → employees ≤ limit

instance (code : PlanCode) (employees : Nat) : Decidable (code.fitsEmployees employees) :=
  match found : (planCatalog code).maxEmployees with
  | none => .isTrue fun limit some_limit => by rw [found] at some_limit; cases some_limit
  | some limit =>
      if fits : employees ≤ limit then
        .isTrue fun _ some_limit => by rw [found] at some_limit; cases some_limit; exact fits
      else
        .isFalse fun all => fits (all limit found)

theorem fitsFiles_mono {code : PlanCode} {few many : Nat} (le : few ≤ many)
    (fits : code.fitsFiles many) : code.fitsFiles few :=
  fun capped => Nat.le_trans le (fits capped)

theorem fitsEmployees_mono {code : PlanCode} {few many : Nat} (le : few ≤ many)
    (fits : code.fitsEmployees many) : code.fitsEmployees few :=
  fun limit capped => Nat.le_trans le (fits limit capped)

end PlanCode

end DataVault.Plans
