/-
Module: DataVault.Companies.Entity
Layer: Model
Purpose: What the services read of a company (companies/entities/company.entity.ts,
  companies/platform-status.ts).
Imports: Mathlib.Tactic.Common
Trusted boundary: human-reviewed spec
Main exports: CompanyPlatformStatus, Company
-/
import Mathlib.Tactic.Common

namespace DataVault.Companies

inductive CompanyPlatformStatus where
  | active
  | suspended
deriving DecidableEq, Repr

structure Company where
  name : String
  activatedAt : Option Int
  platformStatus : CompanyPlatformStatus := .active
deriving DecidableEq, Repr

end DataVault.Companies
