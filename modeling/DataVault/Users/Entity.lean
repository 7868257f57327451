/-
Module: DataVault.Users.Entity
Layer: Model
Purpose: Users and the authenticated caller of a request (users/entities/user.entity.ts,
  common/types/authenticated-user.ts, enums/roles.enum.ts).
Imports: Mathlib.Tactic.Common
Trusted boundary: human-reviewed spec
Main exports: Role, AuthenticatedUser, User
-/
import Mathlib.Tactic.Common

namespace DataVault.Users

inductive Role where
  | companyOwner
  | companyMember
deriving DecidableEq, Repr

structure AuthenticatedUser where
  id : Nat
  companyId : Nat
  role : Role
deriving DecidableEq, Repr

structure User where
  id : Nat
  email : String
  companyId : Nat
  role : Role := .companyMember
deriving DecidableEq, Repr

end DataVault.Users
