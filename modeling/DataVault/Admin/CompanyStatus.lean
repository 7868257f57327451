/-
Module: DataVault.Admin.CompanyStatus
Layer: Model
Purpose: `changeCompanyStatus` of admin/admin.service.ts over the companies and the audit records of their status. The
  read of its transaction may be older than its writes, which become visible together, so that nothing here rests on
  the isolation of the read.
Imports: DataVault.Admin.AccessRequests, DataVault.Companies.Entity
Trusted boundary: human-reviewed spec
Main exports: StatusWorld, StatusAct, changeCompanyStatus, statusMachine
-/
import DataVault.Admin.AccessRequests
import DataVault.Companies.Entity

namespace DataVault.Admin

open DataVault.Auth (AuthFailure Fate)
open DataVault.Companies DataVault.Control DataVault.Interleaving

inductive CompanyPlatformReason where
  | securityReview
  | policyReview
  | operationalHold
  | reviewCompleted
deriving DecidableEq, Repr

/-- The status of a company with who set it, why and when. A company from before there was a status has none. -/
structure CompanyStanding where
  platformStatus : Option CompanyPlatformStatus := some .active
  platformStatusReason : Option CompanyPlatformReason := none
  platformStatusChangedAt : Option Int := none
  platformStatusChangedBy : Option Nat := none
deriving DecidableEq, Repr

/-- `company.platformStatus ?? CompanyPlatformStatus.ACTIVE` -/
def CompanyStanding.status (company : CompanyStanding) : CompanyPlatformStatus := company.platformStatus.getD .active

/-- The two actions of `AdminAuditAction` on a company. -/
inductive StatusAction where
  | companySuspended
  | companyReactivated
deriving DecidableEq, Repr

/-- The action that a change to a status is recorded as. -/
def statusAction : CompanyPlatformStatus → StatusAction
  | .suspended => .companySuspended
  | .active => .companyReactivated

/-- The audit record of a change. -/
structure StatusAudit where
  action : StatusAction
  actorId : Nat
  targetId : Nat
  targetType : AuditTarget := .company
  reason : CompanyPlatformReason
  previousStatus : CompanyPlatformStatus
  nextStatus : CompanyPlatformStatus
deriving DecidableEq, Repr

/-- The companies by id, and the audit records in the order of their commits. -/
structure StatusWorld where
  clock : Int
  companies : Nat → Option CompanyStanding
  audits : List StatusAudit

/-- What the update of a change asks of the stored status. -/
def CompanyStanding.changeable (company : CompanyStanding) (nextStatus : CompanyPlatformStatus) : Bool :=
  match nextStatus with
  | .suspended => company.platformStatus != some .suspended
  | .active => company.platformStatus == some .suspended

/-- The writes of the transaction: the conditional update and the audit record. -/
def StatusWorld.writeStatus (w : StatusWorld) (actorId id : Nat) (previousStatus nextStatus : CompanyPlatformStatus)
    (reason : CompanyPlatformReason) (now : Int) : Except AuthFailure StatusWorld :=
  match (w.companies id).filter (·.changeable nextStatus) with
  | none => .error (.conflict "Company platform status changed concurrently")
  | some _ =>
      let company : CompanyStanding :=
        { platformStatus := some nextStatus
          platformStatusReason := some reason
          platformStatusChangedAt := some now
          platformStatusChangedBy := some actorId }
      .ok { w with
        companies := Function.update w.companies id (some company)
        audits := w.audits ++
          [{ action := statusAction nextStatus
             actorId := actorId
             targetId := id
             reason := reason
             previousStatus := previousStatus
             nextStatus := nextStatus }] }

inductive StatusAct where
  | findCompany (id : Nat)
  | writeStatus (actorId id : Nat) (previousStatus nextStatus : CompanyPlatformStatus) (reason : CompanyPlatformReason)
deriving DecidableEq

/-- What each action answers. -/
abbrev StatusAct.Res : StatusAct → Type
  | .findCompany _ => Except AuthFailure (Option CompanyStanding)
  | .writeStatus .. => Except AuthFailure Unit

/-- What the environment decides: the fate of the read or of the commit, and how long ago the `new Date()` of the update
was taken. -/
structure StatusChoice where
  fate : Fate := .delivered
  stale : Nat := 0

/-- The effect of each action. A call throws where its transaction does not commit, and where the driver has given up
asking whether it has: the commit may have taken effect then. -/
def statusExec (_run : Nat) (choice : StatusChoice) : (act : StatusAct) → StatusWorld → Option (act.Res × StatusWorld)
  | .findCompany id, w => some (if choice.fate = .delivered then .ok (w.companies id) else .error .database, w)
  | .writeStatus actorId id previousStatus nextStatus reason, w =>
      some (match w.writeStatus actorId id previousStatus nextStatus reason (w.clock - choice.stale) with
        | .error failure => (.error failure, w)
        | .ok w' =>
            match choice.fate with
            | .delivered => (.ok (), w')
            | .lostAfter => (.error .database, w')
            | .lostBefore => (.error .database, w))

/-- What happens beside these calls: time passes, and companies are registered. -/
inductive StatusDrift where
  | tick (elapsed : Nat)
  | register (id : Nat)

def statusDrift : StatusDrift → StatusWorld → Option StatusWorld
  | .tick elapsed, w => some { w with clock := w.clock + elapsed }
  | .register id, w =>
      match w.companies id with
      | some _ => none
      | none => some { w with companies := Function.update w.companies id (some {}) }

/-- Awaits one action. -/
def askStatus (act : StatusAct) : ExceptT AuthFailure (Process StatusAct StatusAct.Res) act.Res :=
  liftM (Process.call act)

/-- `changeCompanyStatus`; what it returns. -/
def changeCompanyStatus (actorId id : Nat) (nextStatus : CompanyPlatformStatus) (reason : CompanyPlatformReason) :
    ExceptT AuthFailure (Process StatusAct StatusAct.Res) (Nat × CompanyPlatformStatus) := do
  let found ← liftExcept (← askStatus (.findCompany id))
  let company ← liftExcept (orFail found (AuthFailure.notFound "Company not found"))
  let previousStatus := company.status
  liftExcept (require (previousStatus != nextStatus)
    (AuthFailure.conflict "Company already has the requested platform status"))
  liftExcept (← askStatus (.writeStatus actorId id previousStatus nextStatus reason))
  pure (id, nextStatus)

/-- A call. -/
structure StatusJob where
  actorId : Nat
  id : Nat
  nextStatus : CompanyPlatformStatus
  reason : CompanyPlatformReason

/-- Any number of calls, by any administrators, on any companies. -/
def statusMachine : Machine StatusAct StatusAct.Res StatusWorld StatusChoice StatusDrift StatusJob
    (Except AuthFailure (Nat × CompanyPlatformStatus)) where
  handler job := (changeCompanyStatus job.actorId job.id job.nextStatus job.reason).run
  exec := statusExec
  drift := statusDrift

end DataVault.Admin
