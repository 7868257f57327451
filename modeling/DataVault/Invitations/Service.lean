/-
Module: DataVault.Invitations.Service
Layer: Model
Purpose: Invitations and the other operations on employee seats with payments disabled: `invite`, `resend`,
  `accept` and `revoke` of invitations/invitations.service.ts, `deleteUser` of users/users.service.ts and
  `changePlan` of subscriptions/subscriptions.service.ts. A database transaction is one action; the request
  captures its own `now` in an earlier action and any number of other requests may run in between.
Imports: DataVault.Companies.Entity, DataVault.Interleaving.Process, DataVault.Store.Collection,
  DataVault.Subscriptions.Capacity, DataVault.Users.Entity
Trusted boundary: human-reviewed spec
Main exports: EmployeeInvitation, Database, SeatWorld, SeatAct, SeatJob, seatMachine
-/
import DataVault.Companies.Entity
import DataVault.Interleaving.Process
import DataVault.Store.Collection
import DataVault.Subscriptions.Capacity
import DataVault.Users.Entity

namespace DataVault.Invitations

open DataVault.Companies DataVault.Control DataVault.Interleaving DataVault.Payments DataVault.Plans DataVault.Store
open DataVault.Subscriptions DataVault.Users

/-- `INVITATION_TOKEN_TTL_MS`. -/
def invitationTokenTtlMs : Int := 72 * 60 * 60 * 1000

/-- `INVITATION_RESEND_COOLDOWN_MS`. -/
def invitationResendCooldownMs : Int := 60 * 1000

inductive InvitationStatus where
  | pending
  | accepted
  | revoked
  | expired
deriving DecidableEq, Repr

structure EmployeeInvitation where
  id : Nat
  companyId : Nat
  invitedBy : Nat
  email : String
  status : InvitationStatus := .pending
  tokenHash : Option Nat
  expiresAt : Int
  lastSentAt : Int
  acceptedAt : Option Int := none
  revokedAt : Option Int := none
deriving DecidableEq, Repr

/-- `publicInvitation`. -/
structure PublicInvitation where
  id : Nat
  email : String
  status : InvitationStatus
  expiresAt : Int
  lastSentAt : Int
deriving DecidableEq, Repr

def publicInvitation (invitation : EmployeeInvitation) : PublicInvitation where
  id := invitation.id
  email := invitation.email
  status := invitation.status
  expiresAt := invitation.expiresAt
  lastSentAt := invitation.lastSentAt

/-- The collections the operations use. Companies are keyed by id, subscriptions by the company they
uniquely belong to; of the files only their number per company is read. -/
structure Database where
  users : List User
  invitations : List EmployeeInvitation
  companies : Nat → Option Company
  subscriptions : Nat → Option Subscription
  storedFiles : Nat → Nat
  nextId : Nat

namespace Database

variable (db : Database)

/-- `userModel.countDocuments({ companyId, role: COMPANY_MEMBER })`. -/
def countEmployees (companyId : Nat) : Nat :=
  countDocuments db.users fun user => user.companyId = companyId && user.role = .companyMember

/-- `invitationModel.countDocuments({ companyId, status: PENDING, expiresAt: { $gt: instant } })`. -/
def countPending (companyId : Nat) (instant : Int) : Nat :=
  countDocuments db.invitations fun invitation =>
    invitation.companyId = companyId && invitation.status = .pending && invitation.expiresAt > instant

/-- Stores the subscription of a company. -/
def saveSubscription (companyId : Nat) (subscription : Subscription) : Database :=
  { db with subscriptions := Function.update db.subscriptions companyId (some subscription) }

/-- `acquireLock`. -/
def acquireLock (companyId : Nat) : Except Failure (Subscription × Database) :=
  match db.subscriptions companyId with
  | none => .error (.notFound "Company subscription not found")
  | some subscription =>
      let locked := { subscription with revision := subscription.revision + 1 }
      .ok (locked, db.saveSubscription companyId locked)

/-- `companyModel.findOne({ _id, activatedAt: { $ne: null } })`. -/
def findActivatedCompany (companyId : Nat) : Option Company :=
  (db.companies companyId).filter fun company => company.activatedAt.isSome

/-- `expireStaleInvitation`. The filter names the address only, not the company. -/
def expireStaleInvitation (email : String) (now : Int) : Database :=
  { db with
    invitations := updateMany
      (fun invitation =>
        invitation.email = email && invitation.status = .pending && invitation.expiresAt ≤ now)
      (fun invitation => { invitation with status := .expired, tokenHash := none }) db.invitations }

/-- The unique index on `tokenHash`. -/
def tokenHashUnique (invitations : List EmployeeInvitation) (tokenHash : Nat) : Bool :=
  countDocuments invitations (fun invitation => invitation.tokenHash = some tokenHash) ≤ 1

/-- The unique index on the `email` of pending invitations. -/
def pendingEmailUnique (invitations : List EmployeeInvitation) (email : String) : Bool :=
  countDocuments invitations
    (fun invitation => invitation.email = email && invitation.status = .pending) ≤ 1

/-- The transaction of `invite`. -/
def invite (actor : AuthenticatedUser) (email : String) (tokenHash : Nat) (now : Int) :
    Except Failure ((EmployeeInvitation × String) × Database) := do
  let (subscription, db) ← db.acquireLock actor.companyId
  assertEmployeeCapacity false subscription (db.countEmployees actor.companyId)
    (db.countPending actor.companyId now) 1 now
  require (!db.users.any fun user => user.email = email) (.conflict "Email is unavailable")
  let db := db.expireStaleInvitation email now
  let company ← orFail (db.findActivatedCompany actor.companyId)
    (.forbidden "An activated company is required")
  require (company.platformStatus != .suspended) (.forbidden "An activated company is required")
  let invitation : EmployeeInvitation :=
    { id := db.nextId
      companyId := actor.companyId
      invitedBy := actor.id
      email := email
      tokenHash := some tokenHash
      expiresAt := now + invitationTokenTtlMs
      lastSentAt := now }
  let invitations := invitation :: db.invitations
  require (pendingEmailUnique invitations email && tokenHashUnique invitations tokenHash) .duplicateKey
  pure ((invitation, company.name), { db with invitations := invitations, nextId := db.nextId + 1 })

/-- What a resend looks for: its own clock decides whether the invitation is still alive. -/
def resendable (actor : AuthenticatedUser) (invitationId : Nat) (now : Int)
    (invitation : EmployeeInvitation) : Bool :=
  invitation.id = invitationId && invitation.companyId = actor.companyId &&
    invitation.status = .pending && invitation.expiresAt > now &&
    invitation.lastSentAt ≤ now - invitationResendCooldownMs

/-- The transaction of `resend`. It takes no lock and counts no seats, and it commits the update even where
it then finds no company to name in the email. -/
def resend (actor : AuthenticatedUser) (invitationId tokenHash : Nat) (now : Int) :
    Except Failure (Option (String × String) × Database) :=
  match findOneAndUpdate (resendable actor invitationId now)
      (fun invitation =>
        { invitation with
          tokenHash := some tokenHash
          expiresAt := now + invitationTokenTtlMs
          lastSentAt := now }) db.invitations with
  | none => .ok (none, db)
  | some (invitation, invitations) =>
      if tokenHashUnique invitations tokenHash then
        .ok ((db.findActivatedCompany actor.companyId).map fun company =>
            (invitation.email, company.name),
          { db with invitations := invitations })
      else .error .duplicateKey

/-- What `accept` looks for. -/
def acceptable (tokenHash : Nat) (now : Int) (invitation : EmployeeInvitation) : Bool :=
  invitation.tokenHash = some tokenHash && invitation.status = .pending && invitation.expiresAt > now

/-- The transaction of `accept`. -/
def accept (tokenHash : Nat) (now : Int) : Except Failure (Unit × Database) := do
  let invitation ← orFail (db.invitations.find? (acceptable tokenHash now))
    (.badRequest "Invitation is invalid or expired")
  let company ← orFail (db.findActivatedCompany invitation.companyId)
    (.badRequest "Invitation is unavailable")
  require (company.platformStatus != .suspended) (.badRequest "Invitation is unavailable")
  let (subscription, db) ← db.acquireLock invitation.companyId
  assertEmployeeCapacity false subscription (db.countEmployees invitation.companyId)
    (db.countPending invitation.companyId now) 0 now
  require (!db.users.any fun user => user.email = invitation.email)
    (.conflict "Unable to accept invitation")
  let (_, invitations) ← orFail
    (findOneAndUpdate
      (fun other => other.id = invitation.id && other.companyId = invitation.companyId &&
        acceptable tokenHash now other)
      (fun other => { other with status := .accepted, acceptedAt := some now, tokenHash := none })
      db.invitations)
    (.badRequest "Invitation is invalid or expired")
  let member : User := { id := db.nextId, email := invitation.email, companyId := invitation.companyId }
  pure ((), { db with invitations := invitations, users := member :: db.users, nextId := db.nextId + 1 })

/-- The update of `revoke`. -/
def revoke (actor : AuthenticatedUser) (invitationId : Nat) (now : Int) :
    Except Failure (Option EmployeeInvitation × Database) :=
  match findOneAndUpdate
      (fun invitation => invitation.id = invitationId && invitation.companyId = actor.companyId &&
        invitation.status = .pending)
      (fun invitation =>
        { invitation with status := .revoked, revokedAt := some now, tokenHash := none })
      db.invitations with
  | none => .ok (none, db)
  | some (invitation, invitations) => .ok (some invitation, { db with invitations := invitations })

/-- `UsersService.findOne`. -/
def findUser (actor : AuthenticatedUser) (targetUserId : Nat) : Except Failure (Option User × Database) :=
  .ok (db.users.find? fun user => user.id = targetUserId && user.companyId = actor.companyId, db)

/-- The deletion of `deleteUser`, which takes no lock while payments are disabled. -/
def deleteUser (actor : AuthenticatedUser) (targetUserId : Nat) : Except Failure (Option User × Database) :=
  match findOneAndDelete
      (fun user => user.id = targetUserId && user.companyId = actor.companyId &&
        user.role = .companyMember) db.users with
  | none => .ok (none, db)
  | some (user, users) => .ok (some user, { db with users := users })

/-- The transaction of `changePlan`. -/
def changePlan (actor : AuthenticatedUser) (planCode : PlanCode) (changedAt : Int) :
    Except Failure (Unit × Database) := do
  let (subscription, db) ← db.acquireLock actor.companyId
  let changed ← Subscriptions.changePlan subscription planCode changedAt
    (db.countEmployees actor.companyId) (db.countPending actor.companyId changedAt)
    (db.storedFiles actor.companyId)
  pure ((), db.saveSubscription actor.companyId changed)

end Database

/-! ### Requests -/

/-- `clock` is the time, `lastNow` the latest `now` that any request has captured. -/
structure SeatWorld where
  clock : Int
  lastNow : Int
  db : Database

inductive SeatAct where
  | now
  | generateToken
  | invite (actor : AuthenticatedUser) (email : String) (tokenHash : Nat) (now : Int)
  | resend (actor : AuthenticatedUser) (invitationId tokenHash : Nat) (now : Int)
  | accept (tokenHash : Nat) (now : Int)
  | revoke (actor : AuthenticatedUser) (invitationId : Nat) (now : Int)
  | findUser (actor : AuthenticatedUser) (targetUserId : Nat)
  | deleteUser (actor : AuthenticatedUser) (targetUserId : Nat)
  | changePlan (actor : AuthenticatedUser) (planCode : PlanCode) (changedAt : Int)
  | sendEmployeeInvitation (email companyName : String) (token : Nat)

/-- What each action answers. -/
abbrev SeatAct.Res : SeatAct → Type
  | .now => Int
  | .generateToken => Nat
  | .invite .. => Except Failure (EmployeeInvitation × String)
  | .resend .. => Except Failure (Option (String × String))
  | .accept .. => Except Failure Unit
  | .revoke .. => Except Failure (Option EmployeeInvitation)
  | .findUser .. => Except Failure (Option User)
  | .deleteUser .. => Except Failure (Option User)
  | .changePlan .. => Except Failure Unit
  | .sendEmployeeInvitation .. => Bool

/-- What the environment decides at an action: the random token, whether an email is delivered, and whether
the database fails before it commits. -/
structure SeatChoice where
  token : Nat := 0
  delivered : Bool := true
  aborted : Bool := false

/-- A transaction: all of its writes, or none of them and an error. -/
def transact {α : Type} (choice : SeatChoice) (w : SeatWorld)
    (work : Except Failure (α × Database)) : Option (Except Failure α × SeatWorld) :=
  if choice.aborted then some (.error .database, w)
  else
    match work with
    | .error failure => some (.error failure, w)
    | .ok (value, db) => some (.ok value, { w with db := db })

def seatExec (_run : Nat) (choice : SeatChoice) : (act : SeatAct) → SeatWorld →
    Option (act.Res × SeatWorld)
  | .now, w => some (w.clock, { w with lastNow := max w.lastNow w.clock })
  | .generateToken, w => some (choice.token, w)
  | .invite actor email tokenHash now, w => transact choice w (w.db.invite actor email tokenHash now)
  | .resend actor invitationId tokenHash now, w =>
      transact choice w (w.db.resend actor invitationId tokenHash now)
  | .accept tokenHash now, w => transact choice w (w.db.accept tokenHash now)
  | .revoke actor invitationId now, w => transact choice w (w.db.revoke actor invitationId now)
  | .findUser actor targetUserId, w => transact choice w (w.db.findUser actor targetUserId)
  | .deleteUser actor targetUserId, w => transact choice w (w.db.deleteUser actor targetUserId)
  | .changePlan actor planCode changedAt, w =>
      transact choice w (w.db.changePlan actor planCode changedAt)
  | .sendEmployeeInvitation .., w => some (choice.delivered, w)

/-- What happens beside the requests: time passes, the expiry index removes an invitation, other services
change a company or its files. -/
inductive SeatDrift where
  | tick (elapsed : Nat)
  | purge (invitationId : Nat)
  | company (companyId : Nat) (company : Option Company)
  | files (companyId stored : Nat)

def seatDrift : SeatDrift → SeatWorld → Option SeatWorld
  | .tick elapsed, w => some { w with clock := w.clock + elapsed }
  | .purge invitationId, w =>
      (findOneAndDelete (fun invitation => invitation.id = invitationId && invitation.expiresAt ≤ w.clock)
        w.db.invitations).map fun found => { w with db := { w.db with invitations := found.2 } }
  | .company companyId company, w =>
      some { w with db := { w.db with companies := Function.update w.db.companies companyId company } }
  | .files companyId stored, w =>
      some { w with db := { w.db with storedFiles := Function.update w.db.storedFiles companyId stored } }

abbrev SeatHandler (α : Type) := ExceptT Failure (Process SeatAct SeatAct.Res) α

/-- Awaits one action. -/
def ask (act : SeatAct) : SeatHandler act.Res := liftM (Process.call act)

def requireOwner (actor : AuthenticatedUser) : Except Failure Unit :=
  require (actor.role = .companyOwner) (.forbidden "Company owner access is required")

/-- The answer of each kind of request. -/
inductive SeatReply where
  | invited (message : String) (invitation : PublicInvitation)
  | message (text : String)
  | deleted (user : User)
  | planChanged

/-- `InvitationsService.invite`. -/
def invite (hashToken : Nat → Nat) (actor : AuthenticatedUser) (email : String) :
    SeatHandler SeatReply := do
  let now ← ask .now
  liftExcept (requireOwner actor)
  let token ← ask .generateToken
  match ← ask (.invite actor email (hashToken token) now) with
  | .error .duplicateKey => throw (.conflict "Email is unavailable")
  | .error failure => throw failure
  | .ok (invitation, companyName) =>
      if ← ask (.sendEmployeeInvitation email companyName token) then
        pure (.invited "Invitation created. The employee has been emailed." (publicInvitation invitation))
      else
        throw (.serviceUnavailable
          "The invitation was created but its email could not be sent. Resend it later.")

/-- `InvitationsService.resend`; a failed delivery is only logged. -/
def resend (hashToken : Nat → Nat) (actor : AuthenticatedUser) (invitationId : Nat) :
    SeatHandler SeatReply := do
  let now ← ask .now
  liftExcept (requireOwner actor)
  let token ← ask .generateToken
  match ← ask (.resend actor invitationId (hashToken token) now) with
  | .error failure => throw failure
  | .ok none => pure resent
  | .ok (some (email, companyName)) =>
      let _ ← ask (.sendEmployeeInvitation email companyName token)
      pure resent
where
  resent : SeatReply :=
    .message "If a pending invitation can be resent, a new invitation email will be sent."

/-- `InvitationsService.accept`. -/
def accept (hashToken : Nat → Nat) (token : Nat) : SeatHandler SeatReply := do
  let now ← ask .now
  match ← ask (.accept (hashToken token) now) with
  | .error .duplicateKey => throw (.conflict "Unable to accept invitation")
  | .error failure => throw failure
  | .ok () => pure (.message "Invitation accepted. You can now sign in.")

/-- `InvitationsService.revoke`. -/
def revoke (actor : AuthenticatedUser) (invitationId : Nat) : SeatHandler SeatReply := do
  let now ← ask .now
  liftExcept (requireOwner actor)
  match ← ask (.revoke actor invitationId now) with
  | .error failure => throw failure
  | .ok none => throw (.notFound "Invitation not found")
  | .ok (some _) => pure (.message "Invitation revoked.")

/-- `UsersService.deleteUser`. -/
def deleteUser (actor : AuthenticatedUser) (targetUserId : Nat) : SeatHandler SeatReply := do
  liftExcept (requireOwner actor)
  match ← ask (.findUser actor targetUserId) with
  | .error failure => throw failure
  | .ok none => throw (.notFound "User not found")
  | .ok (some target) =>
      if target.role = .companyOwner then
        throw (.badRequest "The company owner cannot be deleted")
      else
        match ← ask (.deleteUser actor targetUserId) with
        | .error failure => throw failure
        | .ok none => throw (.notFound "User not found")
        | .ok (some user) => pure (.deleted user)

/-- `SubscriptionsService.changePlan` with payments disabled, up to the summary it reads back at the end. -/
def changePlan (actor : AuthenticatedUser) (planCode : PlanCode) : SeatHandler SeatReply := do
  liftExcept (requireOwner actor)
  let changedAt ← ask .now
  match ← ask (.changePlan actor planCode changedAt) with
  | .error failure => throw failure
  | .ok () => pure .planChanged

inductive SeatJob where
  | invite (actor : AuthenticatedUser) (email : String)
  | resend (actor : AuthenticatedUser) (invitationId : Nat)
  | accept (token : Nat)
  | revoke (actor : AuthenticatedUser) (invitationId : Nat)
  | deleteUser (actor : AuthenticatedUser) (targetUserId : Nat)
  | changePlan (actor : AuthenticatedUser) (planCode : PlanCode)

/-- The handler of each request. -/
def SeatJob.handler (hashToken : Nat → Nat) : SeatJob → SeatHandler SeatReply
  | .invite actor email => Invitations.invite hashToken actor email
  | .resend actor invitationId => Invitations.resend hashToken actor invitationId
  | .accept token => Invitations.accept hashToken token
  | .revoke actor invitationId => Invitations.revoke actor invitationId
  | .deleteUser actor targetUserId => Invitations.deleteUser actor targetUserId
  | .changePlan actor planCode => Invitations.changePlan actor planCode

/-- All requests over one database, with payments disabled; `hashToken` is the digest of a token. -/
def seatMachine (hashToken : Nat → Nat) :
    Machine SeatAct SeatAct.Res SeatWorld SeatChoice SeatDrift SeatJob (Except Failure SeatReply) where
  handler job := (job.handler hashToken).run
  exec := seatExec
  drift := seatDrift

end DataVault.Invitations
