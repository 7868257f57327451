/-
Module: DataVault.Subscriptions.DowngradeCleanup
Layer: Model
Purpose: `preview` and `cleanup` of subscriptions/downgrade-cleanup.service.ts. Whatever else happens to the database
  between two awaits is up to the environment, and so is the plan change at the end. The transaction is one action.
Imports: DataVault.Auth.Entities, DataVault.Files.Entity, DataVault.Invitations.Service
Trusted boundary: human-reviewed spec
Main exports: CleanupDb, PreviewLists, CleanupWorld, cleanupMachine
-/
import DataVault.Auth.Entities
import DataVault.Files.Entity
import DataVault.Invitations.Service

namespace DataVault.Subscriptions

open DataVault.Control DataVault.Files DataVault.Guard DataVault.Interleaving DataVault.Invitations DataVault.Payments
open DataVault.Plans DataVault.Store DataVault.Users

/-! ### Documents -/

/-- A document with the time of its creation. -/
structure Dated (α : Type) where
  document : α
  createdAt : Int
deriving DecidableEq, Repr

def Dated.userStamp (user : Dated User) : Stamp := ⟨user.createdAt, user.document.id⟩

def Dated.invitationStamp (invitation : Dated EmployeeInvitation) : Stamp :=
  ⟨invitation.createdAt, invitation.document.id⟩

/-- The collections that a cleanup reads or writes; subscriptions by the company they uniquely belong to. No two
documents of a collection have the same `_id`. -/
structure CleanupDb where
  subscriptions : Nat → Option Subscription := fun _ => none
  files : List Files.StoredFile := []
  users : List (Dated User) := []
  invitations : List (Dated EmployeeInvitation) := []
  distinctFiles : (files.map (·.id)).Nodup := by simp
  distinctUsers : (users.map (·.document.id)).Nodup := by simp
  distinctInvitations : (invitations.map (·.document.id)).Nodup := by simp

/-- Exceptions: those of the other services, the conflicts with a code of their own and
`cleanup_incomplete`. -/
inductive CleanupFailure where
  | other (failure : Failure)
  | previewChanged (message : String)
  | paymentSetup
  | incomplete
deriving DecidableEq, Repr

/-- `error instanceof ConflictException`. -/
def CleanupFailure.isConflict : CleanupFailure → Bool
  | .other failure => failure.isConflict
  | .previewChanged _ | .paymentSetup => true
  | .incomplete => false

/-! ### Snapshots -/

/-- A member of the company that is not its owner. -/
def Dated.isMember (companyId : Nat) (user : Dated User) : Bool :=
  user.document.companyId = companyId && user.document.role = .companyMember

/-- A pending invitation of the company that expires after `instant`. -/
def Dated.isLive (companyId : Nat) (instant : Int) (invitation : Dated EmployeeInvitation) : Bool :=
  invitation.document.companyId = companyId && invitation.document.status = .pending &&
    invitation.document.expiresAt > instant

/-- The update of a revocation. -/
def Dated.revoke (revokedAt : Int) (invitation : Dated EmployeeInvitation) : Dated EmployeeInvitation :=
  { invitation with
    document := { invitation.document with status := .revoked, revokedAt := some revokedAt, tokenHash := none } }

theorem Dated.revoke_id (revokedAt : Int) (invitation : Dated EmployeeInvitation) :
    (invitation.revoke revokedAt).document.id = invitation.document.id := rfl

namespace CleanupDb

variable (db : CleanupDb) (companyId : Nat)

def filesOf : List Files.StoredFile :=
  newerFirst Files.StoredFile.stamp (db.files.filter fun file => file.companyId = companyId)

def employeesOf : List (Dated User) := olderFirst Dated.userStamp (db.users.filter (·.isMember companyId))

def invitationsOf (instant : Int) : List (Dated EmployeeInvitation) :=
  olderFirst Dated.invitationStamp (db.invitations.filter (·.isLive companyId instant))

end CleanupDb

/-- What `previewToken` is the hash of: ids in the order of the queries. -/
structure PreviewLists where
  companyId : Nat
  code : PlanCode
  currentPlan : PlanCode
  files : List Nat
  employees : List Nat
  invitations : List Nat
deriving DecidableEq, Repr

namespace PreviewLists

variable (lists : PreviewLists)

def plan : PlanDefinition := planCatalog lists.code

def keepEmployees : Nat :=
  match lists.plan.maxEmployees with
  | none => lists.employees.length
  | some maxEmployees => min maxEmployees lists.employees.length

def keepInvitations : Nat :=
  match lists.plan.maxEmployees with
  | none => lists.invitations.length
  | some maxEmployees => maxEmployees - lists.keepEmployees

/-- The ids of the files in excess. -/
def fileIds : List Nat := lists.files.drop lists.plan.includedFilesPerMonth

/-- The ids of the employees in excess. -/
def employeeIds : List Nat := lists.employees.drop lists.keepEmployees

/-- The ids of the invitations in excess. -/
def invitationIds : List Nat := lists.invitations.drop lists.keepInvitations

end PreviewLists

structure CleanupPreview where
  planCode : PlanCode
  previewToken : Nat
  fileLimit : Nat
  storedFiles : Nat
  filesToRemove : Nat
  filesToKeep : Nat
  employeeLimit : Option Nat
  employees : Nat
  employeesToRemove : Nat
  pendingInvitations : Nat
  invitationsToRevoke : Nat
deriving DecidableEq, Repr

/-- Whether payments are enabled, and the hash of the JSON of the lists. -/
structure CleanupConfig where
  paymentsEnabled : Bool
  digest : PreviewLists → Nat

def PreviewLists.preview (config : CleanupConfig) (lists : PreviewLists) : CleanupPreview where
  planCode := lists.code
  previewToken := config.digest lists
  fileLimit := lists.plan.includedFilesPerMonth
  storedFiles := lists.files.length
  filesToRemove := lists.fileIds.length
  filesToKeep := min lists.files.length lists.plan.includedFilesPerMonth
  employeeLimit := lists.plan.maxEmployees
  employees := lists.employees.length
  employeesToRemove := lists.employeeIds.length
  pendingInvitations := lists.invitations.length
  invitationsToRevoke := lists.invitationIds.length

/-- `rank`. -/
def rank : PlanCode → Nat
  | .free => 0
  | .basic => 1
  | .premium => 2

/-- What `snapshot` checks of the subscription. -/
def checkLowerPlan (config : CleanupConfig) (code : PlanCode) (subscription : Subscription) :
    Except CleanupFailure Unit := do
  require (!(subscription.stripeManaged && !config.paymentsEnabled))
    (.other (.forbidden "Enable billing before cleaning up a Stripe-managed plan"))
  require (rank code < rank subscription.planCode)
    (.other (.conflict "Cleanup is available only for a lower plan"))

/-- What `snapshot` makes of its reads. -/
def listsOf (companyId : Nat) (code : PlanCode) (subscription : Subscription) (files : List Files.StoredFile)
    (employees : List (Dated User)) (invitations : List (Dated EmployeeInvitation)) : PreviewLists where
  companyId := companyId
  code := code
  currentPlan := subscription.planCode
  files := files.map (·.id)
  employees := employees.map (·.document.id)
  invitations := invitations.map (·.document.id)

namespace CleanupDb

variable (db : CleanupDb)

/-- `acquireLock`. -/
def acquireLock (companyId : Nat) : Except CleanupFailure CleanupDb := do
  let subscription ← orFail (db.subscriptions companyId) (.other (.notFound "Company subscription not found"))
  pure { db with
    subscriptions := Function.update db.subscriptions companyId
      (some { subscription with revision := subscription.revision + 1 }) }

/-- `snapshot` in a transaction. -/
def snapshot (config : CleanupConfig) (actor : AuthenticatedUser) (code : PlanCode) (instant : Int) :
    Except CleanupFailure PreviewLists := do
  require (actor.role = .companyOwner) (.other (.forbidden "Company owner access is required"))
  let subscription ← orFail (db.subscriptions actor.companyId)
    (.other (.notFound "Company subscription not found"))
  checkLowerPlan config code subscription
  pure (listsOf actor.companyId code subscription (db.filesOf actor.companyId) (db.employeesOf actor.companyId)
    (db.invitationsOf actor.companyId instant))

/-- The two writes of the transaction. -/
def removeMembership (companyId : Nat) (employeeIds invitationIds : List Nat) (revokedAt : Int) : CleanupDb :=
  { db with
    users := deleteMany (fun user => user.isMember companyId && employeeIds.contains user.document.id) db.users
    invitations := updateMany
      (fun invitation => invitation.document.companyId = companyId && invitation.document.status = .pending &&
        invitationIds.contains invitation.document.id)
      (·.revoke revokedAt) db.invitations
    distinctUsers := db.distinctUsers.sublist (List.filter_sublist.map _)
    distinctInvitations := by
      rw [updateMany_map (Dated.revoke_id revokedAt)]
      exact db.distinctInvitations }

/-- The callback of the transaction, with the times of its `new Date()`s. -/
def cleanupMembership (config : CleanupConfig) (actor : AuthenticatedUser) (code : PlanCode)
    (employeeIds invitationIds : List Nat) (instant revokedAt : Int) : Except CleanupFailure (Unit × CleanupDb) := do
  let locked ← db.acquireLock actor.companyId
  let current ← locked.snapshot config actor code instant
  require (current.employeeIds = employeeIds && current.invitationIds = invitationIds)
    (.previewChanged "Workspace membership changed; review cleanup again")
  pure ((), locked.removeMembership actor.companyId employeeIds invitationIds revokedAt)

end CleanupDb

/-! ### Actions -/

/-- The database, the object storage and the time. -/
structure CleanupWorld where
  clock : Int
  db : CleanupDb := {}
  objects : List StorageKey := []

inductive CleanupAct where
  | getSubscription (companyId : Nat)
  | findFiles (companyId : Nat)
  | findEmployees (companyId : Nat)
  | findInvitations (companyId : Nat)
  | findFile (companyId fileId : Nat)
  | deleteObject (file : Files.StoredFile)
  | deleteFile (companyId : Nat) (file : Files.StoredFile)
  | cleanupMembership (actor : AuthenticatedUser) (code : PlanCode) (employeeIds invitationIds : List Nat)
  | changePlan (actor : AuthenticatedUser) (code : PlanCode)
deriving DecidableEq

/-- What each action answers. -/
abbrev CleanupAct.Res : CleanupAct → Type
  | .getSubscription _ => Except CleanupFailure (Option Subscription)
  | .findFiles _ => Except CleanupFailure (List Files.StoredFile)
  | .findEmployees _ => Except CleanupFailure (List (Dated User))
  | .findInvitations _ => Except CleanupFailure (List (Dated EmployeeInvitation))
  | .findFile .. => Except CleanupFailure (Option Files.StoredFile)
  | .deleteObject _ | .deleteFile .. | .cleanupMembership .. | .changePlan .. => Except CleanupFailure Unit

/-- What the environment decides at an action: its fate, how long ago its `new Date()`s were taken, and what the plan
change answers and makes of the subscription. -/
structure CleanupChoice where
  fate : Auth.Fate := .delivered
  stale : Nat := 0
  recent : Nat := 0
  changed : Except CleanupFailure Unit := .ok ()
  subscription : Option Subscription := none

/-- A query that changes nothing. -/
def CleanupChoice.query {α : Type} (choice : CleanupChoice) (answer : α) : Except CleanupFailure α :=
  if choice.fate = .delivered then .ok answer else .error (.other .database)

/-- A write or a transaction: all of it or nothing; its answer may be lost. -/
def CleanupChoice.transact {World : Type} (choice : CleanupChoice) (w : World)
    (work : Except CleanupFailure (Unit × World)) : Except CleanupFailure Unit × World :=
  match work with
  | .error failure => (.error failure, w)
  | .ok (_, w') =>
      match choice.fate with
      | .delivered => (.ok (), w')
      | .lostAfter => (.error (.other .database), w')
      | .lostBefore => (.error (.other .database), w)

/-- `findOneAndDelete({ _id, companyId, storageKey })`. -/
def CleanupDb.deleteFile (db : CleanupDb) (companyId : Nat) (file : Files.StoredFile) : CleanupDb :=
  match found : findOneAndDelete
      (fun other : Files.StoredFile =>
        other.id = file.id && other.companyId = companyId && other.storageKey = file.storageKey) db.files with
  | none => db
  | some (_, files) =>
      { db with
        files := files
        distinctFiles := db.distinctFiles.sublist ((findOneAndDelete_sublist found).map _) }

/-- The effect of each action. -/
def cleanupExec (config : CleanupConfig) (_run : Nat) (choice : CleanupChoice) :
    (act : CleanupAct) → CleanupWorld → Option (act.Res × CleanupWorld)
  | .getSubscription companyId, w => some (choice.query (w.db.subscriptions companyId), w)
  | .findFiles companyId, w => some (choice.query (w.db.filesOf companyId), w)
  | .findEmployees companyId, w => some (choice.query (w.db.employeesOf companyId), w)
  | .findInvitations companyId, w =>
      some (choice.query (w.db.invitationsOf companyId (w.clock - choice.stale)), w)
  | .findFile companyId fileId, w =>
      some (choice.query (w.db.files.find? fun file => file.id = fileId && file.companyId = companyId), w)
  | .deleteObject file, w =>
      some (choice.transact w (.ok ((), { w with objects := w.objects.filter fun key => key ≠ file.storageKey })))
  | .deleteFile companyId file, w =>
      some (choice.transact w (.ok ((), { w with db := w.db.deleteFile companyId file })))
  | .cleanupMembership actor code employeeIds invitationIds, w =>
      let (answer, db) := choice.transact w.db (w.db.cleanupMembership config actor code employeeIds invitationIds
        (w.clock - choice.stale) (w.clock - choice.recent))
      some (answer, { w with db := db })
  | .changePlan actor _, w =>
      some (choice.changed,
        { w with
          db := { w.db with
            subscriptions := Function.update w.db.subscriptions actor.companyId choice.subscription } })

/-! ### Requests -/

abbrev CleanupHandler (α : Type) := ExceptT CleanupFailure (Process CleanupAct CleanupAct.Res) α

namespace CleanupAct

/-- Awaits one action. -/
def ask (act : CleanupAct) : CleanupHandler act.Res := liftM (Process.call act)

end CleanupAct

/-- A failure ends the part of the request that it is in. -/
def checkCleanup {α : Type} (outcome : Except CleanupFailure α) : CleanupHandler α := liftExcept outcome

/-- `getSubscription`. -/
def getSubscription (companyId : Nat) : CleanupHandler Subscription := do
  let found ← checkCleanup (← CleanupAct.ask (.getSubscription companyId))
  checkCleanup (orFail found (.other (.notFound "Company subscription not found")))

/-- `snapshot` outside of a transaction. -/
def snapshot (config : CleanupConfig) (actor : AuthenticatedUser) (code : PlanCode) : CleanupHandler PreviewLists := do
  checkCleanup (require (actor.role = .companyOwner) (.other (.forbidden "Company owner access is required")))
  let subscription ← getSubscription actor.companyId
  checkCleanup (checkLowerPlan config code subscription)
  let files ← checkCleanup (← CleanupAct.ask (.findFiles actor.companyId))
  let employees ← checkCleanup (← CleanupAct.ask (.findEmployees actor.companyId))
  let invitations ← checkCleanup (← CleanupAct.ask (.findInvitations actor.companyId))
  pure (listsOf actor.companyId code subscription files employees invitations)

/-- The loop over the files. -/
def removeFiles (companyId : Nat) : List Nat → CleanupHandler Unit
  | [] => pure ()
  | id :: ids => do
      match ← checkCleanup (← CleanupAct.ask (.findFile companyId id)) with
      | none => removeFiles companyId ids
      | some file =>
          checkCleanup (← CleanupAct.ask (.deleteObject file))
          checkCleanup (← CleanupAct.ask (.deleteFile companyId file))
          removeFiles companyId ids

inductive CleanupReply where
  | preview (preview : CleanupPreview)
  | planChanged
deriving DecidableEq, Repr

/-- `preview`. -/
def preview (config : CleanupConfig) (actor : AuthenticatedUser) (code : PlanCode) : CleanupHandler CleanupReply := do
  let lists ← snapshot config actor code
  pure (.preview (lists.preview config))

/-- What the `catch` block of `cleanup` makes of a failure. -/
def asIncomplete (failure : CleanupFailure) : CleanupFailure :=
  if failure.isConflict then failure else .incomplete

/-- `cleanup`. -/
def cleanup (config : CleanupConfig) (actor : AuthenticatedUser) (code : PlanCode) (token : Nat) :
    CleanupHandler CleanupReply := do
  let lists ← snapshot config actor code
  checkCleanup (require ((lists.preview config).previewToken = token)
    (.previewChanged "Workspace changed; review a fresh cleanup preview"))
  let subscription ← getSubscription actor.companyId
  checkCleanup (require
    (!(config.paymentsEnabled && code != .free &&
      (subscription.stripeSubscriptionId.isNone || isTerminalStripeStatus subscription.stripeStatus)))
    .paymentSetup)
  Process.recover (do
      removeFiles actor.companyId lists.fileIds.reverse
      checkCleanup (← CleanupAct.ask (.cleanupMembership actor code lists.employeeIds lists.invitationIds)))
    fun failure => throw (asIncomplete failure)
  checkCleanup (← CleanupAct.ask (.changePlan actor code))
  pure .planChanged

inductive CleanupJob where
  | preview (actor : AuthenticatedUser) (code : PlanCode)
  | cleanup (actor : AuthenticatedUser) (code : PlanCode) (token : Nat)

/-- The handler of each request. -/
def CleanupJob.handler (config : CleanupConfig) : CleanupJob → CleanupHandler CleanupReply
  | .preview actor code => Subscriptions.preview config actor code
  | .cleanup actor code token => Subscriptions.cleanup config actor code token

/-- Previews and cleanups over a database and a storage, of which other requests make what they will in any step:
uploads, deletions, acceptances, revocations and whatever else. Time passes. -/
def cleanupMachine (config : CleanupConfig) :
    Machine CleanupAct CleanupAct.Res CleanupWorld CleanupChoice (Nat × CleanupDb × List StorageKey) CleanupJob
      (Except CleanupFailure CleanupReply) where
  handler job := (job.handler config).run
  exec := cleanupExec config
  drift change w := some { clock := w.clock + change.1, db := change.2.1, objects := change.2.2 }

end DataVault.Subscriptions
