/-
Module: DataVault.Maintenance.DisposableCompany
Layer: Model
Purpose: The maintenance command that deletes an untouched sign-up (maintenance/cleanup-disposable-company.service.ts):
  the check of its options, the inspection of thirteen collections and the deletion, over raw records.
Imports: DataVault.Maintenance.ResetStripeTest
Trusted boundary: human-reviewed spec
Main exports: StoredRecord, CleanupCollections, CleanupRefusalReason, CleanupFailure, CleanupOptions,
  validateCleanupOptions, inspect, deleteCompany, run
-/
import DataVault.Maintenance.ResetStripeTest

namespace DataVault.Maintenance.DisposableCompany

open Control Plans Store

/-- A record under the field names of the database. -/
abbrev StoredRecord := Document String

structure CleanupCollections where
  companies : List StoredRecord
  users : List StoredRecord
  subscriptions : List StoredRecord
  verifications : List StoredRecord
  files : List StoredRecord
  invitations : List StoredRecord
  periods : List StoredRecord
  stripeEvents : List StoredRecord
  stripeUsage : List StoredRecord
  aiConversations : List StoredRecord
  aiMessages : List StoredRecord
  aiUsage : List StoredRecord
  audits : List StoredRecord

/-! ### Options and refusals -/

inductive CleanupRefusalReason where
  | productionEnvironment
  | maintenanceNotConfirmed
  | companyNotFound
  | activated
  | history
  | platformHistory
  | users
  | subscription
  | files
  | invitations
  | periods
  | stripe
  | aiHistory
  | verification
deriving DecidableEq, Repr

/-- The texts of the reasons. -/
def CleanupRefusalReason.text : CleanupRefusalReason → String
  | .productionEnvironment => "development_or_test_required"
  | .maintenanceNotConfirmed => "all_application_processes_must_be_stopped"
  | .companyNotFound => "company_not_found"
  | .activated => "company_is_not_explicitly_unactivated"
  | .history => "signup_records_have_changed_or_unknown_fields"
  | .platformHistory => "platform_status_or_audit_history"
  | .users => "exactly_one_pristine_owner_required"
  | .subscription => "exactly_one_pristine_free_subscription_required"
  | .files => "stored_file_or_uploader_references_exist"
  | .invitations => "invitation_or_inviter_references_exist"
  | .periods => "billing_period_records_exist"
  | .stripe => "stripe_history_or_usage_exists"
  | .aiHistory => "ai_conversation_or_usage_history_exists"
  | .verification => "verification_relationship_is_inconsistent"

/-- `CliFailure`: a refusal has the category `cleanup_refused`, the others the category of their name. -/
inductive CleanupFailure where
  | refusal (reason : CleanupRefusalReason)
  | invalidCleanupArguments
  | cleanupCounts
  | mongoTransaction
deriving DecidableEq, Repr

structure CleanupOptions where
  companyId : String
  environment : Option String
  confirmDisposable : Bool
  confirmApplicationStopped : Bool
deriving DecidableEq, Repr

/-- `validateCleanupOptions`, with the identifier that `run` makes of the company's text. -/
def validateCleanupOptions (options : CleanupOptions) : Except CleanupFailure ObjectId := do
  require (options.environment = some "development" || options.environment = some "test")
    (.refusal .productionEnvironment)
  let companyId ← orFail (ObjectId.ofHex? options.companyId) .invalidCleanupArguments
  require (!(options.confirmDisposable && !options.confirmApplicationStopped)) (.refusal .maintenanceNotConfirmed)
  return companyId

/-! ### Conditions on records -/

def metadata : List String := ["_id", "__v", "createdAt", "updatedAt"]

/-- No field besides the listed ones and the metadata, and no later version of the record. -/
def knownFields (record : StoredRecord) (fields : List String) : Bool :=
  record.keys.all (metadata ++ fields).contains && (record.get "__v").all (· = .integer 0)

/-- Two instants that `getTime` finds equal; an invalid date is equal to none. -/
def sameTime (first second : Option Value) : Bool :=
  isFiniteDate first && isFiniteDate second && getTime first = getTime second

def pristineTimestamps (record : StoredRecord) : Bool := sameTime (record.get "createdAt") (record.get "updatedAt")

/-- The identifier that a field holds, if it is one. -/
def objectIdOf (record : StoredRecord) (field : String) : Option ObjectId :=
  match record.get field with
  | some (.objectId id) => some id
  | _ => none

/-- `sameId` -/
def sameId (record : StoredRecord) (field : String) (expected : ObjectId) : Bool :=
  record.get field = some (.objectId expected)

/-- A field that is absent or holds its initial value. -/
def unsetOr (initial : Value) (found : Option Value) : Bool := found.all (· = initial)

/-! ### Inspection -/

/-- The record of a list of one. -/
def theOnly : List StoredRecord → Option StoredRecord
  | [record] => some record
  | _ => none

/-- `{ field: { $in: [id, stringRef] } }` -/
def refers (field : String) (id : ObjectId) (record : StoredRecord) : Bool := refersTo id (record.get field)

/-- The filter `tenant`. -/
def tenant (companyId : ObjectId) : StoredRecord → Bool := refers "companyId" companyId

/-- `{ $or: [tenant, { field: ownerRefs }] }` -/
def tenantOr (companyId : ObjectId) (field : String) (ownerId : ObjectId) (record : StoredRecord) : Bool :=
  tenant companyId record || refers field ownerId record

/-- The filter on the audits: what targets the company or its owner, and what the owner did. -/
def audited (companyId ownerId : ObjectId) (record : StoredRecord) : Bool :=
  refers "targetId" companyId record || refers "targetId" ownerId record || refers "actorId" ownerId record

/-- The conditions on the company itself. -/
def inspectCompany (db : CleanupCollections) (companyId : ObjectId) : Except CleanupFailure Unit := do
  let company ← orFail (db.companies.find? fun record => sameId record "_id" companyId) (.refusal .companyNotFound)
  require (company.get "activatedAt" = some .null) (.refusal .activated)
  require
    ((company.get "platformStatus").all (· = .string "active") && (company.get "platformStatusReason").isNone &&
      (company.get "platformStatusChangedAt").isNone && (company.get "platformStatusChangedBy").isNone)
    (.refusal .platformHistory)
  require
    (pristineTimestamps company &&
      knownFields company ["name", "country", "industry", "activatedAt", "platformStatus"])
    (.refusal .history)

/-- The only user of the company, without the password. -/
def inspectOwner (db : CleanupCollections) (companyId : ObjectId) : Except CleanupFailure ObjectId := do
  let owner ← orFail (theOnly ((db.users.filter (tenant companyId)).map fun record => record.erase "password"))
    (.refusal .users)
  require
    (owner.get "role" = some companyOwner && sameId owner "companyId" companyId && pristineTimestamps owner &&
      knownFields owner ["companyId", "role", "fullName", "email"])
    (.refusal .users)
  orFail (objectIdOf owner "_id") (.refusal .users)

/-- The only subscription of the company. -/
def inspectSubscription (db : CleanupCollections) (companyId : ObjectId) : Except CleanupFailure ObjectId := do
  let subscription ← orFail (theOnly (db.subscriptions.filter (tenant companyId))) (.refusal .subscription)
  let id ← orFail (objectIdOf subscription "_id") (.refusal .subscription)
  require
    (sameId subscription "companyId" companyId && subscription.get "planCode" = some (storedPlan .free) &&
      subscription.get "revision" = some (.integer 0) && unsetOr (.bool false) (subscription.get "stripeManaged") &&
      unsetOr unmanaged (subscription.get "paymentAccess") &&
      unsetOr (storedIssue .none) (subscription.get "paymentSyncIssue") &&
      unsetOr (.bool false) (subscription.get "stripeCancelAtPeriodEnd") &&
      unsetOr (.bool false) (subscription.get "stripePlanConfirmed") &&
      sameTime (subscription.get "activatedAt") (subscription.get "planChangedAt") && pristineTimestamps subscription &&
      knownFields subscription ["companyId", "planCode", "activatedAt", "planChangedAt", "revision", "stripeManaged",
        "paymentAccess", "paymentSyncIssue", "stripeCancelAtPeriodEnd", "stripePlanConfirmed"])
    (.refusal .subscription)
  return id

/-- Nothing that a working company leaves behind. -/
def inspectHistory (db : CleanupCollections) (companyId ownerId : ObjectId) : Except CleanupFailure Unit := do
  require (countDocuments db.files (tenantOr companyId "uploaderId" ownerId) = 0) (.refusal .files)
  require (countDocuments db.invitations (tenantOr companyId "invitedBy" ownerId) = 0) (.refusal .invitations)
  require (countDocuments db.periods (tenant companyId) = 0) (.refusal .periods)
  require (countDocuments db.stripeEvents (tenant companyId) = 0 && countDocuments db.stripeUsage (tenant companyId) = 0)
    (.refusal .stripe)
  require
    (countDocuments db.aiConversations (tenantOr companyId "userId" ownerId) = 0 &&
      countDocuments db.aiMessages (tenantOr companyId "userId" ownerId) = 0 &&
      countDocuments db.aiUsage (tenantOr companyId "userId" ownerId) = 0)
    (.refusal .aiHistory)
  require (countDocuments db.audits (audited companyId ownerId) = 0) (.refusal .platformHistory)

/-- The verification records of the company and its owner, by their identifiers. -/
def inspectVerifications (db : CleanupCollections) (companyId ownerId : ObjectId) :
    Except CleanupFailure (List ObjectId) := do
  let verifications := (db.verifications.filter (tenantOr companyId "ownerId" ownerId)).map fun record =>
    record.erase "tokenHash"
  require
    (verifications.length ≤ 1 && verifications.all fun record =>
      (objectIdOf record "_id").isSome && sameId record "companyId" companyId && sameId record "ownerId" ownerId &&
        knownFields record ["companyId", "ownerId", "expiresAt", "lastSentAt"])
    (.refusal .verification)
  return verifications.filterMap fun record => objectIdOf record "_id"

structure Checked where
  owner : ObjectId
  subscription : ObjectId
  verifications : List ObjectId
deriving DecidableEq

def inspect (db : CleanupCollections) (companyId : ObjectId) : Except CleanupFailure Checked := do
  inspectCompany db companyId
  let owner ← inspectOwner db companyId
  let subscription ← inspectSubscription db companyId
  inspectHistory db companyId owner
  let verifications ← inspectVerifications db companyId owner
  return { owner, subscription, verifications }

/-! ### Deletion -/

/-- `deleteOne`: the number of deleted records, and the others. -/
def deleteOne (filter : StoredRecord → Bool) (records : List StoredRecord) : Nat × List StoredRecord :=
  match findOneAndDelete filter records with
  | none => (0, records)
  | some (_, rest) => (1, rest)

/-- The records that the deletion names, collection by collection. -/
def verificationFilter (companyId : ObjectId) (checked : Checked) (record : StoredRecord) : Bool :=
  checked.verifications.any (fun id => record.get "_id" = some (.objectId id)) && sameId record "companyId" companyId &&
    sameId record "ownerId" checked.owner

def ownerFilter (companyId : ObjectId) (checked : Checked) (record : StoredRecord) : Bool :=
  sameId record "_id" checked.owner && sameId record "companyId" companyId && record.get "role" = some companyOwner

def subscriptionFilter (companyId : ObjectId) (checked : Checked) (record : StoredRecord) : Bool :=
  sameId record "_id" checked.subscription && sameId record "companyId" companyId &&
    record.get "planCode" = some (storedPlan .free) && record.get "revision" = some (.integer 0)

/-- `{ _id: companyId, activatedAt: { $type: 'null' } }` -/
def companyFilter (companyId : ObjectId) (record : StoredRecord) : Bool :=
  sameId record "_id" companyId && record.get "activatedAt" = some .null

structure CleanupCounts where
  companies : Nat
  ownerUsers : Nat
  freeSubscriptions : Nat
  verificationRecords : Nat
deriving DecidableEq, Repr

/-- The four deletions; the counts that they report must be those of the inspection. -/
def deleteCompany (db : CleanupCollections) (companyId : ObjectId) (checked : Checked) (counts : CleanupCounts) :
    Except CleanupFailure CleanupCollections := do
  let verifications :=
    if checked.verifications.isEmpty then (0, db.verifications)
    else (countDocuments db.verifications (verificationFilter companyId checked),
      deleteMany (verificationFilter companyId checked) db.verifications)
  let users := deleteOne (ownerFilter companyId checked) db.users
  let subscriptions := deleteOne (subscriptionFilter companyId checked) db.subscriptions
  let companies := deleteOne (companyFilter companyId) db.companies
  require
    (verifications.1 = counts.verificationRecords && users.1 = 1 && subscriptions.1 = 1 && companies.1 = 1)
    .cleanupCounts
  return { db with
    companies := companies.2
    users := users.2
    subscriptions := subscriptions.2
    verifications := verifications.2 }

/-- What the command prints. -/
inductive CleanupReport where
  | dryRun (companyId : ObjectId) (matched : CleanupCounts)
  | deleted (companyId : ObjectId) (matched deleted : CleanupCounts)
deriving DecidableEq

/-- The body of the transaction. -/
def cleanup (db : CleanupCollections) (options : CleanupOptions) (companyId : ObjectId) :
    Except CleanupFailure (CleanupReport × CleanupCollections) := do
  let checked ← inspect db companyId
  let counts : CleanupCounts := ⟨1, 1, 1, checked.verifications.length⟩
  if !options.confirmDisposable then return (.dryRun companyId counts, db)
  let changed ← deleteCompany db companyId checked counts
  return (.deleted companyId counts counts, changed)

/-- `connection.transaction`, as in the reset of a test account. -/
def settle (db : CleanupCollections) (commit : Commit)
    (attempt : Except CleanupFailure (CleanupReport × CleanupCollections)) :
    Except CleanupFailure CleanupReport × CleanupCollections :=
  match attempt, commit with
  | .error failure, _ => (.error failure, db)
  | .ok (report, changed), .acknowledged => (.ok report, changed)
  | .ok _, .aborted => (.error .mongoTransaction, db)
  | .ok (_, changed), .unacknowledged => (.error .mongoTransaction, changed)

def run (db : CleanupCollections) (options : CleanupOptions) (commit : Commit) :
    Except CleanupFailure CleanupReport × CleanupCollections :=
  match validateCleanupOptions options with
  | .error failure => (.error failure, db)
  | .ok companyId => settle db commit (cleanup db options companyId)

end DataVault.Maintenance.DisposableCompany
