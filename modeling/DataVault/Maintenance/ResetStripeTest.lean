/-
Module: DataVault.Maintenance.ResetStripeTest
Layer: Model
Purpose: The maintenance command that detaches a Stripe test account (maintenance/reset-stripe-test.service.ts):
  `validateStripeResetOptions` and `StripeTestStateReset.run` with both of its transactions, over raw documents.
Imports: DataVault.Control.Fallible, DataVault.Plans.Catalog, DataVault.Store.Document,
  DataVault.Subscriptions.BillingPeriod
Trusted boundary: human-reviewed spec
Main exports: Field, Database, StripeResetRefusalReason, CliFailure, StripeResetOptions,
  validateStripeResetOptions, inspect, inspectBasicRecovery, recoverUnmanagedBasic, Commit, run
-/
import DataVault.Control.Fallible
import DataVault.Plans.Catalog
import DataVault.Store.Document
import DataVault.Subscriptions.BillingPeriod

namespace DataVault.Maintenance

open Control Plans Store Subscriptions

/-- The fields the command reads or writes, in any collection, and any other field by its name. -/
inductive Field where
  | id
  | version
  | companyId
  | planCode
  | activatedAt
  | planChangedAt
  | revision
  | createdAt
  | updatedAt
  | stripeManaged
  | paymentAccess
  | paymentSyncIssue
  | stripeCancelAtPeriodEnd
  | stripePlanConfirmed
  | stripeCustomerId
  | stripeSubscriptionId
  | stripeStatus
  | pendingPlanCode
  | pendingPlanAt
  | stripeScheduleId
  | stripeChangeOperation
  | stripeCheckoutAttemptAt
  | stripeCustomerAttemptAt
  | stripeSubscriptionAttemptAt
  | stripePlanAttemptAt
  | stripePlanEmployees
  | stripeCheckoutEmployees
  | stripeCheckoutOperation
  | stripeCheckoutSessionId
  | stripeCheckoutPlan
  | stripeSyncedAt
  | stripeMeterStartedAt
  | stripeNextSyncAt
  | stripeLeaseToken
  | stripeLeaseUntil
  | role
  | status
  | expiresAt
  | startsAt
  | endsAt
  | uploadedFiles
  | fileOverageCents
  | unnamed (name : String)
deriving DecidableEq, Repr

/-- The collections. The command has no handle on `companyFiles`. -/
structure Database where
  companies : List (Document Field)
  subscriptions : List (Document Field)
  stripeEvents : List (Document Field)
  stripeUsage : List (Document Field)
  users : List (Document Field)
  invitations : List (Document Field)
  periods : List (Document Field)
  companyFiles : List (Document Field)

/-! ### Stored texts -/

/-- A plan as a document names it. -/
def storedPlan : PlanCode → Value
  | .free => .string "free"
  | .basic => .string "basic"
  | .premium => .string "premium"

/-- `PaymentAccess.UNMANAGED` -/
def unmanaged : Value := .string "unmanaged"

/-- `PaymentSyncIssue` -/
inductive SyncIssue where
  | none
  | retryRequired
  | reconciliationRequired
  | planConflict
deriving DecidableEq, Repr

def storedIssue : SyncIssue → Value
  | .none => .string "none"
  | .retryRequired => .string "retry_required"
  | .reconciliationRequired => .string "reconciliation_required"
  | .planConflict => .string "plan_conflict"

/-- `Role.COMPANY_OWNER` and `Role.COMPANY_MEMBER`. -/
def companyOwner : Value := .string "company_owner"

def companyMember : Value := .string "company_member"

/-- `InvitationStatus.PENDING` -/
def pending : Value := .string "pending"

/-! ### Options and refusals -/

inductive StripeResetRefusalReason where
  | production
  | confirmation
  | company
  | subscription
  | paidOrManaged
  | inFlight
  | history
  | unknownState
  | noMapping
  | revision
  | basicRecoveryState
  | freeCapacity
  | account
  | period
deriving DecidableEq, Repr

/-- The texts of the reasons. -/
def StripeResetRefusalReason.text : StripeResetRefusalReason → String
  | .production => "development_or_test_required"
  | .confirmation => "explicit_offline_test_mode_confirmation_required"
  | .company => "company_not_found"
  | .subscription => "exactly_one_subscription_required"
  | .paidOrManaged => "paid_or_stripe_managed_subscription_requires_reconciliation"
  | .inFlight => "stripe_operation_or_checkout_may_be_in_flight"
  | .history => "stripe_event_or_usage_history_requires_reconciliation"
  | .unknownState => "subscription_has_unsupported_or_inconsistent_state"
  | .noMapping => "no_stripe_customer_mapping_to_reset"
  | .revision => "subscription_changed_since_dry_run"
  | .basicRecoveryState => "unmanaged_basic_checkout_state_is_not_exact"
  | .freeCapacity => "company_does_not_fit_free_plan"
  | .account => "exactly_one_owner_and_no_employees_required"
  | .period => "current_billing_period_is_inconsistent"

/-- `CliFailure`: a refusal has the category `stripe_test_reset_refused`, the others the category of their name. -/
inductive CliFailure where
  | refusal (reason : StripeResetRefusalReason)
  | invalidStripeResetArguments
  | stripeResetCountMismatch
  | mongoTransaction
deriving DecidableEq, Repr

structure StripeResetOptions where
  companyId : String
  environment : Option String
  execute : Bool
  expectedRevision : Option Int
  confirmReset : Bool
  confirmAppStopped : Bool
  confirmOldStripeQuiescent : Bool
  recoverUnmanagedBasic : Bool
  confirmTransitionToFree : Bool
deriving DecidableEq, Repr

/-- `Number.isSafeInteger`, of a whole number. -/
def isSafeInteger (n : Int) : Bool := -9007199254740991 ≤ n ∧ n ≤ 9007199254740991

/-- `validateStripeResetOptions`, with the identifier that `run` makes of the company's text. -/
def validateStripeResetOptions (options : StripeResetOptions) : Except CliFailure ObjectId := do
  require (options.environment = some "development" || options.environment = some "test")
    (.refusal .production)
  let companyId ← orFail (ObjectId.ofHex? options.companyId) .invalidStripeResetArguments
  require (options.expectedRevision.all fun revision => isSafeInteger revision && 0 ≤ revision)
    .invalidStripeResetArguments
  require
    (!(options.execute &&
      (options.expectedRevision.isNone || !options.confirmReset || !options.confirmAppStopped ||
        !options.confirmOldStripeQuiescent ||
        (options.recoverUnmanagedBasic && !options.confirmTransitionToFree))))
    (.refusal .confirmation)
  require
    (!(!options.execute &&
      (options.expectedRevision.isSome || options.confirmReset || options.confirmAppStopped ||
        options.confirmOldStripeQuiescent || options.confirmTransitionToFree)))
    .invalidStripeResetArguments
  require (!(!options.recoverUnmanagedBasic && options.confirmTransitionToFree)) .invalidStripeResetArguments
  return companyId

/-! ### Conditions on stored values -/

def isObjectId : Option Value → Bool
  | some (.objectId _) => true
  | _ => false

/-- `instanceof Date` -/
def isDate : Option Value → Bool
  | some (.date _) => true
  | _ => false

/-- A date that JavaScript can represent; the others read as invalid dates. -/
def isFiniteDate : Option Value → Bool
  | some (.date time) => -8640000000000000 ≤ time ∧ time ≤ 8640000000000000
  | _ => false

/-- `getTime`, of a date. -/
def getTime : Option Value → Int
  | some (.date time) => time
  | _ => 0

def isCount : Option Value → Bool
  | some (.integer n) => isSafeInteger n && 0 ≤ n
  | _ => false

/-- The number, where `isCount` has passed. -/
def asNumber : Option Value → Int
  | some (.integer n) => n
  | _ => 0

/-- `^lead[A-Za-z0-9]+$` -/
def hasForm (lead : String) : Option Value → Bool
  | some (.string text) =>
      let rest := text.toList.drop lead.toList.length
      lead.toList.isPrefixOf text.toList && !rest.isEmpty && rest.all Char.isAlphanum
  | _ => false

/-- The pattern of the operation identifiers, UUIDs of version 4 in either case: `x` stands for a hexadecimal digit,
`y` for one of `89ab`. -/
def isOperation : Option Value → Bool
  | some (.string text) =>
      text.toList.length = 36 &&
        ("xxxxxxxx-xxxx-4xxx-yxxx-xxxxxxxxxxxx".toList.zip text.toList).all fun (form, c) =>
          if form = 'x' then isHexDigit c
          else if form = 'y' then ['8', '9', 'a', 'b', 'A', 'B'].contains c
          else form = c
  | _ => false

def resetFields : List Field :=
  [.stripeCustomerId, .stripeSubscriptionId, .stripeStatus, .pendingPlanCode, .pendingPlanAt, .stripeScheduleId,
    .stripeChangeOperation, .stripeCheckoutAttemptAt, .stripeCustomerAttemptAt, .stripeSubscriptionAttemptAt,
    .stripePlanAttemptAt, .stripePlanEmployees, .stripeCheckoutEmployees, .stripeCheckoutOperation,
    .stripeCheckoutSessionId, .stripeCheckoutPlan, .stripeSyncedAt, .stripeMeterStartedAt, .stripeNextSyncAt,
    .stripeLeaseToken, .stripeLeaseUntil]

def knownFields : List Field :=
  [.id, .version, .companyId, .planCode, .activatedAt, .planChangedAt, .revision, .createdAt, .updatedAt,
    .stripeManaged, .paymentAccess, .paymentSyncIssue, .stripeCancelAtPeriodEnd, .stripePlanConfirmed] ++ resetFields

/-- The fields of a list that a document has. -/
def fieldsPresent (subscription : Document Field) : List Field :=
  resetFields.filter fun field => (subscription.get field).isSome

/-! ### What both transactions look at -/

/-- `{ companyId: { $in: [companyId, companyRef] } }` -/
def tenant (companyId : ObjectId) : Query Field := [(.companyId, refersTo companyId)]

/-- The number of documents of a collection that a query selects. -/
def count (documents : List (Document Field)) (query : Query Field) : Nat :=
  countDocuments documents (Document.satisfies query)

/-- The company must exist and have one subscription. -/
def subscriptionOf (db : Database) (companyId : ObjectId) : Except CliFailure (Document Field) := do
  require (db.companies.any (Document.satisfies [(.id, equals (.objectId companyId))])) (.refusal .company)
  match db.subscriptions.filter (Document.satisfies (tenant companyId)) with
  | [subscription] => return subscription
  | _ => .error (.refusal .subscription)

/-- The conditions both transactions begin with. -/
def hasKnownShape (companyId : ObjectId) (subscription : Document Field) : Bool :=
  isObjectId (subscription.get .id) && isObjectId (subscription.get .companyId) &&
    equals (.objectId companyId) (subscription.get .companyId) &&
    subscription.keys.all knownFields.contains && isCount (subscription.get .revision) &&
    isDate (subscription.get .activatedAt) && isDate (subscription.get .planChangedAt)

/-- No event and no usage record of the company. -/
def hasNoHistory (db : Database) (companyId : ObjectId) : Bool :=
  count db.stripeEvents (tenant companyId) = 0 && count db.stripeUsage (tenant companyId) = 0

/-! ### The reset of a free subscription -/

def inspect (db : Database) (companyId : ObjectId) : Except CliFailure (Document Field) := do
  let subscription ← subscriptionOf db companyId
  let field := subscription.get
  require (hasKnownShape companyId subscription) (.refusal .unknownState)
  require
    (field .planCode = some (storedPlan .free) && field .stripeManaged = some (.bool false) &&
      (field .stripeSubscriptionId).isNone && (field .stripeStatus).isNone &&
      (field .paymentAccess).all (· = unmanaged))
    (.refusal .paidOrManaged)
  require
    ((field .stripeCheckoutSessionId).isNone && (field .stripeCheckoutAttemptAt).isNone &&
      (field .stripeSubscriptionAttemptAt).isNone && (field .stripeCheckoutEmployees).isNone &&
      (field .stripeSyncedAt).isNone && (field .stripeMeterStartedAt).isNone && (field .stripeNextSyncAt).isNone &&
      (field .stripeLeaseToken).isNone && (field .stripeLeaseUntil).isNone && (field .pendingPlanCode).isNone &&
      (field .pendingPlanAt).isNone && (field .stripeScheduleId).isNone && (field .stripeChangeOperation).isNone &&
      (field .stripePlanAttemptAt).isNone && (field .stripePlanEmployees).isNone &&
      (field .stripePlanConfirmed).all (· = .bool false) && (field .stripeCancelAtPeriodEnd).all (· = .bool false) &&
      !(field .paymentSyncIssue = some (storedIssue .reconciliationRequired)) &&
      !(field .paymentSyncIssue = some (storedIssue .planConflict)))
    (.refusal .inFlight)
  require (hasForm "cus_" (field .stripeCustomerId)) (.refusal .noMapping)
  require
    ((field .stripeCheckoutOperation).all fun operation =>
      (match operation with | .string _ => true | _ => false) &&
        (field .stripeCheckoutPlan = some (storedPlan .basic) || field .stripeCheckoutPlan = some (storedPlan .premium)))
    (.refusal .unknownState)
  require ((field .stripeCheckoutPlan).isNone || (field .stripeCheckoutOperation).isSome) (.refusal .unknownState)
  require ((field .stripeCustomerAttemptAt).isNone || isDate (field .stripeCustomerAttemptAt)) (.refusal .unknownState)
  require
    ((field .paymentSyncIssue).all fun issue =>
      issue = storedIssue .none || issue = storedIssue .retryRequired)
    (.refusal .unknownState)
  require (hasNoHistory db companyId) (.refusal .history)
  return subscription

/-- What the command prints, for either transaction. -/
inductive StripeResetReport where
  | dryRun (companyId : List Char) (planCode : PlanCode) (revision : Int) (fieldsToClear : List Field)
      (stripeEvents stripeUsage : Nat)
  | reset (companyId : List Char) (planCode : PlanCode) (previousRevision revision : Int) (fieldsCleared : List Field)
      (stripeEvents stripeUsage : Nat)
  | basicRecovery (companyId : List Char) (fromPlan toPlan : PlanCode) (previousRevision : Int)
      (previousPlanChangedAt periodStartsAt periodEndsAt : Int) (acceptedEmployees pendingInvitations : Nat)
      (successfulUploads : Int) (stripeEvents stripeUsage : Nat) (fieldsToClear : List Field) (revision : Int)
      (newPlanChangedAt : Option Int)
deriving DecidableEq, Repr

/-- Both updates: clear what ties the subscription to Stripe, then set the given fields. -/
def clearAndSet (changes : List (Field × Value)) (subscription : Document Field) : Document Field :=
  (subscription.unset resetFields).set changes

/-- The write of a transaction: exactly one document must match and change. -/
def updateSubscription (db : Database) (query : Query Field) (changes : List (Field × Value)) :
    Except CliFailure Database := do
  let (result, subscriptions) := updateOne db.subscriptions query (clearAndSet changes)
  require (result.matchedCount = 1 && result.modifiedCount = 1) .stripeResetCountMismatch
  return { db with subscriptions }

/-- The condition that a field still holds what was read. -/
def unchanged (subscription : Document Field) (field : Field) : Field × (Option Value → Bool) :=
  (field, fun found => decide (found = subscription.get field))

/-- The transaction of `run` without recovery; it stamps the write with its own reading of the clock. -/
def resetFree (db : Database) (options : StripeResetOptions) (companyId : ObjectId) (instant : Int) :
    Except CliFailure (StripeResetReport × Database) := do
  let subscription ← inspect db companyId
  let revision := asNumber (subscription.get .revision)
  require (!options.execute || options.expectedRevision = some revision) (.refusal .revision)
  if !options.execute then
    return (.dryRun companyId.hexDigits .free revision (fieldsPresent subscription) 0 0, db)
  let changed ← updateSubscription db
    [unchanged subscription .id, (.companyId, equals (.objectId companyId)), (.revision, equals (.integer revision)),
      (.planCode, equals (storedPlan .free)), unchanged subscription .stripeCustomerId,
      (.stripeManaged, equals (.bool false))]
    [(.stripeManaged, .bool false), (.paymentAccess, unmanaged), (.paymentSyncIssue, storedIssue .none),
      (.stripeCancelAtPeriodEnd, .bool false), (.stripePlanConfirmed, .bool false),
      (.revision, .integer (revision + 1)), (.updatedAt, .date instant)]
  return (.reset companyId.hexDigits .free revision (revision + 1) (fieldsPresent subscription) 0 0, changed)

/-! ### The recovery of an unmanaged Basic subscription -/

/-- What `inspectBasicRecovery` returns. -/
structure BasicRecovery where
  subscription : Document Field
  period : BillingPeriod
  uploadedFiles : Int

/-- The period's row, where there is one, must be consistent. -/
def periodUploads (rows : List (Document Field)) (period : BillingPeriod) : Except CliFailure Int :=
  match rows with
  | [] => return 0
  | [row] => do
      require
        (isDate (row.get .endsAt) && getTime (row.get .endsAt) = period.endsAt && isCount (row.get .uploadedFiles) &&
          row.get .fileOverageCents = some (.integer 0))
        (.refusal .period)
      return asNumber (row.get .uploadedFiles)
  | _ => .error (.refusal .period)

/-- `none` from `billingPeriod` is its exception, which `recoverUnmanagedBasic` reports as a failed transaction. -/
def inspectBasicRecovery (db : Database) (companyId : ObjectId) (instant : Int) : Except CliFailure BasicRecovery := do
  let subscription ← subscriptionOf db companyId
  let field := subscription.get
  require
    (hasKnownShape companyId subscription && isFiniteDate (field .activatedAt) && isFiniteDate (field .planChangedAt) &&
      getTime (field .activatedAt) ≤ instant && getTime (field .planChangedAt) ≤ instant)
    (.refusal .unknownState)
  require
    (field .planCode = some (storedPlan .basic) && field .stripeManaged = some (.bool false) &&
      field .paymentAccess = some unmanaged && field .paymentSyncIssue = some (storedIssue .retryRequired) &&
      field .stripeCancelAtPeriodEnd = some (.bool false) && field .stripePlanConfirmed = some (.bool false) &&
      hasForm "cus_" (field .stripeCustomerId) && hasForm "cs_test_" (field .stripeCheckoutSessionId) &&
      field .stripeCheckoutPlan = some (storedPlan .premium) && isOperation (field .stripeCheckoutOperation) &&
      isFiniteDate (field .stripeCustomerAttemptAt) && isFiniteDate (field .stripeCheckoutAttemptAt) &&
      isFiniteDate (field .stripeNextSyncAt) && (field .stripeSubscriptionId).isNone &&
      (field .stripeSubscriptionAttemptAt).isNone && (field .stripeStatus).isNone &&
      (field .stripeCheckoutEmployees).isNone && (field .stripeSyncedAt).isNone &&
      (field .stripeMeterStartedAt).isNone && (field .stripeLeaseToken).isNone && (field .stripeLeaseUntil).isNone &&
      (field .pendingPlanCode).isNone && (field .pendingPlanAt).isNone && (field .stripeScheduleId).isNone &&
      (field .stripeChangeOperation).isNone && (field .stripePlanAttemptAt).isNone &&
      (field .stripePlanEmployees).isNone)
    (.refusal .basicRecoveryState)
  require (hasNoHistory db companyId) (.refusal .history)
  let totalUsers := count db.users (tenant companyId)
  let owners := count db.users (tenant companyId ++ [(.role, equals companyOwner)])
  require (totalUsers = 1 && owners = 1) (.refusal .account)
  let pendingInvitations :=
    count db.invitations (tenant companyId ++ [(.status, equals pending), (.expiresAt, laterThan instant)])
  require (pendingInvitations = 0) (.refusal .freeCapacity)
  let period ← orFail (billingPeriod (getTime (field .activatedAt)) instant) .mongoTransaction
  let usage := db.periods.filter
    (Document.satisfies (tenant companyId ++ [(.startsAt, equals (.date period.startsAt))]))
  let uploadedFiles ← periodUploads usage period
  require (uploadedFiles ≤ (planCatalog .free).includedFilesPerMonth) (.refusal .freeCapacity)
  return { subscription, period, uploadedFiles }

/-- The transaction of `recoverUnmanagedBasic`. -/
def recoverUnmanagedBasic (db : Database) (options : StripeResetOptions) (companyId : ObjectId) (instant : Int) :
    Except CliFailure (StripeResetReport × Database) := do
  let checked ← inspectBasicRecovery db companyId instant
  let subscription := checked.subscription
  let revision := asNumber (subscription.get .revision)
  require (!options.execute || options.expectedRevision = some revision) (.refusal .revision)
  let report := StripeResetReport.basicRecovery companyId.hexDigits .basic .free revision
    (getTime (subscription.get .planChangedAt)) checked.period.startsAt checked.period.endsAt 0 0
    checked.uploadedFiles 0 0 (fieldsPresent subscription)
  if !options.execute then return (report revision none, db)
  let changed ← updateSubscription db
    [unchanged subscription .id, (.companyId, equals (.objectId companyId)), (.revision, equals (.integer revision)),
      (.planCode, equals (storedPlan .basic)), (.stripeManaged, equals (.bool false)),
      (.paymentAccess, equals unmanaged), (.paymentSyncIssue, equals (storedIssue .retryRequired)),
      unchanged subscription .stripeCustomerId, unchanged subscription .stripeCheckoutSessionId,
      unchanged subscription .stripeCheckoutOperation, (.stripeCheckoutPlan, equals (storedPlan .premium)),
      (.stripeSubscriptionId, missing), (.stripeSubscriptionAttemptAt, missing)]
    [(.planCode, storedPlan .free), (.planChangedAt, .date instant), (.stripeManaged, .bool false),
      (.paymentAccess, unmanaged), (.paymentSyncIssue, storedIssue .none), (.stripeCancelAtPeriodEnd, .bool false),
      (.stripePlanConfirmed, .bool false), (.revision, .integer (revision + 1)), (.updatedAt, .date instant)]
  return (report (revision + 1) (some instant), changed)

/-! ### The command -/

/-- How the server ends a transaction that the command wants to commit: it may abort it, and it may commit without the
command learning of it. -/
inductive Commit where
  | acknowledged
  | aborted
  | unacknowledged
deriving DecidableEq, Repr

/-- `connection.transaction`: what the caller gets and the collections afterwards. A transaction that throws writes
nothing, and one that the driver repeats writes what its last attempt does, so that `db` is what this attempt reads. -/
def settle (db : Database) (commit : Commit) (attempt : Except CliFailure (StripeResetReport × Database)) :
    Except CliFailure StripeResetReport × Database :=
  match attempt, commit with
  | .error failure, _ => (.error failure, db)
  | .ok (report, changed), .acknowledged => (.ok report, changed)
  | .ok _, .aborted => (.error .mongoTransaction, db)
  | .ok (_, changed), .unacknowledged => (.error .mongoTransaction, changed)

def run (db : Database) (options : StripeResetOptions) (instant : Int) (commit : Commit) :
    Except CliFailure StripeResetReport × Database :=
  match validateStripeResetOptions options with
  | .error failure => (.error failure, db)
  | .ok companyId =>
      settle db commit
        (if options.recoverUnmanagedBasic then recoverUnmanagedBasic db options companyId instant
          else resetFree db options companyId instant)

end DataVault.Maintenance
