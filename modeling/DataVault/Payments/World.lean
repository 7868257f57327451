/-
Module: DataVault.Payments.World
Layer: Model
Purpose: The world in which the payment handlers of one company run: its part of the database, Stripe, the
  clock. Every database command, query, Stripe read and Stripe request is one atomic action; a transaction is
  one command. The environment decides whether an answer arrives, is lost after the effect or before it, and
  everything that Stripe decides. The world also remembers, for the statements only, all earlier states of
  the database, all requests sent and the snapshots that `applyCanonical` has committed.
Imports: DataVault.Payments.Records
Trusted boundary: human-reviewed spec
Main exports: UsageTable, BillingDb, Command, Query, Lookup, PaymentAct, PaymentWorld, Choice, paymentExec,
  PaymentDrift, paymentDrift
-/
import DataVault.Payments.Records
import DataVault.Store.Collection
import Mathlib.Data.List.Sort

namespace DataVault.Payments

open DataVault.Control DataVault.Plans DataVault.Store DataVault.Subscriptions

/-! ### Usage rows -/

/-- The `StripeUsage` collection. Its unique index on `identifier` is part of the type. -/
structure UsageTable where
  rows : List StripeUsage
  unique : (rows.map StripeUsage.identifier).Nodup

/-- The writes of `submitUsage` to a row. -/
inductive DeliveryUpdate where
  | unresolved
  | firstAttempt (instant : Int)
  | submitted (instant : Int)
deriving DecidableEq, Repr

def DeliveryUpdate.apply : DeliveryUpdate → StripeUsage → StripeUsage
  | .unresolved, row => { row with state := .reconciliationRequired }
  | .firstAttempt instant, row => { row with firstAttemptAt := some instant }
  | .submitted instant, row => { row with state := .submitted, submittedAt := some instant }

@[simp] theorem DeliveryUpdate.apply_identifier (update : DeliveryUpdate) (row : StripeUsage) :
    (update.apply row).identifier = row.identifier := by
  cases update <;> rfl

namespace UsageTable

def empty : UsageTable := ⟨[], List.nodup_nil⟩

/-- `usages.create`; fails on a duplicate identifier. -/
def insert (table : UsageTable) (row : StripeUsage) : Option UsageTable :=
  if fresh : row.identifier ∉ table.rows.map StripeUsage.identifier then
    some ⟨row :: table.rows, List.nodup_cons.mpr ⟨fresh, table.unique⟩⟩
  else none

/-- `usages.updateOne({ _id }, ...)`; the identifier stands for the row. -/
def update (table : UsageTable) (identifier : UsageIdentifier) (delivery : DeliveryUpdate) :
    UsageTable where
  rows := table.rows.map fun row => if row.identifier = identifier then delivery.apply row else row
  unique := by
    have same : (StripeUsage.identifier ∘ fun row =>
        if row.identifier = identifier then delivery.apply row else row) = StripeUsage.identifier := by
      funext row
      simp only [Function.comp]
      split <;> simp
    rw [List.map_map, same]
    exact table.unique

end UsageTable

/-! ### The database -/

/-- The lease fields of the subscription: the token is the number of the run that took the lease. -/
structure Lease where
  token : Nat
  leasedUntil : Int
deriving DecidableEq, Repr

/-- A stored company file; `derived` marks a sanitized copy. -/
structure StoredFile where
  id : Nat
  derived : Bool
deriving DecidableEq, Repr

/-- What a commit of `applyCanonical` wrote: by which run and when, the snapshot, what it knew about the
company, and the document it left. -/
structure CanonicalCommit where
  run : Nat
  instant : Int
  remote : RemoteSubscription
  draftsHeld : Bool
  company : CompanyState
  after : Subscription
deriving DecidableEq, Repr

/-- The company's documents. `canonical` is the log of committed snapshots, newest first; the code does not
keep it. -/
structure BillingDb where
  subscription : Subscription
  lease : Option Lease := none
  ownerEmail : Option String := none
  employees : Nat := 0
  pendingInvitations : List Int := []
  files : List StoredFile := []
  periods : List SubscriptionPeriod := []
  usages : UsageTable := UsageTable.empty
  events : List Nat := []
  canonical : List CanonicalCommit := []

namespace BillingDb

variable (db : BillingDb)

/-- The lease is held under the token of a run. -/
def leasedTo (run : Nat) : Prop := db.lease.map (·.token) = some run

instance (run : Nat) : Decidable (db.leasedTo run) := inferInstanceAs (Decidable (_ = _))

def company : CompanyState where
  employees := db.employees
  pendingInvitations := db.pendingInvitations
  files := db.files.length
  unresolvedUsage := db.usages.rows.any fun row => row.state = .reconciliationRequired

/-- `{ $inc: { revision: 1 } }`, by the locks and within `update`. -/
def bumpRevision : BillingDb :=
  { db with subscription := { db.subscription with revision := db.subscription.revision + 1 } }

/-- The stored side of `update`. -/
def apply (update : SubscriptionUpdate) : BillingDb :=
  BillingDb.bumpRevision { db with subscription := update.apply db.subscription }

end BillingDb

/-! ### Commands -/

/-- The database writes. `update`, `rotateCheckout`, `localPlan`, `queuePlan` and `applyCanonical` carry the
document that the run holds in memory. -/
inductive Command where
  | acquireLease (now : Int)
  | releaseLease
  | renewLease (now : Int)
  | update (doc : Subscription) (update : SubscriptionUpdate)
  | rotateCheckout (doc : Subscription) (planCode : PlanCode)
  | localPlan (doc : Subscription) (code : PlanCode)
  | queuePlan (doc : Subscription) (code : PlanCode)
  | employeeSnapshot
  | applyCanonical (doc : Subscription) (status : StripeSubscriptionStatus) (remote : RemoteSubscription)
      (event : Option Nat) (draftsHeld : Bool)
  | recordEvent (event : Nat)
  | usage (identifier : UsageIdentifier) (delivery : DeliveryUpdate)
  | upload (now : Int)
  | publishCopy (source : Nat) (now : Int)
  | deleteFile (file : Nat)
  | changePlan (code : PlanCode) (changedAt : Int)
  | claimSync (now interval : Int)
  | retryRequired

/-- What each command answers. -/
abbrev Command.Res : Command → Type
  | .acquireLease _ => Option Subscription
  | .renewLease _ => Bool
  | .update .. => Bool
  | .rotateCheckout .. => Option Nat
  | .queuePlan .. => Option QueuedPlan
  | .employeeSnapshot => Nat
  | .applyCanonical .. => CanonicalFields
  | .deleteFile _ => Bool
  | .claimSync .. => Bool
  | _ => Unit

/-- `CompanyLeaseBusyException` of `update`. -/
def leaseExpired : Failure := .companyLeaseBusy "Billing synchronization lease expired; retry"

namespace BillingDb

variable (db : BillingDb)

/-- The row `recordFileUploads` reads for a period. -/
def periodOf (period : BillingPeriod) : Option SubscriptionPeriod :=
  db.periods.find? fun row => row.startsAt = period.startsAt

/-- An upload transaction up to the file itself: the lock, the checks of `recordFileUploads`, the usage row
and the upserted period. -/
def recordUpload (enabled : Bool) (now : Int) : Except Failure BillingDb := do
  let db := db.bumpRevision
  let record ← recordFileUploads enabled db.subscription db.periodOf db.files.length 1 now
  let usages ← match record.usage with
    | none => pure db.usages
    | some row => orFail (db.usages.insert row) .duplicateKey
  pure { db with
    usages := usages
    periods := record.period :: db.periods.filter fun row => row.startsAt ≠ record.period.startsAt }

/-- The effect of a command of `run` in step `step` at time `clock`; an error leaves the database as it
was. `published` is what `publishGuardCopy` finds beside the source file: that the actor may read it and that
the copy is not too large. -/
def execute (enabled : Bool) (run step : Nat) (clock : Int) (published : Except Failure Unit) :
    (command : Command) → Except Failure (command.Res × BillingDb)
  | .acquireLease now =>
      match db.lease with
      | some lease =>
          if lease.leasedUntil ≤ now then
            .ok (some db.subscription, { db with lease := some ⟨run, now + stripeLeaseMs⟩ })
          else .ok (none, db)
      | none => .ok (some db.subscription, { db with lease := some ⟨run, now + stripeLeaseMs⟩ })
  | .releaseLease => .ok ((), if db.leasedTo run then { db with lease := none } else db)
  | .renewLease now =>
      if db.leasedTo run then .ok (true, { db with lease := some ⟨run, now + stripeLeaseMs⟩ })
      else .ok (false, db)
  | .update _ update => if db.leasedTo run then .ok (true, db.apply update) else .ok (false, db)
  | .rotateCheckout _ planCode =>
      if db.leasedTo run then .ok (some step, db.apply (.checkoutOperation step planCode))
      else .ok (none, db)
  | .localPlan _ code => do
      Payments.localPlan db.company code clock
      require (db.leasedTo run) leaseExpired
      pure ((), db.bumpRevision.apply (.localPlan code))
  | .queuePlan doc code => do
      match ← Payments.queuePlan db.company doc code step clock with
      | none => pure (none, db.bumpRevision)
      | some queued =>
          require (db.leasedTo run) leaseExpired
          pure (some queued, db.bumpRevision.apply (.queuePlan queued))
  | .employeeSnapshot => .ok (db.employees, db.bumpRevision)
  | .applyCanonical doc status remote event draftsHeld => do
      let fields ← canonicalFields db.company doc status remote draftsHeld clock
      require (db.leasedTo run) leaseExpired
      require (event.all fun event => !db.events.contains event) .duplicateKey
      let after := db.bumpRevision.apply (.canonical fields)
      let commit : CanonicalCommit :=
        { run := run
          instant := clock
          remote := remote
          draftsHeld := draftsHeld
          company := db.company
          after := after.subscription }
      pure (fields,
        { after with events := event.toList ++ db.events, canonical := commit :: db.canonical })
  | .recordEvent event =>
      if db.events.contains event then .error .duplicateKey
      else .ok ((), { db with events := event :: db.events })
  | .usage identifier delivery => .ok ((), { db with usages := db.usages.update identifier delivery })
  | .upload now => do
      let db ← db.recordUpload enabled now
      pure ((), { db with files := ⟨step, false⟩ :: db.files })
  | .publishCopy source now => do
      require (db.files.any fun file => file.id = source && !file.derived) (.notFound "File not found")
      published
      let db ← db.recordUpload enabled now
      pure ((), { db with files := ⟨step, true⟩ :: db.files })
  | .deleteFile file =>
      match findOneAndDelete (fun stored => stored.id = file) db.files with
      | none => .ok (false, db)
      | some (_, files) => .ok (true, { db with files := files })
  | .changePlan code changedAt => do
      let db := db.bumpRevision
      let changed ← Subscriptions.changePlan db.subscription code changedAt db.employees
        (db.pendingInvitations.countP (changedAt < ·)) db.files.length
      pure ((), { db with subscription := changed })
  | .claimSync now interval =>
      if db.subscription.stripeNextSyncAt.all (· ≤ now) then
        .ok (true, { db with
          subscription := { db.subscription with stripeNextSyncAt := some (clock + interval) } })
      else .ok (false, db)
  | .retryRequired =>
      if db.subscription.paymentSyncIssue = .reconciliationRequired then .ok ((), db)
      else .ok ((), { db with
        subscription := { db.subscription with paymentSyncIssue := .retryRequired } })

end BillingDb

/-! ### Reads -/

inductive Query where
  | eventExists (event : Nat)
  | bySession (session : Nat)
  | bySubscription (subscription : Nat)
  | byCustomer (customer : Nat)
  | dueForSync (now : Int)
  | ownerEmail
  | countEmployees
  | countInvitations (now : Int)
  | countFiles
  | pendingUsage
  | usageBetween (start stop : Int)
  | findFile (file : Nat)

abbrev Query.Res : Query → Type
  | .eventExists _ => Bool
  | .bySession _ | .bySubscription _ | .byCustomer _ => Option Subscription
  | .dueForSync _ => Bool
  | .ownerEmail => Option String
  | .countEmployees | .countInvitations _ | .countFiles => Nat
  | .pendingUsage | .usageBetween .. => List StripeUsage
  | .findFile _ => Option StoredFile

/-- The answer of a query. A lookup by a Stripe id finds this company or nothing. -/
def BillingDb.answer (db : BillingDb) : (query : Query) → query.Res
  | .eventExists event => db.events.contains event
  | .bySession session =>
      if db.subscription.stripeCheckoutSessionId = some session then some db.subscription else none
  | .bySubscription subscription =>
      if db.subscription.stripeSubscriptionId = some subscription then some db.subscription else none
  | .byCustomer customer =>
      if db.subscription.stripeCustomerId = some customer then some db.subscription else none
  | .dueForSync now =>
      (db.subscription.stripeManaged || db.subscription.stripeCheckoutSessionId.isSome) &&
        db.subscription.stripeNextSyncAt.all (· ≤ now)
  | .ownerEmail => db.ownerEmail
  | .countEmployees => db.employees
  | .countInvitations now => db.pendingInvitations.countP (now < ·)
  | .countFiles => db.files.length
  | .pendingUsage =>
      ((db.usages.rows.filter fun row => row.state = .pending).insertionSort
        fun first second => first.timestamp ≤ second.timestamp).take 5
  | .usageBetween start stop =>
      db.usages.rows.filter fun row => start ≤ row.timestamp && row.timestamp < stop
  | .findFile file => db.files.find? fun stored => stored.id = file

/-- Reads of Stripe. -/
inductive Lookup where
  | catalog
  | session (id : Nat)
  | setupIntent (id : Nat)
  | subscription (id : Nat) (expandInvoice : Bool)
  | schedule (id : Nat)
  | draftInvoices (customer : Option Nat)
  | lineItems (invoice : Nat)
  | eventSummaries (meter : Nat) (customer : Option Nat) (start stop : Int)

abbrev Lookup.Res : Lookup → Type
  | .catalog => Catalog
  | .session _ => CheckoutSession
  | .setupIntent _ => SetupIntent
  | .subscription .. => RemoteSubscription
  | .schedule _ => Schedule
  | .draftInvoices _ => Page Invoice
  | .lineItems _ => Page InvoiceLine
  | .eventSummaries .. => List Int

/-! ### Actions -/

/-- `guardedAt` of a request is the time of the age check that let it through, where the call site has one:
that of `attempt` or that of the loop in `submitUsage`. -/
inductive PaymentAct where
  | now
  | query (query : Query)
  | command (command : Command)
  | lookup (lookup : Lookup)
  | send (guardedAt : Option Int) (request : Request)

abbrev PaymentAct.Res : PaymentAct → Type
  | .now => Int
  | .query read => Except Failure read.Res
  | .command write => Except Failure write.Res
  | .lookup read => Except Failure read.Res
  | .send _ request => Except Failure request.Reply

/-- One request as it was sent. -/
structure Sent where
  run : Nat
  instant : Int
  guardedAt : Option Int
  request : Request
deriving DecidableEq, Repr

/-- `steps` counts the actions taken; its value names what an action creates. -/
structure PaymentWorld where
  clock : Int
  steps : Nat := 0
  db : BillingDb
  earlier : List BillingDb := []
  stripe : Stripe := {}
  sent : List Sent := []

namespace PaymentWorld

/-- All states the database has had, newest first. -/
def past (w : PaymentWorld) : List BillingDb := w.db :: w.earlier

/-- A step that changes nothing else. -/
@[simps] def tick (w : PaymentWorld) : PaymentWorld := { w with steps := w.steps + 1 }

/-- A step that leaves a new state of the database. -/
@[simps] def commit (w : PaymentWorld) (db : BillingDb) : PaymentWorld :=
  { w with steps := w.steps + 1, db := db, earlier := w.db :: w.earlier }

/-- A step that sends a request. -/
@[simps] def post (w : PaymentWorld) (run : Nat) (guardedAt : Option Int) (request : Request) (stripe : Stripe) :
    PaymentWorld :=
  { w with
    steps := w.steps + 1
    stripe := stripe
    sent := { run := run, instant := w.clock, guardedAt := guardedAt, request := request } :: w.sent }

end PaymentWorld

/-- Whether the answer of an action arrives, is lost after the effect, or the action never took effect. -/
inductive Fate where
  | delivered
  | lostAfter
  | lostBefore
deriving DecidableEq, Repr, Inhabited

/-- What the environment contributes to an action. -/
structure Choice where
  fate : Fate
  forgotten : Bool
  published : Except Failure Unit
  catalog : Catalog
  session : CheckoutSession
  remote : RemoteSubscription
  customer : Customer
  schedule : Schedule
  drafts : Page Invoice
  lines : Page InvoiceLine
  summaries : List Int
  meterEvent : MeterEvent

instance : Inhabited Choice where
  default :=
    { fate := .delivered
      forgotten := false
      published := .ok ()
      catalog := default
      session := default
      remote := default
      customer := default
      schedule := default
      drafts := default
      lines := default
      summaries := []
      meterEvent := default }

/-- What Stripe answers to a read; `none` where the object does not exist. A subscription is evaluated in
the step of the read. -/
def PaymentWorld.find (w : PaymentWorld) (choice : Choice) : (lookup : Lookup) → Option lookup.Res
  | .catalog => some choice.catalog
  | .session id => w.stripe.sessions id
  | .setupIntent id => w.stripe.setupIntents id
  | .subscription id expandInvoice =>
      (w.stripe.subscriptions id).map fun remote =>
        { remote with
          asOf := w.steps
          receivedAt := w.steps
          latestInvoice := if expandInvoice then remote.latestInvoice else none }
  | .schedule _ => some choice.schedule
  | .draftInvoices _ => some choice.drafts
  | .lineItems _ => some choice.lines
  | .eventSummaries .. => some choice.summaries

/-- The answer to a request that reaches Stripe, with Stripe afterwards. What an update, a cancellation or a
release changes at a subscription is left to the environment (`PaymentDrift.subscription`). -/
def PaymentWorld.serve (w : PaymentWorld) (choice : Choice) : (request : Request) →
    request.Reply × Stripe
  | .createCustomer .. => (choice.customer, w.stripe)
  | .createCheckoutSession operation customer .. =>
      w.stripe.createCheckoutSession operation customer w.steps choice.forgotten w.clock choice.session
  | .createSubscription session .. =>
      w.stripe.createSubscription session w.steps choice.forgotten w.clock choice.remote
  | .createSchedule .. => (choice.schedule, w.stripe)
  | .createMeterEvent .. => (choice.meterEvent, w.stripe)
  | .cancelSubscription .. | .releaseSchedule .. | .updateSchedule .. | .keepPlan .. | .switchPlan ..
  | .updateSeats .. | .holdInvoice .. | .snapshotSeats .. | .correctSeats .. | .correctOverage ..
  | .finalizeInvoice .. => ((), w.stripe)

namespace PaymentWorld

variable (w : PaymentWorld) (choice : Choice)

def runQuery (query : Query) : Except Failure query.Res × PaymentWorld :=
  (if choice.fate = .delivered then .ok (w.db.answer query) else .error .database, w.tick)

/-- A command that fails writes nothing; a lost answer may hide a write. -/
def runCommand (enabled : Bool) (run : Nat) (command : Command) :
    Except Failure command.Res × PaymentWorld :=
  match w.db.execute enabled run w.steps w.clock choice.published command with
  | .error failure => (.error failure, w.tick)
  | .ok (answer, db) =>
      match choice.fate with
      | .delivered => (.ok answer, w.commit db)
      | .lostAfter => (.error .database, w.commit db)
      | .lostBefore => (.error .database, w.tick)

def runLookup (lookup : Lookup) : Except Failure lookup.Res × PaymentWorld :=
  (if choice.fate = .delivered then orFail (w.find choice lookup) .stripe else .error .stripe, w.tick)

/-- A request counts as sent whatever becomes of it. -/
def runSend (run : Nat) (guardedAt : Option Int) (request : Request) :
    Except Failure request.Reply × PaymentWorld :=
  let served := w.serve choice request
  match choice.fate with
  | .delivered => (.ok served.1, w.post run guardedAt request served.2)
  | .lostAfter => (.error .stripe, w.post run guardedAt request served.2)
  | .lostBefore => (.error .stripe, w.post run guardedAt request w.stripe)

end PaymentWorld

/-- The effect of one action. -/
def paymentExec (enabled : Bool) (run : Nat) (choice : Choice) : (act : PaymentAct) → PaymentWorld →
    Option (act.Res × PaymentWorld)
  | .now, w => some (w.clock, w.tick)
  | .query query, w => some (w.runQuery choice query)
  | .command command, w => some (w.runCommand choice enabled run command)
  | .lookup lookup, w => some (w.runLookup choice lookup)
  | .send guardedAt request, w => some (w.runSend choice run guardedAt request)

/-! ### The environment -/

/-- What happens beside the handlers: time passes, a Checkout session is completed or expires, a setup intent
or a subscription changes at Stripe, members and invitations come and go. -/
inductive PaymentDrift where
  | tick (elapsed : Nat)
  | session (id : Nat) (complete : Bool)
  | setupIntent (id : Nat) (intent : SetupIntent)
  | subscription (remote : RemoteSubscription)
  | seats (employees : Nat) (pendingInvitations : List Int)

def paymentDrift : PaymentDrift → PaymentWorld → Option PaymentWorld
  | .tick elapsed, w => some { w with clock := w.clock + elapsed }
  | .session id complete, w =>
      match w.stripe.sessions id with
      | some session =>
          if session.status = .opened then
            some { w with
              stripe.sessions := Function.update w.stripe.sessions id
                (some { session with status := if complete then .complete else .expired }) }
          else none
      | none => none
  | .setupIntent id intent, w =>
      match w.stripe.setupIntents id with
      | some before =>
          if before.succeeded then none
          else some { w with
            stripe.setupIntents := Function.update w.stripe.setupIntents id (some intent) }
      | none => some { w with
          stripe.setupIntents := Function.update w.stripe.setupIntents id (some intent) }
  | .subscription remote, w =>
      match w.stripe.subscriptions remote.id with
      | some before =>
          if remote.session = before.session ∧ (before.terminal → remote.terminal) then
            some { w with
              stripe.subscriptions := Function.update w.stripe.subscriptions remote.id (some remote) }
          else none
      | none => none
  | .seats employees pendingInvitations, w =>
      some (w.commit
        { w.db.bumpRevision with employees := employees, pendingInvitations := pendingInvitations })

end DataVault.Payments
