/-
Module: DataVault.Payments.Transition
Layer: Specification
Purpose: What one action of a payment handler can do to the world, said once. The handlers are reduced to
  these transitions in DataVault.Payments.Contract; every invariant of the billing world is then derived by
  cases on the transition, with what the acting run knew as premises.
Imports: DataVault.Payments.Machine
Trusted boundary: none
Main exports: Subscription.fenced, Grows, Consistent, SubscriptionUpdate.Allowed, Request.Known,
  PaymentStep, PaymentStep.grows, PaymentStep.consistent
-/
import DataVault.Payments.Machine

namespace DataVault.Subscriptions

open DataVault.Payments

/-- The part of the document that only the holder of the lease writes while payments are enabled: all but the
revision, the time of the next synchronization and the issue. -/
def Subscription.fenced (doc : Subscription) : Subscription :=
  { doc with
    revision := 0
    stripeNextSyncAt := none
    paymentSyncIssue := .none }

/-- The document without what a plan request changes on its way: the rest names the request. -/
def Subscription.planRequest (doc : Subscription) : Subscription :=
  { doc with
    paymentSyncIssue := .none
    stripeScheduleId := none
    stripePlanConfirmed := false
    stripePlanAttemptAt := none }

theorem Subscription.eq_of_fenced {stored doc : Subscription} (same : stored.fenced = doc.fenced) :
    stored =
      { doc with
        revision := stored.revision
        stripeNextSyncAt := stored.stripeNextSyncAt
        paymentSyncIssue := stored.paymentSyncIssue } := by
  calc stored
      = { stored.fenced with
          revision := stored.revision
          stripeNextSyncAt := stored.stripeNextSyncAt
          paymentSyncIssue := stored.paymentSyncIssue } := rfl
    _ = { doc.fenced with
          revision := stored.revision
          stripeNextSyncAt := stored.stripeNextSyncAt
          paymentSyncIssue := stored.paymentSyncIssue } := by rw [same]

/-- Two documents with the same fenced part agree in every field of it. -/
theorem Subscription.field_of_fenced {α : Type} {stored doc : Subscription} (field : Subscription → α)
    (blind : ∀ any : Subscription, field any.fenced = field any) (same : stored.fenced = doc.fenced) :
    field stored = field doc := by
  rw [← blind stored, same, blind]

end DataVault.Subscriptions

namespace DataVault.Payments

open DataVault.Control DataVault.Interleaving DataVault.Plans DataVault.Subscriptions

/-! ### Updates and the fenced part -/

theorem AttemptField.get_of_fenced (field : AttemptField) {stored doc : Subscription}
    (same : stored.fenced = doc.fenced) : field.get stored = field.get doc :=
  Subscription.field_of_fenced field.get (fun _ => by cases field <;> rfl) same

/-- An update changes two documents with the same fenced part in the same way. -/
theorem SubscriptionUpdate.apply_fenced (change : SubscriptionUpdate) {stored doc : Subscription}
    (same : stored.fenced = doc.fenced) : (change.apply stored).fenced = (change.apply doc).fenced := by
  rw [Subscription.eq_of_fenced same]
  cases change with
  | attemptAt field instant => cases field <;> rfl
  | _ => rfl

@[simp] theorem BillingDb.bumpRevision_fenced (db : BillingDb) :
    db.bumpRevision.subscription.fenced = db.subscription.fenced := rfl

@[simp] theorem BillingDb.apply_fenced (db : BillingDb) (change : SubscriptionUpdate) :
    (db.apply change).subscription.fenced = (change.apply db.subscription).fenced := rfl

theorem BillingDb.leasedTo_unique {db : BillingDb} {run other : Nat} (leased : db.leasedTo run)
    (alsoLeased : db.leasedTo other) : other = run := by
  unfold BillingDb.leasedTo at leased alsoLeased
  rw [leased] at alsoLeased
  exact (Option.some.inj alsoLeased).symm

/-! ### What only grows -/

/-- What every step of every run and of the environment leaves in place: time and the memory of the world go
forward, a Checkout session keeps all but its status and leaves `open` once, a succeeded setup intent does not
change, and a subscription keeps its session and stays ended once it has ended. -/
structure Grows (w w' : PaymentWorld) : Prop where
  clock : w.clock ≤ w'.clock
  steps : w.steps ≤ w'.steps
  past : ∀ db ∈ w.past, db ∈ w'.past
  canonical : ∀ commit ∈ w.db.canonical, commit ∈ w'.db.canonical
  rows : ∀ row ∈ w.db.usages.rows, ∃ row' ∈ w'.db.usages.rows, row'.identifier = row.identifier
  sent : ∀ request ∈ w.sent, request ∈ w'.sent
  session : ∀ id session, w.stripe.sessions id = some session →
    ∃ status, w'.stripe.sessions id = some { session with status := status } ∧
      (session.status ≠ .opened → status = session.status)
  setupIntent : ∀ id intent, w.stripe.setupIntents id = some intent → intent.succeeded = true →
    w'.stripe.setupIntents id = some intent
  subscription : ∀ id remote, w.stripe.subscriptions id = some remote →
    ∃ remote', w'.stripe.subscriptions id = some remote' ∧ remote'.session = remote.session ∧
      (remote.terminal → remote'.terminal)

namespace Grows

theorem refl (w : PaymentWorld) : Grows w w where
  clock := Int.le_refl _
  steps := Nat.le_refl _
  past _ mem := mem
  canonical _ mem := mem
  rows row mem := ⟨row, mem, rfl⟩
  sent _ mem := mem
  session _ session found := ⟨session.status, found, fun _ => rfl⟩
  setupIntent _ _ found _ := found
  subscription _ remote found := ⟨remote, found, rfl, id⟩

theorem trans {w₁ w₂ w₃ : PaymentWorld} (one : Grows w₁ w₂) (two : Grows w₂ w₃) : Grows w₁ w₃ where
  clock := Int.le_trans one.clock two.clock
  steps := Nat.le_trans one.steps two.steps
  past db mem := two.past db (one.past db mem)
  canonical commit mem := two.canonical commit (one.canonical commit mem)
  rows row mem := by
    obtain ⟨row', mem', same⟩ := one.rows row mem
    obtain ⟨row'', mem'', same'⟩ := two.rows row' mem'
    exact ⟨row'', mem'', same'.trans same⟩
  sent request mem := two.sent request (one.sent request mem)
  session id session found := by
    obtain ⟨status, found', kept⟩ := one.session id session found
    obtain ⟨status', found'', kept'⟩ := two.session id _ found'
    refine ⟨status', found'', fun closed => ?_⟩
    have same := kept closed
    exact (kept' (by rw [same]; exact closed)).trans same
  setupIntent id intent found succeeded :=
    two.setupIntent id intent (one.setupIntent id intent found succeeded) succeeded
  subscription id remote found := by
    obtain ⟨remote', found', same, ended⟩ := one.subscription id remote found
    obtain ⟨remote'', found'', same', ended'⟩ := two.subscription id remote' found'
    exact ⟨remote'', found'', same'.trans same, fun terminal => ended' (ended terminal)⟩

/-- A step that writes only to the database. -/
theorem of_commit {w : PaymentWorld} {db : BillingDb}
    (canonical : ∀ commit ∈ w.db.canonical, commit ∈ db.canonical)
    (rows : ∀ row ∈ w.db.usages.rows, ∃ row' ∈ db.usages.rows, row'.identifier = row.identifier) :
    Grows w (w.commit db) where
  clock := Int.le_refl _
  steps := Nat.le_succ _
  past _ mem := List.mem_cons_of_mem _ mem
  canonical := canonical
  rows := rows
  sent _ mem := mem
  session _ session found := ⟨session.status, found, fun _ => rfl⟩
  setupIntent _ _ found _ := found
  subscription _ remote found := ⟨remote, found, rfl, id⟩

end Grows

/-! ### Consistent worlds

Stripe issues ids and remembers keys, the database remembers snapshots; consistency says that the three agree. It is
what the later invariants take for granted about objects that a key or an id points to. -/

/-- Every Stripe object is stored under its own id, ids are numbers of past steps, an idempotency key points to
the object that its first use created, and the committed snapshots were received in past steps. -/
structure Consistent (w : PaymentWorld) : Prop where
  session : ∀ id session, w.stripe.sessions id = some session → session.id = id ∧ id < w.steps
  subscription : ∀ id remote, w.stripe.subscriptions id = some remote → remote.id = id ∧ id < w.steps
  sessionKey : ∀ operation use, w.stripe.sessionKeys operation = some use →
    ∃ status, w.stripe.sessions use.original.id = some { use.original with status := status } ∧
      use.original.operation = some operation
  subscriptionKey : ∀ session use, w.stripe.subscriptionKeys session = some use →
    use.original.session = session ∧ use.original.asOf < w.steps ∧
      ∃ remote, w.stripe.subscriptions use.original.id = some remote ∧ remote.session = session
  canonical : ∀ commit ∈ w.db.canonical, commit.remote.receivedAt < w.steps

/-! ### What a run knows when it acts -/

/-- The document, up to what others may write, was stored at some time. -/
def Recorded (w : PaymentWorld) (doc : Subscription) : Prop :=
  ∃ db ∈ w.past, db.subscription.fenced = doc.fenced

/-- The age check of a retry passed against the first attempt. -/
def Attempted (first guardedAt : Option Int) : Prop :=
  ∃ instant checkedAt, first = some instant ∧ guardedAt = some checkedAt ∧
    checkedAt - instant ≤ stripeRetryWindowMs

/-- No stored attempt lies in the future, of any document that was ever stored: an attempt is written with the clock of
its run. -/
def AttemptsPast (w : PaymentWorld) : Prop :=
  ∀ db ∈ w.past, ∀ (field : AttemptField) instant, field.get db.subscription = some instant → instant ≤ w.clock

/-- The age check of a retry passed against a first attempt that does not lie after it. -/
def Young (first guardedAt : Option Int) : Prop :=
  ∃ instant checkedAt, first = some instant ∧ guardedAt = some checkedAt ∧ instant ≤ checkedAt ∧
    checkedAt - instant ≤ stripeRetryWindowMs

/-- `attempt` let a request through against the first attempt of a document. -/
structure Passed (field : AttemptField) (doc : Subscription) (guardedAt : Option Int) (w : PaymentWorld) :
    Prop where
  recorded : Recorded w doc
  young : Young (field.get doc) guardedAt

/-- The attempt that a request of one of the four operations passed, under the operation or the session that its
key names. -/
def Request.Timed (guardedAt : Option Int) (w : PaymentWorld) : Request → Prop
  | .createCustomer .. => ∃ doc, Passed .customer doc guardedAt w
  | .createCheckoutSession operation .. =>
      ∃ doc, Passed .checkout doc guardedAt w ∧ doc.stripeCheckoutOperation = some operation
  | .createSubscription session .. =>
      ∃ doc, Passed .subscription doc guardedAt w ∧ doc.stripeCheckoutSessionId = some session
  | .cancelSubscription operation _ | .releaseSchedule operation _ | .createSchedule operation _
  | .updateSchedule operation .. | .keepPlan operation _ | .switchPlan operation .. =>
      ∃ doc, Passed .plan doc guardedAt w ∧ doc.stripeChangeOperation = operation ∧ doc.pendingPlanCode.isSome
  | .updateSeats .. | .holdInvoice .. | .snapshotSeats .. | .correctSeats .. | .correctOverage ..
  | .finalizeInvoice .. | .createMeterEvent .. => True

/-- A completed Checkout session whose setup intent has succeeded for a customer, with a payment method. -/
def PaidSetup (w : PaymentWorld) (session : Nat) (customer paymentMethod : Option Nat) : Prop :=
  ∃ checkout setupId setup, w.stripe.sessions session = some checkout ∧ checkout.status = .complete ∧
    checkout.setupIntent = some setupId ∧ w.stripe.setupIntents setupId = some setup ∧
    setup.succeeded = true ∧ setup.customer = customer ∧ setup.paymentMethod = paymentMethod

/-- What holds of the stored document, and of Stripe, when a run writes an update. -/
def SubscriptionUpdate.Allowed (w : PaymentWorld) (doc : Subscription) : SubscriptionUpdate → Prop
  | .attemptAt field instant => field.get doc = none ∧ instant ≤ w.clock
  | .customer _ => doc.stripeCustomerId = none
  | .forgetSubscription =>
      ∃ id remote, doc.stripeSubscriptionId = some id ∧ w.stripe.subscriptions id = some remote ∧
        remote.terminal
  | .checkoutSession id =>
      doc.stripeSubscriptionId = none ∧ doc.stripeCheckoutSessionId = none ∧
        ∃ session operation, w.stripe.sessions id = some session ∧ session.operation = some operation ∧
          doc.stripeCheckoutOperation = some operation
  | .planEmployees _ => doc.stripePlanEmployees = none
  | .checkoutEmployees _ => doc.stripeCheckoutEmployees = none
  | .subscription id =>
      doc.stripeSubscriptionId = none ∧
        ∃ remote, w.stripe.subscriptions id = some remote ∧ doc.stripeCheckoutSessionId = some remote.session
  | .reconciliationRequired | .schedule _ | .noSchedule | .planConfirmed => True
  | .checkoutOperation .. | .localPlan _ | .queuePlan _ | .canonical _ => False

/-- What holds of a usage row when a run writes to it. -/
def DeliveryUpdate.Allowed (strict : Prop) (run : Nat) (w : PaymentWorld) (identifier : UsageIdentifier) :
    DeliveryUpdate → Prop
  | .unresolved => strict → w.db.leasedTo run ∧
      ∀ row ∈ w.db.usages.rows, row.identifier = identifier → row.state = .pending
  | .firstAttempt instant => instant ≤ w.clock
  | .submitted _ => strict → w.db.leasedTo run

/-- What holds of a snapshot that a run still has to commit: Stripe has the subscription, and while the run
holds the lease nothing received later was committed. The last part separates a fresh response from the
original response of a create. -/
structure Retrieved (run : Nat) (remote : RemoteSubscription) (w : PaymentWorld) : Prop where
  known : ∃ current, w.stripe.subscriptions remote.id = some current ∧ current.session = remote.session
  received : remote.receivedAt < w.steps
  latest : w.db.leasedTo run → ∀ commit ∈ w.db.canonical, commit.remote.receivedAt < remote.receivedAt
  evaluated : remote.asOf = remote.receivedAt ∨
    remote.asOf ≤ remote.receivedAt ∧
      ∃ db ∈ w.past, db.subscription.stripeSubscriptionId = none ∧
        db.subscription.stripeCheckoutSessionId = some remote.session ∧
        (w.db.leasedTo run → w.db.canonical = db.canonical)

/-- A plan request for `target` that was stored under its operation, on the subscription it names. -/
structure PlanRequested (w : PaymentWorld) (doc : Subscription) (target : PlanCode)
    (operation : Option Nat) (subscription : Nat) : Prop where
  recorded : Recorded w doc
  target : doc.pendingPlanCode = some target
  operation : doc.stripeChangeOperation = operation
  subscription : doc.stripeSubscriptionId = some subscription

/-- The two phases of a downgrade that was requested by `doc`. -/
def DowngradePhases (doc : Subscription) (employees : Nat) (current next : RequestPhase) : Prop :=
  ∃ period : BillingPeriod, billingPeriod doc.activatedAt (current.endDate * 1000 + 1000) = some period ∧
    current.items = planItems .premium employees ∧ current.automaticAnchor = false ∧
    next =
      { startDate := current.endDate
        endDate := period.endsAt / 1000
        items := planItems .basic employees
        automaticAnchor := true }

/-- Where the parameters of a request come from: all of them from the configuration or from one recorded document, which
is what makes two requests under one key comparable. -/
def Request.Known (config : PaymentConfig) (guardedAt : Option Int) (w : PaymentWorld) : Request → Prop
  | .createCustomer email companyId =>
      (∃ db ∈ w.past, db.ownerEmail = some email) ∧ ∃ doc, Recorded w doc ∧ doc.companyId = companyId
  | .createCheckoutSession operation customer companyId planCode successUrl cancelUrl =>
      successUrl = config.checkoutSuccessUrl ∧ cancelUrl = config.checkoutCancelUrl ∧
      ∃ doc, Recorded w doc ∧ doc.stripeCheckoutOperation = some operation ∧
        doc.stripeCustomerId = some customer ∧ doc.companyId = companyId ∧
        doc.stripeCheckoutPlan = some planCode
  | .createSubscription session customer paymentMethod items anchor companyId =>
      PaidSetup w session customer paymentMethod ∧
      ∃ doc planCode employees, Recorded w doc ∧ doc.stripeSubscriptionId = none ∧
        doc.stripeCheckoutSessionId = some session ∧ doc.stripeCustomerId = customer ∧
        doc.stripeCheckoutPlan = some planCode ∧ doc.stripeCheckoutEmployees = some employees ∧
        Attempted doc.stripeSubscriptionAttemptAt guardedAt ∧ items = planItems planCode employees ∧
        anchor = anchorOf doc.activatedAt ∧ companyId = doc.companyId
  | .cancelSubscription operation subscription =>
      ∃ doc, PlanRequested w doc .free operation subscription
  | .createSchedule operation subscription =>
      ∃ doc, PlanRequested w doc .basic operation subscription
  | .updateSchedule operation _ current next =>
      ∃ doc subscription employees, PlanRequested w doc .basic operation subscription ∧
        doc.stripePlanEmployees = some employees ∧ DowngradePhases doc employees current next
  | .keepPlan operation subscription =>
      ∃ doc target, PlanRequested w doc target operation subscription ∧ target ≠ .free
  | .switchPlan operation subscription _ price quantity addOverage =>
      ∃ doc target employees, PlanRequested w doc target operation subscription ∧ target ≠ .free ∧
        doc.stripePlanEmployees = some employees ∧ price = priceOf target ∧
        quantity = (if target = .basic then employees else 1) ∧ addOverage = decide (target = .premium)
  | .createMeterEvent eventName identifier customerId quantity timestamp =>
      eventName = config.overageEventName ∧
      (∃ db ∈ w.past, ∃ row ∈ db.usages.rows, row.identifier = identifier ∧ row.customerId = customerId ∧
        row.quantity = quantity ∧ row.timestamp = timestamp) ∧
      ∃ db ∈ w.past, ∃ row ∈ db.usages.rows, row.identifier = identifier ∧
        Attempted row.firstAttemptAt guardedAt
  | .releaseSchedule .. | .updateSeats .. | .holdInvoice .. | .snapshotSeats .. | .correctSeats ..
  | .correctOverage .. | .finalizeInvoice .. => True

/-! ### The transitions

There are many commands and requests, but few things they do to the world: a write under the lease, a commit of a
snapshot, an upload, a write to one usage row, a change that concerns none of these, and what Stripe creates. Each
case carries as premises what the handler knew, so an invariant is proved by cases on the transition without looking
at a handler again. -/

/-- A change of the database that leaves the fenced part, the commits and the usage rows as they are. The
lease can only pass to `run`. -/
structure Quiet (run : Nat) (db db' : BillingDb) : Prop where
  fenced : db'.subscription.fenced = db.subscription.fenced
  lease : ∀ other, other ≠ run → db'.leasedTo other → db.leasedTo other
  canonical : db'.canonical = db.canonical
  usages : db'.usages = db.usages
  files : db'.files.length ≤ db.files.length
  ownerEmail : db'.ownerEmail = db.ownerEmail

/-- A committed upload: one file more, which fits the current plan and the queued one, and at most one usage
row more, which was not attempted yet. -/
structure Stores (db db' : BillingDb) : Prop where
  fenced : db'.subscription.fenced = db.subscription.fenced
  lease : db'.lease = db.lease
  canonical : db'.canonical = db.canonical
  usages : db'.usages = db.usages ∨
    ∃ row, row.state = .pending ∧ row.firstAttemptAt = none ∧ db.usages.insert row = some db'.usages
  files : db'.files.length = db.files.length + 1
  ownerEmail : db'.ownerEmail = db.ownerEmail
  fits : db.subscription.planCode.fitsFiles db'.files.length
  fitsTarget : db.subscription.targetPlan.fitsFiles db'.files.length

/-- What one action of `run` can do to the world. The invariants of the billing are derived from this and not from the
handlers: what a handler has checked before the action is in the hypotheses of its case. -/
inductive PaymentStep (config : PaymentConfig) (strict : Prop) (run : Nat) (w : PaymentWorld) :
    PaymentWorld → Prop where
  | idle : PaymentStep config strict run w w.tick
  | quiet {db : BillingDb} (unchanged : Quiet run w.db db) : PaymentStep config strict run w (w.commit db)
  | update {change : SubscriptionUpdate} (leased : w.db.leasedTo run)
      (allowed : change.Allowed w w.db.subscription) :
      PaymentStep config strict run w (w.commit (w.db.apply change))
  | rotate {planCode : PlanCode} (leased : w.db.leasedTo run)
      (unsubscribed : w.db.subscription.stripeSubscriptionId = none)
      (expired : ∀ id, w.db.subscription.stripeCheckoutSessionId = some id →
        ∃ session, w.stripe.sessions id = some session ∧ session.status = .expired) :
      PaymentStep config strict run w (w.commit (w.db.apply (.checkoutOperation w.steps planCode)))
  | localPlan {code : PlanCode} (leased : w.db.leasedTo run)
      (unsubscribed : w.db.subscription.stripeSubscriptionId = none)
      (fits : Payments.localPlan w.db.company code w.clock = .ok ()) :
      PaymentStep config strict run w (w.commit (w.db.bumpRevision.apply (.localPlan code)))
  | queuePlan {doc : Subscription} {code : PlanCode} {queued : QueuedPlan} (leased : w.db.leasedTo run)
      (subscribed : w.db.subscription.stripeSubscriptionId.isSome)
      (same : w.db.subscription.fenced = doc.fenced)
      (queues : Payments.queuePlan w.db.company doc code w.steps w.clock = .ok (some queued)) :
      PaymentStep config strict run w (w.commit (w.db.bumpRevision.apply (.queuePlan queued)))
  | canonical {doc : Subscription} {status : StripeSubscriptionStatus} {remote : RemoteSubscription}
      {draftsHeld : Bool} {fields : CanonicalFields} {events : List Nat} (leased : w.db.leasedTo run)
      (subscribed : w.db.subscription.stripeSubscriptionId = some remote.id)
      (same : w.db.subscription.fenced = doc.fenced) (retrieved : Retrieved run remote w)
      (computed : canonicalFields w.db.company doc status remote draftsHeld w.clock = .ok fields) :
      PaymentStep config strict run w (w.commit
        { w.db.bumpRevision.apply (.canonical fields) with
          events := events
          canonical :=
            { run := run
              instant := w.clock
              remote := remote
              draftsHeld := draftsHeld
              company := w.db.company
              after := (w.db.bumpRevision.apply (.canonical fields)).subscription } :: w.db.canonical })
  | usage {identifier : UsageIdentifier} {delivery : DeliveryUpdate}
      (allowed : delivery.Allowed strict run w identifier) :
      PaymentStep config strict run w
        (w.commit { w.db with usages := w.db.usages.update identifier delivery })
  | stored {db : BillingDb} (stores : Stores w.db db) : PaymentStep config strict run w (w.commit db)
  | planChanged {code : PlanCode} {changed : Subscription} {changedAt : Int} {pending : Nat}
      (disabled : config.enabled = false)
      (changes : Subscriptions.changePlan w.db.bumpRevision.subscription code changedAt w.db.employees
        pending w.db.files.length = .ok changed) :
      PaymentStep config strict run w (w.commit { w.db.bumpRevision with subscription := changed })
  | sent {guardedAt : Option Int} {request : Request} (known : request.Known config guardedAt w) :
      PaymentStep config strict run w (w.post run guardedAt request w.stripe)
  | opened {guardedAt : Option Int} {operation customer companyId : Nat} {planCode : PlanCode}
      {successUrl cancelUrl : String} {session : CheckoutSession}
      (known : (Request.createCheckoutSession operation customer companyId planCode successUrl
        cancelUrl).Known config guardedAt w)
      (id : session.id = w.steps) (named : session.operation = some operation) :
      PaymentStep config strict run w (w.post run guardedAt
        (.createCheckoutSession operation customer companyId planCode successUrl cancelUrl)
        (w.stripe.addSession session operation w.clock))
  | subscribed {guardedAt : Option Int} {companyId : Nat} {customer paymentMethod : Option Nat}
      {items : List RequestItem} {anchor : AnchorConfig} {remote : RemoteSubscription} {forgotten : Bool}
      (known : (Request.createSubscription remote.session customer paymentMethod items anchor
        companyId).Known config guardedAt w)
      (id : remote.id = w.steps) (evaluated : remote.asOf = w.steps)
      (unused : KeyUse.replay (w.stripe.subscriptionKeys remote.session) forgotten w.clock = none) :
      PaymentStep config strict run w (w.post run guardedAt
        (.createSubscription remote.session customer paymentMethod items anchor companyId)
        (w.stripe.addSubscription remote w.clock))

/-- A world in which nothing was created and nothing committed. -/
theorem Consistent.of_empty {w : PaymentWorld} (stripe : w.stripe = {}) (canonical : w.db.canonical = []) :
    Consistent w := by
  constructor
  case canonical =>
    intro commit mem
    rw [canonical] at mem
    cases mem
  all_goals
    intro _ _ found
    rw [stripe] at found
    cases found

/-- Consistency of a world with the same Stripe, no fewer steps, and commits that were received before. -/
theorem Consistent.of_same {w w' : PaymentWorld} (consistent : Consistent w)
    (stripe : w'.stripe = w.stripe) (steps : w.steps ≤ w'.steps)
    (canonical : ∀ commit ∈ w'.db.canonical, commit.remote.receivedAt < w'.steps) : Consistent w' where
  session id session found := by
    rw [stripe] at found
    exact ⟨(consistent.session id session found).1,
      Nat.lt_of_lt_of_le (consistent.session id session found).2 steps⟩
  subscription id remote found := by
    rw [stripe] at found
    exact ⟨(consistent.subscription id remote found).1,
      Nat.lt_of_lt_of_le (consistent.subscription id remote found).2 steps⟩
  sessionKey operation use used := by
    rw [stripe] at used ⊢
    exact consistent.sessionKey operation use used
  subscriptionKey session use used := by
    rw [stripe] at used ⊢
    obtain ⟨same, evaluated, created⟩ := consistent.subscriptionKey session use used
    exact ⟨same, Nat.lt_of_lt_of_le evaluated steps, created⟩
  canonical := canonical

namespace PaymentStep

variable {config : PaymentConfig} {strict : Prop} {run : Nat} {w w' : PaymentWorld}

/-- A transition that writes to the database keeps every row, up to its delivery state. -/
theorem update_rows (table : UsageTable) (identifier : UsageIdentifier) (delivery : DeliveryUpdate) :
    ∀ row ∈ table.rows, ∃ row' ∈ (table.update identifier delivery).rows,
      row'.identifier = row.identifier := by
  intro row mem
  refine ⟨_, List.mem_map_of_mem mem, ?_⟩
  split <;> simp

theorem insert_rows {table table' : UsageTable} {row : StripeUsage}
    (inserted : table.insert row = some table') : table'.rows = row :: table.rows := by
  unfold UsageTable.insert at inserted
  split at inserted
  · cases inserted
    rfl
  · cases inserted

theorem grows (step : PaymentStep config strict run w w') (consistent : Consistent w) : Grows w w' := by
  cases step with
  | idle =>
      exact { Grows.refl w with steps := Nat.le_succ _ }
  | quiet unchanged =>
      refine Grows.of_commit (fun _ mem => ?_) (fun row mem => ⟨row, ?_, rfl⟩)
      · rwa [unchanged.canonical]
      · rwa [unchanged.usages]
  | update | rotate | localPlan | queuePlan | planChanged =>
      exact Grows.of_commit (fun _ mem => mem) (fun row mem => ⟨row, mem, rfl⟩)
  | canonical =>
      exact Grows.of_commit (fun _ mem => List.mem_cons_of_mem _ mem) (fun row mem => ⟨row, mem, rfl⟩)
  | usage => exact Grows.of_commit (fun _ mem => mem) (update_rows _ _ _)
  | stored stores =>
      refine Grows.of_commit (fun _ mem => ?_) (fun row mem => ⟨row, ?_, rfl⟩)
      · rwa [stores.canonical]
      · rcases stores.usages with same | ⟨_, _, _, inserted⟩
        · rwa [same]
        · rw [insert_rows inserted]
          exact List.mem_cons_of_mem _ mem
  | sent =>
      exact { Grows.refl w with
        steps := Nat.le_succ _
        sent := fun _ mem => List.mem_cons_of_mem _ mem }
  | @opened _ _ _ _ _ _ _ session _ id _ =>
      refine { Grows.refl w with
        steps := Nat.le_succ _
        sent := fun _ mem => List.mem_cons_of_mem _ mem
        session := fun other found there => ?_ }
      have old : other ≠ session.id := by
        have := (consistent.session other found there).2
        omega
      exact ⟨found.status, by simpa [old] using there, fun _ => rfl⟩
  | @subscribed _ _ _ _ _ _ remote _ _ id _ _ =>
      refine { Grows.refl w with
        steps := Nat.le_succ _
        sent := fun _ mem => List.mem_cons_of_mem _ mem
        subscription := fun other found there => ?_ }
      have old : other ≠ remote.id := by
        have := (consistent.subscription other found there).2
        omega
      exact ⟨found, by simpa [old] using there, rfl, fun ended => ended⟩

/-- Every transition leaves a consistent world. -/
theorem consistent (step : PaymentStep config strict run w w') (before : Consistent w) :
    Consistent w' := by
  have older : ∀ commit ∈ w.db.canonical, commit.remote.receivedAt < w.steps + 1 :=
    fun commit mem => Nat.lt_succ_of_lt (before.canonical commit mem)
  cases step with
  | idle | update | rotate | localPlan | queuePlan | planChanged | usage | sent =>
      exact before.of_same rfl (Nat.le_succ _) older
  | quiet unchanged =>
      exact before.of_same rfl (Nat.le_succ _) fun commit mem =>
        older commit (by rwa [← unchanged.canonical])
  | stored stores =>
      exact before.of_same rfl (Nat.le_succ _) fun commit mem =>
        older commit (by rwa [← stores.canonical])
  | canonical _ _ _ retrieved _ =>
      refine before.of_same rfl (Nat.le_succ _) fun commit mem => ?_
      rcases List.mem_cons.mp mem with rfl | mem
      · exact Nat.lt_succ_of_lt retrieved.received
      · exact older commit mem
  | @opened _ operation _ _ _ _ _ session _ id named =>
      have idle : Consistent w.tick := before.of_same rfl (Nat.le_succ _) older
      refine { idle with session := ?_, sessionKey := ?_ }
      · intro other found there
        by_cases new : other = session.id
        · subst new
          have : session = found := by simpa using there
          subst this
          exact ⟨rfl, by rw [id]; exact Nat.lt_succ_self _⟩
        · exact idle.session other found (by simpa [new] using there)
      · intro other use used
        by_cases new : other = operation
        · subst new
          have : ⟨w.clock, session⟩ = use := by
            simpa using used
          subst this
          exact ⟨session.status, by simp, named⟩
        · obtain ⟨status, there, kept⟩ := idle.sessionKey other use
            (by simpa [new] using used)
          have old : use.original.id ≠ session.id := by
            have := (before.session _ _ there).2
            omega
          exact ⟨status, by simpa [old] using there, kept⟩
  | @subscribed _ _ _ _ _ _ remote _ _ id evaluated _ =>
      have idle : Consistent w.tick := before.of_same rfl (Nat.le_succ _) older
      refine { idle with subscription := ?_, subscriptionKey := ?_ }
      · intro other found there
        by_cases new : other = remote.id
        · subst new
          have : remote = found := by simpa using there
          subst this
          exact ⟨rfl, by rw [id]; exact Nat.lt_succ_self _⟩
        · exact idle.subscription other found
            (by simpa [new] using there)
      · intro other use used
        by_cases new : other = remote.session
        · subst new
          have : ⟨w.clock, remote⟩ = use := by
            simpa using used
          subst this
          exact ⟨rfl, by rw [evaluated]; exact Nat.lt_succ_self _,
            remote, by simp, rfl⟩
        · obtain ⟨same, past, current, there, kept⟩ := idle.subscriptionKey other use
            (by simpa [new] using used)
          have old : use.original.id ≠ remote.id := by
            have := (before.subscription _ _ there).2
            omega
          exact ⟨same, past, current,
            by simpa [old] using there, kept⟩

end PaymentStep

end DataVault.Payments
