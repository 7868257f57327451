/-
Module: DataVault.Payments.Service
Layer: Model
Purpose: The methods of payments/payments.service.ts that change something, statement by statement, as
  processes over the actions of DataVault.Payments.World. The document in memory is a value: what a method
  assigns to it is what the method returns. `portal` and `current`, which change nothing of the company's
  billing, are left out.
Imports: Mathlib.Algebra.GroupWithZero.Nat, Mathlib.Algebra.Ring.Int.Defs, DataVault.Interleaving.Process,
  DataVault.Payments.World, DataVault.Users.Entity
Trusted boundary: human-reviewed spec
Main exports: PaymentConfig, PaymentHandler, withLease, update, attempt, checkout, changePlan,
  performPlanRequest, submitUsage, reconcileDraft, synchronize, completeCheckout, reconcileCompany
-/
import Mathlib.Algebra.GroupWithZero.Nat
import Mathlib.Algebra.Ring.Int.Defs
import DataVault.Interleaving.Process
import DataVault.Payments.World
import DataVault.Users.Entity

namespace DataVault.Payments

open DataVault.Control DataVault.Interleaving DataVault.Plans DataVault.Subscriptions DataVault.Users

/-- The settings the methods read. Price ids are those of `PriceId`. -/
structure PaymentConfig where
  enabled : Bool
  checkoutSuccessUrl : String
  checkoutCancelUrl : String
  overageEventName : String
  overageMeterId : Nat
  syncIntervalMs : Int

abbrev PaymentHandler (α : Type) := ExceptT Failure (Process PaymentAct PaymentAct.Res) α

/-! ### Single actions -/

/-- Awaits one action. -/
def await (act : PaymentAct) : Process PaymentAct PaymentAct.Res act.Res := Process.call act

def readClock : PaymentHandler Int := liftM (await .now)

def query (read : Query) : PaymentHandler read.Res := ExceptT.mk (await (.query read))

def write (command : Command) : PaymentHandler command.Res := ExceptT.mk (await (.command command))

def lookup (read : Lookup) : PaymentHandler read.Res := ExceptT.mk (await (.lookup read))

def send (guardedAt : Option Int) (request : Request) : PaymentHandler request.Reply :=
  ExceptT.mk (await (.send guardedAt request))

/-- A check without an await; a failure is thrown. -/
def check {α : Type} (outcome : Except Failure α) : PaymentHandler α := liftExcept outcome

/-! ### Leases and guarded writes -/

/-- `withLease`. The company of the caller has a subscription, so a lease that is not acquired is busy. -/
def withLease {α : Type} (work : Subscription → PaymentHandler α) : PaymentHandler α := do
  let now ← readClock
  match ← write (.acquireLease now) with
  | none => throw (.companyLeaseBusy "Billing synchronization is in progress; retry shortly")
  | some doc => Process.withCleanup (work doc) (write .releaseLease)

/-- `update` outside a transaction. -/
def update (doc : Subscription) (change : SubscriptionUpdate) : PaymentHandler Subscription := do
  if ← write (.update doc change) then pure (change.apply doc) else throw leaseExpired

/-- `renewLease`, also as it is spelled out in `submitUsage`. -/
def renewLease : PaymentHandler Unit := do
  let now ← readClock
  if ← write (.renewLease now) then pure ()
  else throw (.companyLeaseBusy "Billing lease expired; retry")

/-- `attempt`. The second result is the time of its check. -/
def attempt (doc : Subscription) (field : AttemptField) : PaymentHandler (Subscription × Int) := do
  let now ← readClock
  match field.get doc with
  | some first =>
      if now - first > stripeRetryWindowMs then
        let _ ← update doc .reconciliationRequired
        throw (.conflict "Ambiguous Stripe operation requires reconciliation before retry")
      else pure (doc, now)
  | none => do
      let doc ← update doc (.attemptAt field now)
      pure (doc, now)

/-! ### Checks -/

/-- `owner`. -/
def owner (config : PaymentConfig) (actor : AuthenticatedUser) : Except Failure Unit := do
  require (actor.role = .companyOwner) (.forbidden "Company owner access is required")
  require config.enabled (.serviceUnavailable "Test Mode payments are not configured")

/-- `assertPlanFits` outside a transaction: three separate counts. -/
def planFitsNow (code : PlanCode) : PaymentHandler Nat := do
  let now ← readClock
  let employees ← query .countEmployees
  let pending ← query (.countInvitations now)
  let files ← query .countFiles
  check (assertPlanFits code employees pending files)

/-- `compatible`. -/
def compatible (price : Price) (cents : Nat) (usage : String) : Bool :=
  !price.livemode && price.active && price.currency = "usd" && price.unitAmount = some cents &&
    price.billingScheme = "per_unit" && !price.transformQuantity &&
    price.recurring.any fun recurring =>
      recurring.interval = "month" && recurring.intervalCount = 1 && recurring.usageType = usage

/-- The comparison of `validateCatalog`. -/
def catalogMatches (config : PaymentConfig) (catalog : Catalog) : Bool :=
  compatible catalog.basic (planCatalog .basic).employeePriceCents "licensed" &&
    compatible catalog.premium (planCatalog .premium).basePriceCents "licensed" &&
    compatible catalog.overage ((planCatalog .premium).extraFilePriceCents.getD 0) "metered" &&
    catalog.overage.recurring.bind (·.meter) = some catalog.meter.id &&
    !catalog.meter.livemode && catalog.meter.status = "active" &&
    catalog.meter.eventName = config.overageEventName &&
    catalog.meter.aggregationFormula = "sum" &&
    catalog.meter.customerPayloadKey = "stripe_customer_id" &&
    catalog.meter.valuePayloadKey = "value"

def validateCatalog (config : PaymentConfig) : PaymentHandler Unit := do
  let catalog ← lookup .catalog
  check (require (catalogMatches config catalog)
    (.paymentSyncValidation "Stripe Test Mode catalog does not match DataVault plans"))

/-- A monthly price of a Test Mode catalog. -/
def monthlyPrice (cents : Nat) (usageType : String) (meter : Option Nat) : Price where
  livemode := false
  active := true
  currency := "usd"
  unitAmount := some cents
  billingScheme := "per_unit"
  transformQuantity := false
  recurring := some ⟨"month", 1, usageType, meter⟩

/-- The catalog that the plans ask for. -/
def expectedCatalog (config : PaymentConfig) : Catalog where
  basic := monthlyPrice 500 "licensed" none
  premium := monthlyPrice 30000 "licensed" none
  overage := monthlyPrice 50 "metered" (some config.overageMeterId)
  meter :=
    { id := config.overageMeterId
      livemode := false
      status := "active"
      eventName := config.overageEventName
      aggregationFormula := "sum"
      customerPayloadKey := "stripe_customer_id"
      valuePayloadKey := "value" }

theorem catalogMatches_expected (config : PaymentConfig) : catalogMatches config (expectedCatalog config) := by
  simp [catalogMatches, expectedCatalog, monthlyPrice, compatible, planCatalog]

/-- `safeApi` passes the service's own exceptions on and hides all others. -/
def safeFailure : Failure → Failure
  | .stripe | .database | .duplicateKey | .invalidBillingPeriod | .internalServerError _ =>
      .serviceUnavailable "Stripe Test Mode request temporarily unavailable"
  | failure => failure

def safeApi {α : Type} (work : PaymentHandler α) : PaymentHandler α :=
  Process.recover work fun failure => throw (safeFailure failure)

/-! ### Checkout -/

def customer (doc : Subscription) : PaymentHandler (Subscription × Nat) := do
  match doc.stripeCustomerId with
  | some id => pure (doc, id)
  | none => do
      let email ← check (orFail (← query .ownerEmail) (.notFound "Company owner not found"))
      let (doc, checkedAt) ← attempt doc .customer
      let created ← send (some checkedAt) (.createCustomer email doc.companyId)
      check (require (!created.livemode)
        (.paymentSyncValidation "Only Stripe Test Mode is supported"))
      let doc ← update doc (.customer created.id)
      pure (doc, created.id)

/-- The part of `checkout` that lets go of an ended subscription. -/
def forgetEnded (doc : Subscription) : PaymentHandler Subscription := do
  match doc.stripeSubscriptionId with
  | none => pure doc
  | some id => do
      let previous ← lookup (.subscription id false)
      let _ ← check (validateRemote doc previous)
      check (require (isTerminalStripeStatus previous.status)
        (.conflict "Existing Stripe subscription is not canceled"))
      update doc .forgetSubscription

/-- The part of `checkout` that looks at the stored session: the url of one that is still open, nothing where
a new one is needed. -/
def openSession (doc : Subscription) (planCode : PlanCode) : PaymentHandler (Option String) := do
  match doc.stripeCheckoutSessionId with
  | none => pure none
  | some id => do
      let existing ← lookup (.session id)
      match existing.status with
      | .opened => do
          check (require (doc.stripeCheckoutPlan = some planCode)
            (.conflict "An existing Checkout session must finish or expire first"))
          pure (some existing.url)
      | .complete => do
          check (require doc.stripeSubscriptionId.isSome
            (.conflict "Checkout completion is being synchronized"))
          pure none
      | .expired => pure none

/-- The operation of the session to create: the stored one while it has the same plan and no session yet,
otherwise a new one. -/
def checkoutOperation (doc : Subscription) (planCode : PlanCode) :
    PaymentHandler (Subscription × Nat) :=
  match doc.stripeCheckoutOperation with
  | some operation =>
      if doc.stripeCheckoutPlan = some planCode ∧ doc.stripeCheckoutSessionId = none then
        pure (doc, operation)
      else rotate
  | none => rotate
where
  rotate : PaymentHandler (Subscription × Nat) := do
    match ← write (.rotateCheckout doc planCode) with
    | none => throw leaseExpired
    | some operation =>
        pure ((SubscriptionUpdate.checkoutOperation operation planCode).apply doc, operation)

/-- `checkout`; the answer is the url. -/
def checkout (config : PaymentConfig) (actor : AuthenticatedUser) (planCode : PlanCode) :
    PaymentHandler String := do
  check (owner config actor)
  check (require (planCode ≠ .free) (.badRequest "Free does not require Checkout"))
  safeApi <| withLease fun doc => do
    validateCatalog config
    check (require (doc.stripeSubscriptionId.isNone || isTerminalStripeStatus doc.stripeStatus)
      (.conflict "Use the plan-change endpoint for an existing Stripe subscription"))
    let doc ← forgetEnded doc
    let _ ← planFitsNow planCode
    let (doc, customerId) ← customer doc
    match ← openSession doc planCode with
    | some url => pure url
    | none => do
        let (doc, operation) ← checkoutOperation doc planCode
        let (doc, checkedAt) ← attempt doc .checkout
        let created ← send (some checkedAt) (.createCheckoutSession operation customerId doc.companyId
          planCode config.checkoutSuccessUrl config.checkoutCancelUrl)
        let _ ← update doc (.checkoutSession created.id)
        pure created.url

/-! ### Plan requests -/

/-- The stored schedule follows the active one. -/
def followSchedule (doc : Subscription) (active : Option Nat) : PaymentHandler Subscription :=
  match active with
  | some schedule =>
      if doc.stripeScheduleId = some schedule then pure doc else update doc (.schedule schedule)
  | none => if doc.stripeScheduleId = none then pure doc else update doc .noSchedule

/-- The cancellation that a request for Free sends. -/
def cancelPlan (doc : Subscription) (checkedAt : Int) (subscription : Nat) :
    PaymentHandler Subscription := do
  match doc.stripeScheduleId with
  | some schedule => send (some checkedAt) (.releaseSchedule doc.stripeChangeOperation schedule)
  | none => pure ()
  send (some checkedAt) (.cancelSubscription doc.stripeChangeOperation subscription)
  let doc ← update doc .noSchedule
  update doc .planConfirmed

/-- The employee count that all attempts of one request share. -/
def planEmployees (doc : Subscription) : PaymentHandler (Subscription × Nat) := do
  match doc.stripePlanEmployees with
  | some employees => pure (doc, employees)
  | none => do
      let employees ← query .countEmployees
      let doc ← update doc (.planEmployees employees)
      pure (doc, employees)

/-- The release of a schedule that is not needed for the target. -/
def releaseUnneeded (doc : Subscription) (checkedAt : Int) (target currentPlan : PlanCode) :
    PaymentHandler Subscription := do
  match doc.stripeScheduleId with
  | some schedule =>
      if target ≠ .basic ∨ target = currentPlan then do
        send (some checkedAt) (.releaseSchedule doc.stripeChangeOperation schedule)
        update doc .noSchedule
      else pure doc
  | none => pure doc

/-- The schedule of a downgrade, retrieved or created. -/
def downgradeSchedule (doc : Subscription) (checkedAt : Int) (subscription : Nat) :
    PaymentHandler (Subscription × Schedule) := do
  match doc.stripeScheduleId with
  | some id => do
      let schedule ← lookup (.schedule id)
      pure (doc, schedule)
  | none => do
      let schedule ← send (some checkedAt) (.createSchedule doc.stripeChangeOperation subscription)
      let doc ← update doc (.schedule schedule.id)
      pure (doc, schedule)

/-- The downgrade from Premium to Basic at the end of the period. -/
def scheduleDowngrade (doc : Subscription) (checkedAt : Int) (subscription employees : Nat)
    (currentPlan target : PlanCode) : PaymentHandler Subscription := do
  let (doc, schedule) ← downgradeSchedule doc checkedAt subscription
  let phase ← check (orFail schedule.currentPhase
    (.serviceUnavailable "Stripe schedule has no current phase"))
  let next ← check (orFail (billingPeriod doc.activatedAt (phase.endDate * 1000 + 1000))
    .invalidBillingPeriod)
  send (some checkedAt) (.updateSchedule doc.stripeChangeOperation schedule.id
    { startDate := phase.startDate
      endDate := phase.endDate
      items := planItems currentPlan employees
      automaticAnchor := false }
    { startDate := phase.endDate
      endDate := next.endsAt / 1000
      items := planItems target employees
      automaticAnchor := true })
  update doc .planConfirmed

/-- The change of a subscription's price in place. -/
def switchPlan (doc : Subscription) (checkedAt : Int) (remote : RemoteSubscription)
    (currentPlan target : PlanCode) (employees : Nat) : PaymentHandler Subscription := do
  let licensed ← check (orFail (remote.items.find? fun item => item.price = priceOf currentPlan)
    (.internalServerError "Cannot read properties of undefined (reading 'id')"))
  send (some checkedAt) (.switchPlan doc.stripeChangeOperation remote.id licensed.id (priceOf target)
    (if target = .basic then employees else 1) (target = .premium))
  update doc .planConfirmed

/-- `performPlanRequest`. -/
def performPlanRequest (config : PaymentConfig) (doc : Subscription) : PaymentHandler Subscription := do
  match doc.pendingPlanCode, doc.stripeSubscriptionId with
  | some target, some id =>
      if doc.stripePlanConfirmed then pure doc
      else do
        let remote ← lookup (.subscription id false)
        let _ ← check (validateRemote doc remote)
        if isTerminalStripeStatus remote.status then pure doc
        else do
          let currentPlan ← check (remotePlan remote)
          let doc ← followSchedule doc remote.schedule
          let now ← readClock
          if currentPlan = .premium ∧ target = .basic ∧ doc.pendingPlanAt.any (· ≤ now) then do
            let _ ← update doc .reconciliationRequired
            throw (.conflict
              "Queued plan change missed its anniversary; choose the current plan to reset the request before retrying")
          else do
            let (doc, checkedAt) ← attempt doc .plan
            if target = .free then cancelPlan doc checkedAt remote.id
            else do
              validateCatalog config
              let (doc, employees) ← planEmployees doc
              let doc ← releaseUnneeded doc checkedAt target currentPlan
              if currentPlan = .premium ∧ target = .basic then
                scheduleDowngrade doc checkedAt remote.id employees currentPlan target
              else if currentPlan = target then do
                send (some checkedAt) (.keepPlan doc.stripeChangeOperation remote.id)
                update doc .planConfirmed
              else switchPlan doc checkedAt remote currentPlan target employees
  | _, _ => pure doc

/-! ### Metered usage -/

/-- The age check of a usage row: its first attempt or its timestamp lies too far back. -/
def usageTooOld (usage : StripeUsage) (now : Int) : Bool :=
  usage.firstAttemptAt.any (fun first => now - first > stripeRetryWindowMs) ||
    now - usage.timestamp * 1000 > 35 * 86400 * 1000

/-- The loop of `submitUsage`. -/
def submitRows (config : PaymentConfig) : List StripeUsage → Subscription → PaymentHandler Subscription
  | [], doc => pure doc
  | usage :: rest, doc => do
      let checkedAt ← readClock
      if usageTooOld usage checkedAt then do
        write (.usage usage.identifier .unresolved)
        let doc ← update doc .reconciliationRequired
        submitRows config rest doc
      else do
        if usage.firstAttemptAt = none then do
          let now ← readClock
          write (.usage usage.identifier (.firstAttempt now))
        else pure ()
        renewLease
        let delivered ← send (some checkedAt) (.createMeterEvent config.overageEventName
          usage.identifier usage.customerId usage.quantity usage.timestamp)
        check (require (!delivered.livemode && delivered.identifier = usage.identifier)
          (.paymentSyncValidation "Meter event confirmation is invalid"))
        let now ← readClock
        write (.usage usage.identifier (.submitted now))
        submitRows config rest doc

def submitUsage (config : PaymentConfig) (doc : Subscription) : PaymentHandler Subscription := do
  let pending ← query .pendingUsage
  submitRows config pending doc

/-- The quantities of a list of rows, where all of them are delivered. -/
def deliveredQuantity (rows : List StripeUsage) : Option Int :=
  if rows.any fun row => row.state ≠ .submitted then none
  else some ((rows.map (·.quantity)).sum)

/-! ### Invoices -/

/-- The overage line of a draft: `false` holds the invoice. -/
def reconcileOverage (config : PaymentConfig) (doc : Subscription) (invoice : Nat) (line : InvoiceLine) :
    PaymentHandler Bool := do
  let window := lineWindow line.periodStart line.periodEnd
  let rows ← query (.usageBetween window.start window.stop)
  match deliveredQuantity rows with
  | none => pure false
  | some expected => do
      let summaries ← lookup (.eventSummaries config.overageMeterId doc.stripeCustomerId window.start
        window.stop)
      let aggregated := summaries.sum
      if !isSafeInteger aggregated || aggregated != expected then pure false
      else do
        if line.quantity = some expected then pure ()
        else send none (.correctOverage invoice line.id expected)
        pure true

/-- The loop of `reconcileDraft`. -/
def reconcileLines (config : PaymentConfig) (doc : Subscription) (invoice employees : Nat) :
    List InvoiceLine → PaymentHandler Bool
  | [] => pure true
  | line :: rest => do
      if line.price = some .basic ∧ line.quantity ≠ some (employees : Int) then
        send none (.correctSeats invoice line.id employees)
      else pure ()
      if line.price = some .overage then do
        if ← reconcileOverage config doc invoice line then
          reconcileLines config doc invoice employees rest
        else pure false
      else reconcileLines config doc invoice employees rest

/-- The seat count of a draft: the one in its metadata, or a snapshot that is stored there first. -/
def invoiceEmployees (invoice : Invoice) : PaymentHandler Nat := do
  match invoice.seatSnapshot with
  | .employees count => pure count
  | .invalid => throw (.paymentSyncValidation "Invoice seat snapshot is invalid")
  | .missing => do
      let employees ← write .employeeSnapshot
      send none (.snapshotSeats invoice.id employees)
      pure employees

/-- `reconcileDraft`. -/
def reconcileDraft (config : PaymentConfig) (doc : Subscription) (invoice : Invoice) :
    PaymentHandler Bool := do
  if invoice.status ≠ some .draft ∨ invoice.livemode ∨ invoice.customer ≠ doc.stripeCustomerId ∨
      invoice.subscription ≠ doc.stripeSubscriptionId then pure true
  else do
    if invoice.autoAdvance then send none (.holdInvoice invoice.id) else pure ()
    let employees ← invoiceEmployees invoice
    let lines ← lookup (.lineItems invoice.id)
    check (require (!lines.hasMore)
      (.serviceUnavailable "Invoice reconciliation requires manual review"))
    if ← reconcileLines config doc invoice.id employees lines.data then do
      send none (.finalizeInvoice invoice.id)
      pure true
    else pure false

/-- The loop over the drafts in `synchronize`: whether one of them is held. -/
def reconcileDrafts (config : PaymentConfig) (doc : Subscription) :
    List Invoice → Bool → PaymentHandler Bool
  | [], held => pure held
  | invoice :: rest, held => do
      renewLease
      let reconciled ← reconcileDraft config doc invoice
      reconcileDrafts config doc rest (held || !reconciled)

/-- The loop of `verifyFinalizedUsage`. -/
def verifyLines : List InvoiceLine → PaymentHandler Bool
  | [] => pure true
  | line :: rest => do
      if line.price = some .overage then do
        let window := lineWindow line.periodStart line.periodEnd
        let rows ← query (.usageBetween window.start window.stop)
        if deliveredQuantity rows = none ∨ line.quantity ≠ deliveredQuantity rows then pure false
        else verifyLines rest
      else verifyLines rest

/-- `verifyFinalizedUsage`. -/
def verifyFinalizedUsage (doc : Subscription) (invoice : Invoice) : PaymentHandler Bool := do
  if invoice.subscription ≠ doc.stripeSubscriptionId ∨ invoice.status = some .void then pure true
  else do
    let lines ← lookup (.lineItems invoice.id)
    if lines.hasMore then pure false else verifyLines lines.data

/-! ### Synchronization -/

/-- `applyCanonical`. -/
def applyCanonical (doc : Subscription) (remote : RemoteSubscription) (event : Option Nat)
    (draftsHeld : Bool) : PaymentHandler Subscription := do
  let status ← check (validateRemote doc remote)
  let fields ← write (.applyCanonical doc status remote event draftsHeld)
  pure ((SubscriptionUpdate.canonical fields).apply doc)

/-- The part of `synchronize` that brings the seats of an active Basic subscription up to date. -/
def synchronizeSeats (doc : Subscription) (remote : RemoteSubscription) :
    PaymentHandler RemoteSubscription := do
  if remote.status = some .active then do
    let plan ← check (remotePlan remote)
    match plan, remote.items with
    | .basic, item :: _ => do
        let quantity ← write .employeeSnapshot
        if item.quantity = some quantity then pure remote
        else do
          send none (.updateSeats doc.revision remote.id item.id quantity remote.schedule.isNone)
          lookup (.subscription remote.id true)
    | _, _ => pure remote
  else pure remote

/-- The check of the latest invoice in `synchronize`. -/
def latestVerified (doc : Subscription) (remote : RemoteSubscription) : PaymentHandler Bool := do
  match remote.latestInvoice with
  | none => pure true
  | some invoice =>
      if invoice.status = some .draft then pure true else verifyFinalizedUsage doc invoice

/-- `synchronize`. -/
def synchronize (config : PaymentConfig) (doc : Subscription) (event : Option Nat) :
    PaymentHandler Subscription := do
  match doc.stripeSubscriptionId with
  | none => pure doc
  | some id => do
      let doc ← submitUsage config doc
      let remote ← lookup (.subscription id true)
      let _ ← check (validateRemote doc remote)
      let doc ←
        if doc.stripeScheduleId ≠ none ∧ remote.schedule = none then update doc .noSchedule
        else pure doc
      let remote ← synchronizeSeats doc remote
      let drafts ← lookup (.draftInvoices doc.stripeCustomerId)
      let held ← reconcileDrafts config doc drafts.data false
      renewLease
      let verified ← latestVerified doc remote
      applyCanonical doc remote event (held || drafts.hasMore || !verified)

/-- `changePlan`; the answer is what the document in memory shows at the end. -/
def changePlan (config : PaymentConfig) (actor : AuthenticatedUser) (code : PlanCode) :
    PaymentHandler Subscription := do
  check (owner config actor)
  safeApi <| withLease fun doc => do
    match doc.stripeSubscriptionId with
    | none => do
        check (require (code = .free)
          (.conflict "Start hosted Checkout before choosing a paid plan"))
        write (.localPlan doc code)
        pure ((SubscriptionUpdate.localPlan code).apply doc)
    | some _ => do
        let doc ← match ← write (.queuePlan doc code) with
          | none => pure doc
          | some queued => pure ((SubscriptionUpdate.queuePlan queued).apply doc)
        let doc ← performPlanRequest config doc
        synchronize config doc none

/-- The first check of `completeCheckout`; it yields the plan to subscribe to. -/
def checkoutMapping (doc : Subscription) (session : CheckoutSession) : Except Failure PlanCode := do
  require (!session.livemode && session.status = .complete && session.setupMode &&
      session.customer = doc.stripeCustomerId && some session.id = doc.stripeCheckoutSessionId &&
      session.operation = doc.stripeCheckoutOperation)
    (.badRequest "Checkout mapping is invalid")
  orFail doc.stripeCheckoutPlan (.badRequest "Checkout mapping is invalid")

/-- The employee count that all attempts of one session share. -/
def checkoutEmployees (doc : Subscription) (current : Nat) : PaymentHandler (Subscription × Nat) := do
  match doc.stripeCheckoutEmployees with
  | some employees => pure (doc, employees)
  | none => do
      let doc ← update doc (.checkoutEmployees current)
      pure (doc, current)

/-- `completeCheckout`. -/
def completeCheckout (config : PaymentConfig) (doc : Subscription) (session : CheckoutSession) :
    PaymentHandler Subscription := do
  let planCode ← check (checkoutMapping doc session)
  let setupId ← check (orFail session.setupIntent (.badRequest "Checkout setup is incomplete"))
  let setup ← lookup (.setupIntent setupId)
  check (require (!setup.livemode && setup.succeeded && setup.customer = doc.stripeCustomerId &&
      setup.paymentMethod.isSome)
    (.badRequest "Payment method setup is incomplete"))
  validateCatalog config
  let current ← planFitsNow planCode
  let (doc, employees) ← checkoutEmployees doc current
  let (doc, checkedAt) ← attempt doc .subscription
  let remote ← send (some checkedAt) (.createSubscription session.id doc.stripeCustomerId
    setup.paymentMethod (planItems planCode employees) (anchorOf doc.activatedAt) doc.companyId)
  let doc ← update doc (.subscription remote.id)
  applyCanonical doc remote none false

/-- The part of `reconcileCompany` that finishes a completed session. -/
def completePending (config : PaymentConfig) (doc : Subscription) : PaymentHandler Subscription := do
  match doc.stripeCheckoutSessionId, doc.stripeSubscriptionId with
  | some id, none => do
      let session ← lookup (.session id)
      if session.status = .complete then completeCheckout config doc session else pure doc
  | _, _ => pure doc

/-- `reconcileCompany`; the answer is the document in memory at the end, nothing where payments are
disabled. -/
def reconcileCompany (config : PaymentConfig) : PaymentHandler (Option Subscription) := do
  if config.enabled then
    safeApi <| withLease fun doc => do
      let doc ← completePending config doc
      let doc ← if doc.pendingPlanCode = none then pure doc else performPlanRequest config doc
      let doc ← synchronize config doc none
      pure (some doc)
  else pure none

end DataVault.Payments
