/-
Module: DataVault.Payments.Records
Layer: Model
Purpose: The writes of payments/payments.service.ts to a company's subscription document, one constructor for
  each call of `update`, and the decisions its transactions take: what `applyCanonical` writes and what
  `changePlan` queues, as functions of the document in memory and of the counts read in the transaction.
Imports: DataVault.Payments.StripeApi, DataVault.Subscriptions.Capacity
Trusted boundary: human-reviewed spec
Main exports: AttemptField, SubscriptionUpdate, SubscriptionUpdate.apply, CompanyState, remotePlan,
  remoteAccess, CanonicalFields, canonicalFields, QueuedPlan, queuePlan
-/
import DataVault.Payments.StripeApi
import DataVault.Subscriptions.Capacity

namespace DataVault.Payments

open DataVault.Control DataVault.Plans DataVault.Subscriptions

/-! ### Remote state -/

/-- `remotePlan`. -/
def remotePlan (remote : RemoteSubscription) : Except Failure PlanCode :=
  let ids := remote.items.map (·.price)
  if ids = [priceOf .basic] then .ok .basic
  else if ids.length = 2 ∧ priceOf .premium ∈ ids ∧ PriceId.overage ∈ ids then .ok .premium
  else .error (.paymentSyncValidation "Stripe subscription has unsupported prices")

/-- The check of one item's period in `validateRemote`. -/
def validatePeriod (activatedAt : Int) (item : SubscriptionItem) : Except Failure Unit := do
  require (isSafeInteger item.currentPeriodStart && isSafeInteger item.currentPeriodEnd)
    (.paymentSyncValidation "Stripe billing period is unavailable")
  let period ← orFail (billingPeriod activatedAt (item.currentPeriodStart * 1000 + 1000))
    .invalidBillingPeriod
  require (item.currentPeriodEnd = period.endsAt / 1000)
    (.paymentSyncValidation "Stripe billing period does not match DataVault")

/-- `validateRemote`. -/
def validateRemote (subscription : Subscription) (remote : RemoteSubscription) :
    Except Failure StripeSubscriptionStatus := do
  let status ← orFail remote.status (.paymentSyncValidation "Unsupported Stripe subscription status")
  require (!remote.livemode && remote.customer = subscription.stripeCustomerId &&
      remote.companyId = some subscription.companyId)
    (.paymentSyncValidation "Stripe tenant mapping is invalid")
  require (remote.anchor = some (anchorOf subscription.activatedAt))
    (.paymentSyncValidation "Stripe billing anniversary does not match DataVault")
  remote.items.forM (validatePeriod subscription.activatedAt)
  pure status

/-- The access a snapshot gives before the plan limits are looked at. -/
def remoteAccess (remote : RemoteSubscription) : PaymentAccess :=
  if remote.status = some .active ∧ !remote.pauseCollection ∧ remote.chargeAutomatically then
    match remote.latestInvoice with
    | none => .deferred
    | some invoice =>
        if invoice.status = some .paid then .active
        else if invoice.status = some .draft then .deferred
        else .suspended
  else .suspended

/-! ### Single updates -/

inductive AttemptField where
  | customer
  | checkout
  | subscription
  | plan
deriving DecidableEq, Repr

def AttemptField.get (field : AttemptField) (subscription : Subscription) : Option Int :=
  match field with
  | .customer => subscription.stripeCustomerAttemptAt
  | .checkout => subscription.stripeCheckoutAttemptAt
  | .subscription => subscription.stripeSubscriptionAttemptAt
  | .plan => subscription.stripePlanAttemptAt

def AttemptField.set (field : AttemptField) (instant : Int) (subscription : Subscription) : Subscription :=
  match field with
  | .customer => { subscription with stripeCustomerAttemptAt := some instant }
  | .checkout => { subscription with stripeCheckoutAttemptAt := some instant }
  | .subscription => { subscription with stripeSubscriptionAttemptAt := some instant }
  | .plan => { subscription with stripePlanAttemptAt := some instant }

theorem AttemptField.get_set (field : AttemptField) (instant : Int) (subscription : Subscription) :
    field.get (field.set instant subscription) = some instant := by
  cases field <;> rfl

/-- What `applyCanonical` writes; a field that it may leave alone is optional. -/
structure CanonicalFields where
  stripeStatus : StripeSubscriptionStatus
  stripeCancelAtPeriodEnd : Bool
  paymentAccess : PaymentAccess
  paymentSyncIssue : PaymentSyncIssue
  stripeSyncedAt : Int
  planCode : PlanCode
  stripeMeterStartedAt : Option Int
  planChangedAt : Option Int
  clearPending : Bool
deriving DecidableEq, Repr

/-- What `changePlan` queues. -/
structure QueuedPlan where
  pendingPlanCode : PlanCode
  pendingPlanAt : Int
  stripeChangeOperation : Nat
deriving DecidableEq, Repr

/-- The calls of `update`, each with the values it stores. -/
inductive SubscriptionUpdate where
  | reconciliationRequired
  | attemptAt (field : AttemptField) (instant : Int)
  | customer (id : Nat)
  | forgetSubscription
  | checkoutOperation (operation : Nat) (planCode : PlanCode)
  | checkoutSession (id : Nat)
  | localPlan (planCode : PlanCode)
  | queuePlan (queued : QueuedPlan)
  | schedule (id : Nat)
  | noSchedule
  | planConfirmed
  | planEmployees (count : Nat)
  | checkoutEmployees (count : Nat)
  | subscription (id : Nat)
  | canonical (fields : CanonicalFields)
deriving DecidableEq, Repr

/-- The fields an update sets and unsets, on the stored document and then again on the one in memory. -/
def SubscriptionUpdate.apply : SubscriptionUpdate → Subscription → Subscription
  | .reconciliationRequired, doc => { doc with paymentSyncIssue := .reconciliationRequired }
  | .attemptAt field instant, doc => field.set instant doc
  | .customer id, doc => { doc with stripeCustomerId := some id }
  | .forgetSubscription, doc =>
      { doc with
        paymentAccess := if doc.planCode = .free then doc.paymentAccess else .suspended
        stripeSubscriptionId := none
        stripeSubscriptionAttemptAt := none
        stripeCheckoutSessionId := none
        stripeCheckoutOperation := none
        pendingPlanCode := none
        pendingPlanAt := none
        stripeChangeOperation := none
        stripePlanAttemptAt := none
        stripePlanConfirmed := false
        stripePlanEmployees := none
        stripeScheduleId := none
        stripeCheckoutEmployees := none
        stripeCheckoutAttemptAt := none }
  | .checkoutOperation operation planCode, doc =>
      { doc with
        stripeCheckoutOperation := some operation
        stripeCheckoutPlan := some planCode
        stripeCheckoutSessionId := none
        stripeCheckoutAttemptAt := none
        stripeSubscriptionAttemptAt := none
        stripeCheckoutEmployees := none }
  | .checkoutSession id, doc => { doc with stripeCheckoutSessionId := some id }
  | .localPlan planCode, doc => { doc with planCode := planCode, paymentAccess := .unmanaged }
  | .queuePlan queued, doc =>
      { doc with
        pendingPlanCode := some queued.pendingPlanCode
        pendingPlanAt := some queued.pendingPlanAt
        stripeChangeOperation := some queued.stripeChangeOperation
        stripePlanConfirmed := false
        stripePlanAttemptAt := none
        stripePlanEmployees := none }
  | .schedule id, doc => { doc with stripeScheduleId := some id }
  | .noSchedule, doc => { doc with stripeScheduleId := none }
  | .planConfirmed, doc => { doc with stripePlanConfirmed := true }
  | .planEmployees count, doc => { doc with stripePlanEmployees := some count }
  | .checkoutEmployees count, doc => { doc with stripeCheckoutEmployees := some count }
  | .subscription id, doc =>
      { doc with
        stripeSubscriptionId := some id
        stripeManaged := true
        stripeMeterStartedAt := none }
  | .canonical fields, doc =>
      { doc with
        stripeManaged := true
        stripeStatus := some fields.stripeStatus
        stripeCancelAtPeriodEnd := fields.stripeCancelAtPeriodEnd
        paymentAccess := fields.paymentAccess
        paymentSyncIssue := fields.paymentSyncIssue
        stripeSyncedAt := some fields.stripeSyncedAt
        planCode := fields.planCode
        stripeMeterStartedAt := fields.stripeMeterStartedAt <|> doc.stripeMeterStartedAt
        planChangedAt := fields.planChangedAt.getD doc.planChangedAt
        pendingPlanCode := if fields.clearPending then none else doc.pendingPlanCode
        pendingPlanAt := if fields.clearPending then none else doc.pendingPlanAt
        stripeChangeOperation := if fields.clearPending then none else doc.stripeChangeOperation
        stripePlanAttemptAt := if fields.clearPending then none else doc.stripePlanAttemptAt
        stripePlanConfirmed := if fields.clearPending then false else doc.stripePlanConfirmed
        stripePlanEmployees := if fields.clearPending then none else doc.stripePlanEmployees }

/-! ### Transactions -/

/-- What the transactions read beside the subscription: members, expiry times of the pending invitations,
stored files and whether a usage row requires reconciliation. -/
structure CompanyState where
  employees : Nat
  pendingInvitations : List Int
  files : Nat
  unresolvedUsage : Bool
deriving DecidableEq, Repr

/-- `assertPlanFits` within a transaction. -/
def CompanyState.fits (company : CompanyState) (code : PlanCode) (instant : Int) : Except Failure Nat :=
  assertPlanFits code company.employees (company.pendingInvitations.countP (instant < ·)) company.files

/-- A plan that passes the check allows the stored files. -/
theorem CompanyState.fits_files {company : CompanyState} {code : PlanCode} {instant : Int} {employees : Nat}
    (fits : company.fits code instant = .ok employees) : code.fitsFiles company.files := by
  obtain ⟨_, passed, _⟩ := bind_ok_iff.mp fits
  exact (planFits_ok_iff.mp passed).2

/-- The plan, access and issue that `applyCanonical` settles on, from the plan `target` of the snapshot. A
conflict with the limits is caught; `assertPlanFits` fails in no other way. -/
def settlePlan (company : CompanyState) (doc : Subscription) (remote : RemoteSubscription)
    (target : PlanCode) (issue : PaymentSyncIssue) (now : Int) :
    PlanCode × PaymentAccess × PaymentSyncIssue :=
  let access := remoteAccess remote
  if isTerminalStripeStatus remote.status then
    match company.fits .free now with
    | .ok _ => (.free, .active, issue)
    | .error _ => (doc.planCode, access, .planConflict)
  else if access ≠ .suspended then
    match company.fits target now with
    | .ok _ => (target, access, issue)
    | .error _ => (doc.planCode, .suspended, .planConflict)
  else (target, access, issue)

/-- What the callback of `applyCanonical` writes. It reads `planCode`, `pendingPlanCode` and
`stripeMeterStartedAt` from the document in memory. -/
def canonicalFields (company : CompanyState) (doc : Subscription) (status : StripeSubscriptionStatus)
    (remote : RemoteSubscription) (draftsHeld : Bool) (now : Int) : Except Failure CanonicalFields := do
  let target ← remotePlan remote
  let issue : PaymentSyncIssue :=
    if company.unresolvedUsage || draftsHeld then .reconciliationRequired else .none
  let (settled, access, issue) := settlePlan company doc remote target issue now
  let planCode := if access = .suspended then doc.planCode else settled
  let changed := planCode ≠ doc.planCode
  pure
    { stripeStatus := status
      stripeCancelAtPeriodEnd := remote.cancelAtPeriodEnd
      paymentAccess := access
      paymentSyncIssue := issue
      stripeSyncedAt := now
      planCode := planCode
      stripeMeterStartedAt :=
        if planCode = .premium ∧ (doc.stripeMeterStartedAt = none ∨ changed) then
          let item := remote.items.find? fun item => item.price = .overage
          some ((item.elim (now / 1000) (·.currentPeriodStart)) * 1000)
        else none
      planChangedAt := if changed then some now else none
      clearPending := some planCode = doc.pendingPlanCode }

/-- The plan that a snapshot settles on is suspended, the one the document in memory has, or fits. -/
theorem settlePlan_fits (company : CompanyState) (doc : Subscription) (remote : RemoteSubscription)
    (target : PlanCode) (issue : PaymentSyncIssue) (now : Int) :
    (settlePlan company doc remote target issue now).2.1 = .suspended ∨
      (settlePlan company doc remote target issue now).1 = doc.planCode ∨
      (settlePlan company doc remote target issue now).1.fitsFiles company.files := by
  simp only [settlePlan]
  split
  · split
    · rename_i fits
      exact .inr (.inr (CompanyState.fits_files fits))
    · exact .inr (.inl rfl)
  · split
    · split
      · rename_i fits
        exact .inr (.inr (CompanyState.fits_files fits))
      · exact .inl rfl
    · rename_i suspended
      exact .inl (not_not.mp suspended)

/-- A commit keeps the plan of the document in memory or moves to one that allows the stored files. -/
theorem canonicalFields_fits {company : CompanyState} {doc : Subscription}
    {status : StripeSubscriptionStatus} {remote : RemoteSubscription} {draftsHeld : Bool} {now : Int}
    {fields : CanonicalFields}
    (computed : canonicalFields company doc status remote draftsHeld now = .ok fields) :
    fields.planCode = doc.planCode ∨ fields.planCode.fitsFiles company.files := by
  obtain ⟨target, _, computed⟩ := bind_ok_iff.mp computed
  dsimp only at computed
  have fits := settlePlan_fits company doc remote target
    (if company.unresolvedUsage || draftsHeld then .reconciliationRequired else .none) now
  generalize settlePlan company doc remote target
    (if company.unresolvedUsage || draftsHeld then .reconciliationRequired else .none) now = outcome
    at fits computed
  cases computed
  dsimp only
  split
  · exact .inl rfl
  · rename_i kept
    exact fits.resolve_left kept

/-- The condition under which the callback of `changePlan` queues the request. -/
def queueWanted (doc : Subscription) (code : PlanCode) : Bool :=
  doc.pendingPlanCode ≠ some code || (code = .free && doc.stripePlanConfirmed)

/-- The callback of the transaction in which `changePlan` queues a plan; `none` is the execution that writes
nothing. -/
def queuePlan (company : CompanyState) (doc : Subscription) (code : PlanCode) (operation : Nat)
    (now : Int) : Except Failure (Option QueuedPlan) := do
  let _ ← company.fits code now
  require (doc.pendingPlanCode = none || doc.pendingPlanCode = some code || code = doc.planCode ||
      code = .free)
    (.conflict "Resolve the queued plan change before requesting another target")
  if queueWanted doc code then
    let pendingPlanAt ←
      if code = .free then pure now
      else do
        let period ← orFail (billingPeriod doc.activatedAt now) .invalidBillingPeriod
        pure period.endsAt
    pure (some
      { pendingPlanCode := code
        pendingPlanAt := pendingPlanAt
        stripeChangeOperation := operation })
  else pure none

/-- What is queued is the requested plan under the new operation, and it allows the stored files. -/
theorem queuePlan_fits {company : CompanyState} {doc : Subscription} {code : PlanCode} {operation : Nat}
    {now : Int} {queued : QueuedPlan} (queues : queuePlan company doc code operation now = .ok (some queued)) :
    queued.pendingPlanCode = code ∧ queued.stripeChangeOperation = operation ∧
      code.fitsFiles company.files := by
  obtain ⟨_, fits, queues⟩ := bind_ok_iff.mp queues
  obtain ⟨_, _, queues⟩ := bind_ok_iff.mp queues
  dsimp only at queues
  split at queues
  · split at queues
    · cases queues
      exact ⟨rfl, rfl, CompanyState.fits_files fits⟩
    · obtain ⟨_, _, queues⟩ := bind_ok_iff.mp queues
      cases queues
      exact ⟨rfl, rfl, CompanyState.fits_files fits⟩
  · cases queues

/-- The callback of the transaction in which `changePlan` switches a company without a Stripe subscription. -/
def localPlan (company : CompanyState) (code : PlanCode) (now : Int) : Except Failure Unit := do
  let _ ← company.fits code now
  pure ()

end DataVault.Payments
