/-
Module: DataVault.Payments.StripeApi
Layer: Model
Purpose: What payments/payments.service.ts sees of Stripe: the fields it reads of remote objects, the
  mutating requests it sends with all their parameters and idempotency keys, and the part of Stripe's state
  that its requests depend on. Everything Stripe decides is left to the environment, except that a create
  under an idempotency key first used less than 24 hours ago answers with the original resource, that a
  Checkout session that left `open` and a subscription that ended stay so, and that a succeeded setup intent
  keeps its payment method.
Imports: DataVault.Payments.MeterWindow
Trusted boundary: human-reviewed spec
Main exports: PriceId, RemoteSubscription, CheckoutSession, Request, IdempotencyKey, Request.key, Stripe,
  Stripe.createCheckoutSession, Stripe.createSubscription
-/
import DataVault.Payments.MeterWindow
import Mathlib.Logic.Function.Basic
import Mathlib.Tactic.Simps.Basic

namespace DataVault.Payments

open DataVault.Plans DataVault.Subscriptions

/-! ### Remote objects -/

/-- The three configured price ids, which differ from each other, and any other one. -/
inductive PriceId where
  | basic
  | premium
  | overage
  | other (id : Nat)
deriving DecidableEq, Repr, Inhabited

/-- `price(code)`: every plan but Basic has the Premium price. -/
def priceOf : PlanCode → PriceId
  | .basic => .basic
  | _ => .premium

structure Recurring where
  interval : String
  intervalCount : Nat
  usageType : String
  meter : Option Nat
deriving DecidableEq, Repr, Inhabited

structure Price where
  livemode : Bool
  active : Bool
  currency : String
  unitAmount : Option Nat
  billingScheme : String
  transformQuantity : Bool
  recurring : Option Recurring
deriving DecidableEq, Repr, Inhabited

structure Meter where
  id : Nat
  livemode : Bool
  status : String
  eventName : String
  aggregationFormula : String
  customerPayloadKey : String
  valuePayloadKey : String
deriving DecidableEq, Repr, Inhabited

/-- The four objects that `validateCatalog` retrieves together. -/
structure Catalog where
  basic : Price
  premium : Price
  overage : Price
  meter : Meter
deriving DecidableEq, Repr, Inhabited

structure Customer where
  id : Nat
  livemode : Bool
deriving DecidableEq, Repr, Inhabited

inductive SessionStatus where
  | opened
  | complete
  | expired
deriving DecidableEq, Repr, Inhabited

/-- A Checkout session; `setupMode` is `mode === 'setup'`, `operation` its metadata. -/
structure CheckoutSession where
  id : Nat
  url : String
  livemode : Bool
  status : SessionStatus
  setupMode : Bool
  customer : Option Nat
  operation : Option Nat
  setupIntent : Option Nat
deriving DecidableEq, Repr, Inhabited

structure SetupIntent where
  livemode : Bool
  succeeded : Bool
  customer : Option Nat
  paymentMethod : Option Nat
deriving DecidableEq, Repr, Inhabited

inductive InvoiceStatus where
  | draft
  | opened
  | paid
  | void
  | uncollectible
deriving DecidableEq, Repr, Inhabited

/-- The `datavault_employee_count` of an invoice's metadata. -/
inductive SeatSnapshot where
  | missing
  | invalid
  | employees (count : Nat)
deriving DecidableEq, Repr, Inhabited

/-- An invoice; `subscription` is `parent.subscription_details.subscription`. -/
structure Invoice where
  id : Nat
  status : Option InvoiceStatus
  livemode : Bool
  customer : Option Nat
  subscription : Option Nat
  autoAdvance : Bool
  seatSnapshot : SeatSnapshot
deriving DecidableEq, Repr, Inhabited

structure InvoiceLine where
  id : Nat
  price : Option PriceId
  quantity : Option Int
  periodStart : Int
  periodEnd : Int
deriving DecidableEq, Repr, Inhabited

structure Page (α : Type) where
  data : List α
  hasMore : Bool
deriving DecidableEq, Repr, Inhabited

structure SubscriptionItem where
  id : Nat
  price : PriceId
  quantity : Option Nat
  currentPeriodStart : Int
  currentPeriodEnd : Int
deriving DecidableEq, Repr, Inhabited

/-- `billing_cycle_anchor_config`. -/
structure AnchorConfig where
  dayOfMonth : Int
  hour : Int
  minute : Int
  second : Int
deriving DecidableEq, Repr, Inhabited

/-- The billing anchor of an activation, as `completeCheckout` sends it and `validateRemote` expects it. -/
def anchorOf (activatedAt : Int) : AnchorConfig where
  dayOfMonth := Calendar.dateFromTime activatedAt
  hour := Calendar.hourFromTime activatedAt
  minute := Calendar.minFromTime activatedAt
  second := Calendar.secFromTime activatedAt

/-- A subscription as one response shows it. `status` is `none` for a status outside the supported list,
`latestInvoice` is the expanded object. `session` is the Checkout session whose key created it; `asOf` is the
step of the system in which Stripe evaluated the response and `receivedAt` the one in which it was returned:
they differ when a create answers with the original response again. The code reads none of these three. -/
structure RemoteSubscription where
  id : Nat
  session : Nat
  livemode : Bool
  customer : Option Nat
  companyId : Option Nat
  status : Option StripeSubscriptionStatus
  anchor : Option AnchorConfig
  items : List SubscriptionItem
  pauseCollection : Bool
  chargeAutomatically : Bool
  cancelAtPeriodEnd : Bool
  schedule : Option Nat
  latestInvoice : Option Invoice
  asOf : Nat
  receivedAt : Nat
deriving DecidableEq, Repr, Inhabited

def RemoteSubscription.terminal (remote : RemoteSubscription) : Prop :=
  isTerminalStripeStatus remote.status = true

instance (remote : RemoteSubscription) : Decidable remote.terminal :=
  inferInstanceAs (Decidable (_ = _))

structure SchedulePhase where
  startDate : Int
  endDate : Int
deriving DecidableEq, Repr, Inhabited

structure Schedule where
  id : Nat
  currentPhase : Option SchedulePhase
deriving DecidableEq, Repr, Inhabited

structure MeterEvent where
  livemode : Bool
  identifier : UsageIdentifier
deriving DecidableEq, Repr

instance : Inhabited MeterEvent := ⟨⟨false, ⟨0, 0, 0⟩⟩⟩

/-! ### Mutating requests -/

/-- An item of a subscription or a schedule phase. -/
structure RequestItem where
  price : PriceId
  quantity : Option Nat
deriving DecidableEq, Repr

/-- `items(code, employees)`. -/
def planItems (code : PlanCode) (employees : Nat) : List RequestItem :=
  if code = .basic then [⟨priceOf code, some employees⟩]
  else [⟨priceOf code, some 1⟩, ⟨.overage, none⟩]

/-- A phase of a schedule update; `automaticAnchor` is `billing_cycle_anchor: 'automatic'`. -/
structure RequestPhase where
  startDate : Int
  endDate : Int
  items : List RequestItem
  automaticAnchor : Bool
deriving DecidableEq, Repr

/-- The requests that change something at Stripe, each with its target and with every parameter that is not
a constant of its call site. The `operation`, `revision` and `invoice` that only enter the idempotency key are
listed first where they are not a parameter as well. -/
inductive Request where
  | createCustomer (email : String) (companyId : Nat)
  | createCheckoutSession (operation customer companyId : Nat) (planCode : PlanCode)
      (successUrl cancelUrl : String)
  | createSubscription (session : Nat) (customer paymentMethod : Option Nat) (items : List RequestItem)
      (anchor : AnchorConfig) (companyId : Nat)
  | cancelSubscription (operation : Option Nat) (subscription : Nat)
  | releaseSchedule (operation : Option Nat) (schedule : Nat)
  | createSchedule (operation : Option Nat) (subscription : Nat)
  | updateSchedule (operation : Option Nat) (schedule : Nat) (current next : RequestPhase)
  | keepPlan (operation : Option Nat) (subscription : Nat)
  | switchPlan (operation : Option Nat) (subscription item : Nat) (price : PriceId) (quantity : Nat)
      (addOverage : Bool)
  | updateSeats (revision : Nat) (subscription item quantity : Nat) (anchorUnchanged : Bool)
  | holdInvoice (invoice : Nat)
  | snapshotSeats (invoice employees : Nat)
  | correctSeats (invoice line employees : Nat)
  | correctOverage (invoice line : Nat) (expected : Int)
  | finalizeInvoice (invoice : Nat)
  | createMeterEvent (eventName : String) (identifier : UsageIdentifier) (customerId : Nat)
      (quantity timestamp : Int)
deriving DecidableEq, Repr

/-- The `idempotencyKey` strings of the call sites, by prefix. -/
inductive IdempotencyKey where
  | customer (companyId : Nat)
  | checkout (operation : Nat)
  | subscription (session : Nat)
  | plan (operation : Option Nat)
  | planRelease (operation : Option Nat)
  | planSchedule (operation : Option Nat)
  | planPhases (operation : Option Nat)
  | seats (subscription revision quantity : Nat)
  | invoiceSeats (invoice : Nat)
  | invoiceQuantity (invoice : Nat)
  | invoiceOverage (invoice : Nat) (expected : Int)
  | usage (identifier : UsageIdentifier)
deriving DecidableEq, Repr

/-- The key a request is sent with; the two invoice updates around a reconciliation carry none. -/
def Request.key : Request → Option IdempotencyKey
  | .createCustomer _ companyId => some (.customer companyId)
  | .createCheckoutSession operation .. => some (.checkout operation)
  | .createSubscription session .. => some (.subscription session)
  | .cancelSubscription operation _ => some (.plan operation)
  | .releaseSchedule operation _ => some (.planRelease operation)
  | .createSchedule operation _ => some (.planSchedule operation)
  | .updateSchedule operation .. => some (.planPhases operation)
  | .keepPlan operation _ => some (.plan operation)
  | .switchPlan operation .. => some (.plan operation)
  | .updateSeats revision subscription _ quantity _ => some (.seats subscription revision quantity)
  | .holdInvoice _ => none
  | .snapshotSeats invoice _ => some (.invoiceSeats invoice)
  | .correctSeats invoice .. => some (.invoiceQuantity invoice)
  | .correctOverage invoice _ expected => some (.invoiceOverage invoice expected)
  | .finalizeInvoice _ => none
  | .createMeterEvent _ identifier .. => some (.usage identifier)

/-- What each request answers with, as far as the code reads it. -/
abbrev Request.Reply : Request → Type
  | .createCustomer .. => Customer
  | .createCheckoutSession .. => CheckoutSession
  | .createSubscription .. => RemoteSubscription
  | .createSchedule .. => Schedule
  | .createMeterEvent .. => MeterEvent
  | _ => Unit

/-! ### Stripe's state -/

/-- The first use of an idempotency key and the resource it created. -/
structure KeyUse (α : Type) where
  firstUsedAt : Int
  original : α
deriving DecidableEq, Repr

/-- The original resource where Stripe answers with it: always within 24 hours of the first use, later only
while the key is not yet forgotten. -/
def KeyUse.replay {α : Type} (use : Option (KeyUse α)) (forgotten : Bool) (now : Int) : Option α :=
  match use with
  | none => none
  | some use => if now - use.firstUsedAt < 24 * 60 * 60 * 1000 || !forgotten then some use.original else none

theorem KeyUse.of_replay {α : Type} {use : Option (KeyUse α)} {forgotten : Bool} {now : Int} {original : α}
    (replayed : KeyUse.replay use forgotten now = some original) :
    ∃ first, use = some first ∧ first.original = original := by
  unfold KeyUse.replay at replayed
  split at replayed
  · cases replayed
  · rename_i first
    split at replayed
    · cases replayed
      exact ⟨first, rfl, rfl⟩
    · cases replayed

/-- A key that does not answer with its original resource was not used in the last 24 hours. -/
theorem KeyUse.unused_of_replay {α : Type} {use : Option (KeyUse α)} {forgotten : Bool} {now : Int}
    (unused : KeyUse.replay use forgotten now = none) :
    ∀ first, use = some first → 24 * 60 * 60 * 1000 ≤ now - first.firstUsedAt := by
  rintro first rfl
  simp only [KeyUse.replay] at unused
  split at unused
  · cases unused
  · rename_i old
    simp only [Bool.or_eq_true, decide_eq_true_eq, not_or] at old
    exact Int.not_lt.mp old.1

/-- The objects of one company. Objects are keyed by their id, uses of a key by the operation or the session
in it. -/
structure Stripe where
  sessions : Nat → Option CheckoutSession := fun _ => none
  setupIntents : Nat → Option SetupIntent := fun _ => none
  subscriptions : Nat → Option RemoteSubscription := fun _ => none
  sessionKeys : Nat → Option (KeyUse CheckoutSession) := fun _ => none
  subscriptionKeys : Nat → Option (KeyUse RemoteSubscription) := fun _ => none

namespace Stripe

variable (stripe : Stripe)

/-- A new Checkout session, under the key of an operation. -/
@[simps] def addSession (session : CheckoutSession) (operation : Nat) (now : Int) : Stripe :=
  { stripe with
    sessions := Function.update stripe.sessions session.id (some session)
    sessionKeys := Function.update stripe.sessionKeys operation (some ⟨now, session⟩) }

/-- A new subscription, under the key of the Checkout session it belongs to. -/
@[simps] def addSubscription (remote : RemoteSubscription) (now : Int) : Stripe :=
  { stripe with
    subscriptions := Function.update stripe.subscriptions remote.id (some remote)
    subscriptionKeys := Function.update stripe.subscriptionKeys remote.session (some ⟨now, remote⟩) }

/-- `checkout.sessions.create` under the key of an operation; a new session gets the number of the step as
its id and everything that is not in the request from the environment. -/
def createCheckoutSession (operation customer step : Nat) (forgotten : Bool) (now : Int)
    (given : CheckoutSession) : CheckoutSession × Stripe :=
  match KeyUse.replay (stripe.sessionKeys operation) forgotten now with
  | some original => (original, stripe)
  | none =>
      let session : CheckoutSession :=
        { given with
          id := step
          status := .opened
          setupMode := true
          customer := some customer
          operation := some operation }
      (session, stripe.addSession session operation now)

/-- `subscriptions.create` under the key of a Checkout session. -/
def createSubscription (session step : Nat) (forgotten : Bool) (now : Int) (given : RemoteSubscription) :
    RemoteSubscription × Stripe :=
  match KeyUse.replay (stripe.subscriptionKeys session) forgotten now with
  | some original => ({ original with receivedAt := step }, stripe)
  | none =>
      let remote := { given with id := step, session := session, asOf := step, receivedAt := step }
      (remote, stripe.addSubscription remote now)

end Stripe

end DataVault.Payments
