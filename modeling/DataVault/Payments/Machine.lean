/-
Module: DataVault.Payments.Machine
Layer: Model
Purpose: Every request and worker pass that touches the billing of one company, as the jobs of one machine:
  the owner's requests, Stripe's webhooks, the payments worker, and the services that store files or change
  a plan without Stripe (files/files.service.ts, subscriptions/subscriptions.service.ts,
  payments/payments.worker.ts).
Imports: DataVault.Payments.Service
Trusted boundary: human-reviewed spec
Main exports: StripeEvent, webhook, PaymentJob, PaymentReply, paymentMachine, initializeFree
-/
import DataVault.Payments.Service

namespace DataVault.Payments

open DataVault.Control DataVault.Interleaving DataVault.Plans DataVault.Subscriptions DataVault.Users

/-! ### Webhooks -/

/-- The object of an event, by the prefix of its type: a Checkout session, with whether the type is
`checkout.session.completed`; a subscription; an invoice; a type outside `STRIPE_EVENTS`. -/
inductive EventObject where
  | checkout (session : Nat) (completed : Bool)
  | subscription (id : Nat) (customer : Option Nat)
  | invoice (subscription customer : Option Nat)
  | unsupported
deriving DecidableEq, Repr

/-- A delivery; `signed` says that `constructEvent` accepts its body and signature. -/
structure StripeEvent where
  id : Nat
  signed : Bool
  livemode : Bool
  object : EventObject
deriving DecidableEq, Repr

inductive WebhookReply where
  | received
  | ignored
  | duplicate
deriving DecidableEq, Repr

/-- The subscription an event belongs to. -/
def subscriptionOf : EventObject → PaymentHandler (Option Subscription)
  | .checkout session _ => query (.bySession session)
  | .subscription id _ => query (.bySubscription id)
  | .invoice (some id) _ => query (.bySubscription id)
  | .invoice none _ | .unsupported => pure none

/-- The customer of a subscription or invoice event. -/
def EventObject.customer : EventObject → Option Nat
  | .subscription _ customer | .invoice _ customer => customer
  | _ => none

/-- An event without a subscription is recorded, unless its subscription may just be being created. -/
def recordUnknown (event : StripeEvent) : PaymentHandler WebhookReply := do
  match event.object.customer with
  | none => pure ()
  | some customer => do
      let creating ← query (.byCustomer customer)
      check (require (!creating.any fun doc =>
        doc.stripeCheckoutOperation.isSome && doc.stripeSubscriptionId.isNone) .checkoutMappingPending)
  write (.recordEvent event.id)
  pure .ignored

/-- The part of `webhook` under the lease. -/
def processEvent (config : PaymentConfig) (event : StripeEvent) (doc : Subscription) :
    PaymentHandler Unit := do
  if ← query (.eventExists event.id) then pure ()
  else do
    let doc ← match event.object with
      | .checkout session true =>
          if doc.stripeSubscriptionId = none then do
            let session ← lookup (.session session)
            completeCheckout config doc session
          else pure doc
      | _ => pure doc
    if doc.stripeSubscriptionId = none then write (.recordEvent event.id)
    else do
      let _ ← synchronize config doc (some event.id)
      pure ()

/-- The `try` block of `webhook`. -/
def handleEvent (config : PaymentConfig) (event : StripeEvent) : PaymentHandler WebhookReply := do
  match ← subscriptionOf event.object with
  | none => recordUnknown event
  | some _ => do
      withLease (processEvent config event)
      pure .received

/-- The `catch` block of `webhook`: a duplicate key of an event that is recorded by now is a success. -/
def eventFailure (event : StripeEvent) (failure : Failure) : PaymentHandler WebhookReply := do
  let confirmed ←
    if failure = .duplicateKey then
      Process.recover (query (.eventExists event.id)) fun _ => pure false
    else pure false
  if confirmed then pure .duplicate
  else throw (.serviceUnavailable "Stripe synchronization temporarily unavailable")

def webhook (config : PaymentConfig) (event : StripeEvent) : PaymentHandler WebhookReply := do
  check (require config.enabled (.serviceUnavailable "Test Mode payments are not configured"))
  check (require event.signed (.badRequest "Invalid Stripe signature"))
  check (require (!event.livemode) (.badRequest "Only Stripe Test Mode events are accepted"))
  if event.object = .unsupported then pure .ignored
  else if ← query (.eventExists event.id) then pure .duplicate
  else Process.recover (handleEvent config event) (eventFailure event)

/-! ### The worker, files and plans without Stripe -/

/-- One tenant in a pass of the payments worker; every failure is caught. -/
def workerPass (config : PaymentConfig) : PaymentHandler Unit :=
  Process.recover pass fun _ => pure ()
where
  pass : PaymentHandler Unit := do
    let now ← readClock
    if !config.enabled then pure ()
    else if ← query (.dueForSync now) then do
      if ← write (.claimSync now config.syncIntervalMs) then
        Process.recover (do let _ ← reconcileCompany config) fun _ => write .retryRequired
      else pure ()
    else pure ()

/-- The transaction of an upload, after the file has gone to storage. -/
def uploadFile : PaymentHandler Unit := do
  let now ← readClock
  write (.upload now)

/-- `publishGuardCopy` in its transaction. -/
def publishGuardCopy (source : Nat) : PaymentHandler Unit := do
  let now ← readClock
  write (.publishCopy source now)

/-- `FilesService.delete`, for a caller who may delete the file. -/
def deleteFile (file : Nat) : PaymentHandler Unit := do
  let _ ← check (orFail (← query (.findFile file)) (.notFound "File not found"))
  if ← write (.deleteFile file) then pure () else throw (.notFound "File not found")

/-- `SubscriptionsService.changePlan`; with payments enabled it is the payments service's. -/
def changeSubscriptionPlan (config : PaymentConfig) (actor : AuthenticatedUser) (code : PlanCode) :
    PaymentHandler Unit := do
  check (require (actor.role = .companyOwner) (.forbidden "Company owner access is required"))
  if config.enabled then do
    let _ ← changePlan config actor code
    pure ()
  else do
    let changedAt ← readClock
    write (.changePlan code changedAt)

/-! ### The machine -/

inductive PaymentJob where
  | checkout (actor : AuthenticatedUser) (planCode : PlanCode)
  | changePlan (actor : AuthenticatedUser) (planCode : PlanCode)
  | reconcileCompany
  | webhook (event : StripeEvent)
  | worker
  | upload
  | publishCopy (source : Nat)
  | deleteFile (file : Nat)

inductive PaymentReply where
  | checkout (url : String)
  | webhook (reply : WebhookReply)
  | reconciled (left : Option Subscription)
  | done
deriving DecidableEq, Repr

def PaymentJob.handler (config : PaymentConfig) : PaymentJob → PaymentHandler PaymentReply
  | .checkout actor planCode => do
      let url ← Payments.checkout config actor planCode
      pure (.checkout url)
  | .changePlan actor planCode => do
      changeSubscriptionPlan config actor planCode
      pure .done
  | .reconcileCompany => do
      let left ← Payments.reconcileCompany config
      pure (.reconciled left)
  | .webhook event => do
      let reply ← Payments.webhook config event
      pure (.webhook reply)
  | .worker => do
      workerPass config
      pure .done
  | .upload => do
      uploadFile
      pure .done
  | .publishCopy source => do
      publishGuardCopy source
      pure .done
  | .deleteFile file => do
      Payments.deleteFile file
      pure .done

/-- All runs on the billing of one company. -/
def paymentMachine (config : PaymentConfig) :
    Machine PaymentAct PaymentAct.Res PaymentWorld Choice PaymentDrift PaymentJob
      (Except Failure PaymentReply) where
  handler job := (job.handler config).run
  exec := paymentExec config.enabled
  drift := paymentDrift

abbrev PaymentSystem := System PaymentAct PaymentAct.Res PaymentWorld (Except Failure PaymentReply)
abbrev PaymentEvent := Event Choice PaymentDrift PaymentJob

/-- `SubscriptionsService.initializeFree`. -/
def initializeFree (companyId : Nat) (activatedAt : Int) : Subscription where
  companyId := companyId
  planCode := .free
  activatedAt := activatedAt
  planChangedAt := activatedAt

/-- A company as it is created, before any request: nothing is stored at Stripe. -/
def freshCompany (companyId : Nat) (activatedAt clock : Int) (ownerEmail : Option String) :
    PaymentSystem where
  world :=
    { clock := clock
      db := { subscription := initializeFree companyId activatedAt, ownerEmail := ownerEmail } }
  runs := []

/-- `count` steps of one run with the same choice of the environment. -/
def stepping (run count : Nat) (choice : Choice) : List PaymentEvent :=
  List.replicate count (.step run choice)

/-! ### A purchase -/

def testMode : PaymentConfig where
  enabled := true
  checkoutSuccessUrl := "success"
  checkoutCancelUrl := "cancel"
  overageEventName := "files"
  overageMeterId := 7
  syncIntervalMs := 600000

def companyOwner : AuthenticatedUser where
  id := 1
  companyId := 1
  role := .companyOwner

/-- An active subscription of company 1, activated at 0, with its items of the first period. -/
def activeRemote (code : PlanCode) : RemoteSubscription :=
  { (default : RemoteSubscription) with
    customer := some 5
    companyId := some 1
    status := some .active
    anchor := some (anchorOf 0)
    items :=
      ⟨1, priceOf code, some (if code = .basic then 0 else 1), 0, 2678400⟩ ::
        if code = .premium then [⟨2, .overage, none, 0, 2678400⟩] else []
    chargeAutomatically := true }

/-- An environment that answers every request with what the plan asks for. -/
def granting (code : PlanCode) : Choice :=
  { (default : Choice) with
    catalog := expectedCatalog testMode
    customer := ⟨5, false⟩
    session := { (default : CheckoutSession) with url := "session", setupIntent := some 9 }
    remote := activeRemote code }

/-- The owner of company 1 opens a Checkout session and completes it. -/
def purchase (code : PlanCode) : List PaymentEvent :=
  .arrive (.checkout companyOwner code) :: stepping 0 18 (granting code) ++
    [.drift (.session 15 true), .drift (.setupIntent 9 ⟨false, true, some 5, some 3⟩)]

/-- The first reconciliation after a purchase creates and synchronizes the subscription. -/
def subscribe (run : Nat) (code : PlanCode) : List PaymentEvent :=
  .arrive .reconcileCompany :: stepping run 23 (granting code)

end DataVault.Payments
