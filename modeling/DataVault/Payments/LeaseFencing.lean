/-
Module: DataVault.Payments.LeaseFencing
Layer: Proof
Purpose: The lease as a fence. Every request acquires the lease at most once, so once another run has acquired
  it, the first one never holds it again: nothing that it still writes through `update` takes effect, and its
  release leaves the lease of the other alone. Together with the retry window this is what protects the Stripe
  creates.
Imports: DataVault.Payments.RetryWindow
Trusted boundary: none
Main exports: PaymentAct.acquires, acquires_once, Acquires, PaymentAct.writesThrough, stripe_creates_fenced
-/
import DataVault.Payments.RetryWindow

namespace DataVault.Payments

open DataVault.Control DataVault.Interleaving DataVault.Plans DataVault.Store DataVault.Subscriptions
open DataVault.Users

variable {config : PaymentConfig} {w w' : PaymentWorld}

/-! ### Every request acquires the lease at most once

That a request takes the lease once is a fact about its text, not about its runs: `Plain` says that a part of a
request never tries to take the lease, each part of the service is shown plain by the rules for its constructs, and
`withLease` is one attempt before a plain body. -/

/-- The action tries to take the lease. -/
def PaymentAct.acquires : PaymentAct → Bool
  | .command (.acquireLease _) => true
  | _ => false

/-- The action gives the lease back. -/
def PaymentAct.releases : PaymentAct → Bool
  | .command .releaseLease => true
  | _ => false

theorem PaymentAct.eq_of_releases {act : PaymentAct} (releases : act.releases) : act = .command .releaseLease := by
  cases act with
  | command command =>
      cases command with
      | releaseLease => rfl
      | _ => cases releases
  | _ => cases releases

/-- A part of a request that never tries to take the lease. -/
def Plain {α : Type} (program : PaymentHandler α) : Prop :=
  Process.Every (fun act => ¬ act.acquires) program.run

section Plain

variable {α β : Type} {doc : Subscription}

theorem plain_pure {value : α} : Plain (pure value) := trivial

theorem plain_throw {failure : Failure} : Plain (throw failure : PaymentHandler α) := trivial

theorem plain_bind {first : PaymentHandler α} {next : α → PaymentHandler β} (plain : Plain first)
    (later : ∀ value, Plain (next value)) : Plain (first >>= next) :=
  Process.every_bind plain later

theorem plain_check {outcome : Except Failure α} : Plain (check outcome) := Process.every_liftExcept

theorem plain_readClock : Plain readClock := ⟨nofun, fun _ => trivial⟩

theorem plain_query {read : Query} : Plain (query read) := ⟨nofun, fun _ => trivial⟩

theorem plain_lookup {read : Lookup} : Plain (lookup read) := ⟨nofun, fun _ => trivial⟩

theorem plain_send {guardedAt : Option Int} {request : Request} : Plain (send guardedAt request) :=
  ⟨nofun, fun _ => trivial⟩

theorem plain_write {command : Command} (other : ¬ (PaymentAct.command command).acquires) :
    Plain (write command) := ⟨other, fun _ => trivial⟩

theorem plain_recover {body : PaymentHandler α} {handler : Failure → PaymentHandler α} (plain : Plain body)
    (later : ∀ failure, Plain (handler failure)) : Plain (Process.recover body handler) :=
  Process.every_recover plain later

theorem plain_ite {condition : Prop} [Decidable condition] {first second : PaymentHandler α}
    (plain : Plain first) (other : Plain second) : Plain (if condition then first else second) := by
  split
  · exact plain
  · exact other

theorem plain_update {change : SubscriptionUpdate} : Plain (update doc change) :=
  plain_bind (plain_write nofun) fun _ => plain_ite plain_pure plain_throw

theorem plain_renewLease : Plain renewLease :=
  plain_bind plain_readClock fun _ => plain_bind (plain_write nofun) fun _ => plain_ite plain_pure plain_throw

theorem plain_attempt {field : AttemptField} : Plain (attempt doc field) := by
  refine plain_bind plain_readClock fun now => ?_
  split
  · exact plain_ite (plain_bind plain_update fun _ => plain_throw) plain_pure
  · exact plain_bind plain_update fun _ => plain_pure

theorem plain_planFitsNow {code : PlanCode} : Plain (planFitsNow code) :=
  plain_bind plain_readClock fun _ => plain_bind plain_query fun _ => plain_bind plain_query fun _ =>
    plain_bind plain_query fun _ => plain_check

theorem plain_validateCatalog : Plain (validateCatalog config) :=
  plain_bind plain_lookup fun _ => plain_check

theorem plain_customer : Plain (customer doc) := by
  unfold customer
  split
  · exact plain_pure
  · refine plain_bind plain_query fun email => plain_bind plain_check fun email => ?_
    refine plain_bind plain_attempt fun attempted => plain_bind plain_send fun created => ?_
    exact plain_bind plain_check fun _ => plain_bind plain_update fun _ => plain_pure

theorem plain_forgetEnded : Plain (forgetEnded doc) := by
  unfold forgetEnded
  split
  · exact plain_pure
  · refine plain_bind plain_lookup fun previous => plain_bind plain_check fun _ => ?_
    exact plain_bind plain_check fun _ => plain_update

theorem plain_openSession {planCode : PlanCode} : Plain (openSession doc planCode) := by
  unfold openSession
  split
  · exact plain_pure
  · refine plain_bind plain_lookup fun existing => ?_
    split
    · exact plain_bind plain_check fun _ => plain_pure
    · exact plain_bind plain_check fun _ => plain_pure
    · exact plain_pure

theorem plain_checkoutOperation {planCode : PlanCode} : Plain (checkoutOperation doc planCode) := by
  have rotates : Plain (checkoutOperation.rotate doc planCode) := by
    refine plain_bind (plain_write nofun) fun rotated => ?_
    split
    · exact plain_throw
    · exact plain_pure
  unfold checkoutOperation
  split
  · exact plain_ite plain_pure rotates
  · exact rotates

theorem plain_followSchedule {active : Option Nat} : Plain (followSchedule doc active) := by
  unfold followSchedule
  split
  · exact plain_ite plain_pure plain_update
  · exact plain_ite plain_pure plain_update

theorem plain_cancelPlan {checkedAt : Int} {subscription : Nat} :
    Plain (cancelPlan doc checkedAt subscription) := by
  unfold cancelPlan
  have cancels : Plain (do
      send (some checkedAt) (.cancelSubscription doc.stripeChangeOperation subscription)
      let doc ← update doc .noSchedule
      update doc .planConfirmed) :=
    plain_bind plain_send fun _ => plain_bind plain_update fun _ => plain_update
  split
  · exact plain_bind plain_send fun _ => cancels
  · exact cancels

theorem plain_planEmployees : Plain (planEmployees doc) := by
  unfold planEmployees
  split
  · exact plain_pure
  · exact plain_bind plain_query fun _ => plain_bind plain_update fun _ => plain_pure

theorem plain_releaseUnneeded {checkedAt : Int} {target currentPlan : PlanCode} :
    Plain (releaseUnneeded doc checkedAt target currentPlan) := by
  unfold releaseUnneeded
  split
  · exact plain_ite (plain_bind plain_send fun _ => plain_update) plain_pure
  · exact plain_pure

theorem plain_downgradeSchedule {checkedAt : Int} {subscription : Nat} :
    Plain (downgradeSchedule doc checkedAt subscription) := by
  unfold downgradeSchedule
  split
  · exact plain_bind plain_lookup fun _ => plain_pure
  · exact plain_bind plain_send fun _ => plain_bind plain_update fun _ => plain_pure

theorem plain_scheduleDowngrade {checkedAt : Int} {subscription employees : Nat} {currentPlan target : PlanCode} :
    Plain (scheduleDowngrade doc checkedAt subscription employees currentPlan target) := by
  refine plain_bind plain_downgradeSchedule fun scheduled => plain_bind plain_check fun phase => ?_
  refine plain_bind plain_check fun next => ?_
  exact plain_bind plain_send fun _ => plain_update

theorem plain_switchPlan {checkedAt : Int} {remote : RemoteSubscription} {currentPlan target : PlanCode}
    {employees : Nat} : Plain (switchPlan doc checkedAt remote currentPlan target employees) :=
  plain_bind plain_check fun _ => plain_bind plain_send fun _ => plain_update

theorem plain_performPlanRequest : Plain (performPlanRequest config doc) := by
  unfold performPlanRequest
  split
  · refine plain_ite plain_pure (plain_bind plain_lookup fun remote => plain_bind plain_check fun _ => ?_)
    refine plain_ite plain_pure (plain_bind plain_check fun currentPlan => ?_)
    refine plain_bind plain_followSchedule fun doc => plain_bind plain_readClock fun now => ?_
    refine plain_ite (plain_bind plain_update fun _ => plain_throw) ?_
    refine plain_bind plain_attempt fun attempted => plain_ite plain_cancelPlan ?_
    refine plain_bind plain_validateCatalog fun _ => plain_bind plain_planEmployees fun counted => ?_
    refine plain_bind plain_releaseUnneeded fun doc => plain_ite plain_scheduleDowngrade ?_
    exact plain_ite (plain_bind plain_send fun _ => plain_update) plain_switchPlan
  · exact plain_pure

theorem plain_submitRows {rows : List StripeUsage} : Plain (submitRows config rows doc) := by
  induction rows generalizing doc with
  | nil => exact plain_pure
  | cons usage rest ih =>
      refine plain_bind plain_readClock fun checkedAt => plain_ite ?_ ?_
      · exact plain_bind (plain_write nofun) fun _ => plain_bind plain_update fun _ => ih
      · have delivers : Plain (do
            renewLease
            let delivered ← send (some checkedAt) (.createMeterEvent config.overageEventName
              usage.identifier usage.customerId usage.quantity usage.timestamp)
            check (require (!delivered.livemode && delivered.identifier = usage.identifier)
              (.paymentSyncValidation "Meter event confirmation is invalid"))
            let now ← readClock
            write (.usage usage.identifier (.submitted now))
            submitRows config rest doc) := by
          refine plain_bind plain_renewLease fun _ => plain_bind plain_send fun delivered => ?_
          refine plain_bind plain_check fun _ => plain_bind plain_readClock fun now => ?_
          exact plain_bind (plain_write nofun) fun _ => ih
        refine plain_ite ?_ delivers
        exact plain_bind plain_readClock fun now => plain_bind (plain_write nofun) fun _ => delivers

theorem plain_submitUsage : Plain (submitUsage config doc) :=
  plain_bind plain_query fun _ => plain_submitRows

theorem plain_reconcileOverage {invoice : Nat} {line : InvoiceLine} :
    Plain (reconcileOverage config doc invoice line) := by
  refine plain_bind plain_query fun rows => ?_
  split
  · exact plain_pure
  · refine plain_bind plain_lookup fun summaries => plain_ite plain_pure ?_
    exact plain_ite plain_pure (plain_bind plain_send fun _ => plain_pure)

theorem plain_reconcileLines {invoice employees : Nat} {lines : List InvoiceLine} :
    Plain (reconcileLines config doc invoice employees lines) := by
  induction lines with
  | nil => exact plain_pure
  | cons line rest ih =>
      have goesOn : Plain (if line.price = some .overage then do
            if ← reconcileOverage config doc invoice line then
              reconcileLines config doc invoice employees rest
            else pure false
          else reconcileLines config doc invoice employees rest) :=
        plain_ite (plain_bind plain_reconcileOverage fun _ => plain_ite ih plain_pure) ih
      exact plain_ite (plain_bind plain_send fun _ => goesOn) goesOn

theorem plain_invoiceEmployees {invoice : Invoice} : Plain (invoiceEmployees invoice) := by
  unfold invoiceEmployees
  split
  · exact plain_pure
  · exact plain_throw
  · exact plain_bind (plain_write nofun) fun _ => plain_bind plain_send fun _ => plain_pure

theorem plain_reconcileDraft {invoice : Invoice} : Plain (reconcileDraft config doc invoice) := by
  have goesOn : Plain (do
      let employees ← invoiceEmployees invoice
      let lines ← lookup (.lineItems invoice.id)
      check (require (!lines.hasMore)
        (.serviceUnavailable "Invoice reconciliation requires manual review"))
      if ← reconcileLines config doc invoice.id employees lines.data then do
        send none (.finalizeInvoice invoice.id)
        pure true
      else pure false) := by
    refine plain_bind plain_invoiceEmployees fun employees => plain_bind plain_lookup fun lines => ?_
    refine plain_bind plain_check fun _ => plain_bind plain_reconcileLines fun reconciled => ?_
    exact plain_ite (plain_bind plain_send fun _ => plain_pure) plain_pure
  refine plain_ite plain_pure ?_
  exact plain_ite (plain_bind plain_send fun _ => goesOn) goesOn

theorem plain_reconcileDrafts {drafts : List Invoice} {held : Bool} :
    Plain (reconcileDrafts config doc drafts held) := by
  induction drafts generalizing held with
  | nil => exact plain_pure
  | cons invoice rest ih =>
      exact plain_bind plain_renewLease fun _ => plain_bind plain_reconcileDraft fun _ => ih

theorem plain_verifyLines {lines : List InvoiceLine} : Plain (verifyLines lines) := by
  induction lines with
  | nil => exact plain_pure
  | cons line rest ih => exact plain_ite (plain_bind plain_query fun _ => plain_ite plain_pure ih) ih

theorem plain_verifyFinalizedUsage {invoice : Invoice} : Plain (verifyFinalizedUsage doc invoice) :=
  plain_ite plain_pure (plain_bind plain_lookup fun _ => plain_ite plain_pure plain_verifyLines)

theorem plain_applyCanonical {remote : RemoteSubscription} {event : Option Nat} {draftsHeld : Bool} :
    Plain (applyCanonical doc remote event draftsHeld) :=
  plain_bind plain_check fun _ => plain_bind (plain_write nofun) fun _ => plain_pure

theorem plain_synchronizeSeats {remote : RemoteSubscription} : Plain (synchronizeSeats doc remote) := by
  refine plain_ite (plain_bind plain_check fun plan => ?_) plain_pure
  split
  · refine plain_bind (plain_write nofun) fun quantity => plain_ite plain_pure ?_
    exact plain_bind plain_send fun _ => plain_lookup
  · exact plain_pure

theorem plain_latestVerified {remote : RemoteSubscription} : Plain (latestVerified doc remote) := by
  unfold latestVerified
  split
  · exact plain_pure
  · exact plain_ite plain_pure plain_verifyFinalizedUsage

theorem plain_synchronize {event : Option Nat} : Plain (synchronize config doc event) := by
  unfold synchronize
  split
  · exact plain_pure
  · refine plain_bind plain_submitUsage fun doc => plain_bind plain_lookup fun remote => ?_
    refine plain_bind plain_check fun _ => ?_
    have commits : ∀ doc : Subscription, Plain (do
        let remote ← synchronizeSeats doc remote
        let drafts ← lookup (.draftInvoices doc.stripeCustomerId)
        let held ← reconcileDrafts config doc drafts.data false
        renewLease
        let verified ← latestVerified doc remote
        applyCanonical doc remote event (held || drafts.hasMore || !verified)) := by
      intro doc
      refine plain_bind plain_synchronizeSeats fun remote => plain_bind plain_lookup fun drafts => ?_
      refine plain_bind plain_reconcileDrafts fun held => plain_bind plain_renewLease fun _ => ?_
      exact plain_bind plain_latestVerified fun verified => plain_applyCanonical
    exact plain_ite (plain_bind plain_update commits) (commits _)

theorem plain_completeCheckout {session : CheckoutSession} : Plain (completeCheckout config doc session) := by
  have counts : ∀ (doc : Subscription) (current : Nat), Plain (checkoutEmployees doc current) := by
    intro doc current
    unfold checkoutEmployees
    split
    · exact plain_pure
    · exact plain_bind plain_update fun _ => plain_pure
  refine plain_bind plain_check fun planCode => plain_bind plain_check fun setupId => ?_
  refine plain_bind plain_lookup fun setup => plain_bind plain_check fun _ => ?_
  refine plain_bind plain_validateCatalog fun _ => plain_bind plain_planFitsNow fun current => ?_
  refine plain_bind (counts _ _) fun counted => plain_bind plain_attempt fun attempted => ?_
  exact plain_bind plain_send fun remote => plain_bind plain_update fun doc => plain_applyCanonical

theorem plain_completePending : Plain (completePending config doc) := by
  unfold completePending
  split
  · exact plain_bind plain_lookup fun _ => plain_ite plain_completeCheckout plain_pure
  · exact plain_pure

theorem plain_processEvent {event : StripeEvent} : Plain (processEvent config event doc) := by
  have records : ∀ doc : Subscription, Plain (do
      if doc.stripeSubscriptionId = none then write (.recordEvent event.id)
      else do
        let _ ← synchronize config doc (some event.id)
        pure ()) := by
    intro doc
    exact plain_ite (plain_write nofun) (plain_bind plain_synchronize fun _ => plain_pure)
  refine plain_bind plain_query fun seen => plain_ite plain_pure ?_
  dsimp only
  split
  · refine plain_ite (plain_bind plain_lookup fun session => ?_) (records _)
    exact plain_bind plain_completeCheckout records
  · exact records _

theorem plain_subscriptionOf {object : EventObject} : Plain (subscriptionOf object) := by
  unfold subscriptionOf
  split
  · exact plain_query
  · exact plain_query
  · exact plain_query
  · exact plain_pure
  · exact plain_pure

theorem plain_recordUnknown {event : StripeEvent} : Plain (recordUnknown event) := by
  have records : Plain (do
      write (.recordEvent event.id)
      pure WebhookReply.ignored) := plain_bind (plain_write nofun) fun _ => plain_pure
  unfold recordUnknown
  split
  · exact records
  · exact plain_bind plain_query fun creating => plain_bind plain_check fun _ => records

theorem plain_eventFailure {event : StripeEvent} {failure : Failure} : Plain (eventFailure event failure) := by
  have answers : ∀ confirmed : Bool, Plain (if confirmed then pure WebhookReply.duplicate
      else throw (.serviceUnavailable "Stripe synchronization temporarily unavailable")) :=
    fun _ => plain_ite plain_pure plain_throw
  refine plain_ite (plain_bind (plain_recover plain_query fun _ => plain_pure) answers) ?_
  exact plain_bind plain_pure answers

/-- A request that tries to take the lease at most once. -/
def Leasing (program : PaymentHandler α) : Prop :=
  Process.Once (fun act => act.acquires) program.run

theorem Plain.leasing {program : PaymentHandler α} (plain : Plain program) : Leasing program := .of_every plain

theorem Leasing.after {first : PaymentHandler α} {next : α → PaymentHandler β} (plain : Plain first)
    (later : ∀ value, Leasing (next value)) : Leasing (first >>= next) := Process.once_bind_after plain later

theorem Leasing.before {first : PaymentHandler α} {next : α → PaymentHandler β} (leasing : Leasing first)
    (later : ∀ value, Plain (next value)) : Leasing (first >>= next) := Process.once_bind leasing later

theorem Leasing.ite {condition : Prop} [Decidable condition] {first second : PaymentHandler α}
    (leasing : Leasing first) (other : Leasing second) : Leasing (if condition then first else second) := by
  split
  · exact leasing
  · exact other

/-- `withLease` takes the lease before its body, which does not take it again. -/
theorem leasing_withLease {work : Subscription → PaymentHandler α} (plain : ∀ doc, Plain (work doc)) :
    Leasing (withLease work) := by
  refine .after plain_readClock fun now => .before ⟨fun _ => trivial, fun _ _ => trivial⟩ fun leased => ?_
  cases leased with
  | none => exact plain_throw
  | some doc => exact Process.every_withCleanup (plain doc) (plain_write nofun)

theorem leasing_safeApi {work : PaymentHandler α} (leasing : Leasing work) : Leasing (safeApi work) :=
  Process.once_recover leasing fun _ => plain_throw

theorem leasing_checkout {actor : AuthenticatedUser} {planCode : PlanCode} :
    Leasing (checkout config actor planCode) := by
  refine .after plain_check fun _ => .after plain_check fun _ => leasing_safeApi (leasing_withLease fun doc => ?_)
  refine plain_bind plain_validateCatalog fun _ => plain_bind plain_check fun _ => ?_
  refine plain_bind plain_forgetEnded fun doc => plain_bind plain_planFitsNow fun _ => ?_
  refine plain_bind plain_customer fun paying => plain_bind plain_openSession fun url => ?_
  split
  · exact plain_pure
  · refine plain_bind plain_checkoutOperation fun operation => plain_bind plain_attempt fun attempted => ?_
    exact plain_bind plain_send fun created => plain_bind plain_update fun _ => plain_pure

theorem leasing_changePlan {actor : AuthenticatedUser} {code : PlanCode} :
    Leasing (changePlan config actor code) := by
  refine .after plain_check fun _ => leasing_safeApi (leasing_withLease fun doc => ?_)
  split
  · exact plain_bind plain_check fun _ => plain_bind (plain_write nofun) fun _ => plain_pure
  · have performs : ∀ doc : Subscription, Plain (do
        let doc ← performPlanRequest config doc
        synchronize config doc none) := fun _ => plain_bind plain_performPlanRequest fun _ => plain_synchronize
    refine plain_bind (plain_write nofun) fun queued => ?_
    split
    · exact plain_bind plain_pure performs
    · exact plain_bind plain_pure performs

theorem leasing_reconcileCompany : Leasing (reconcileCompany config) := by
  refine .ite (leasing_safeApi (leasing_withLease fun doc => ?_)) plain_pure.leasing
  refine plain_bind plain_completePending fun doc => ?_
  have synchronizes : ∀ doc : Subscription, Plain (do
      let doc ← synchronize config doc none
      pure (some doc)) := fun _ => plain_bind plain_synchronize fun _ => plain_pure
  exact plain_ite (synchronizes _) (plain_bind plain_performPlanRequest synchronizes)

theorem leasing_webhook {event : StripeEvent} : Leasing (webhook config event) := by
  refine .after plain_check fun _ => .after plain_check fun _ => .after plain_check fun _ => ?_
  refine .ite plain_pure.leasing (.after plain_query fun seen => .ite plain_pure.leasing ?_)
  refine Process.once_recover ?_ fun _ => plain_eventFailure
  refine Leasing.after plain_subscriptionOf fun known => ?_
  split
  · exact plain_recordUnknown.leasing
  · exact .before (leasing_withLease fun _ => plain_processEvent) fun _ => plain_pure

theorem leasing_workerPass : Leasing (workerPass config) := by
  refine Process.once_recover ?_ fun _ => plain_pure
  refine Leasing.after plain_readClock fun now => .ite plain_pure.leasing ?_
  refine .after plain_query fun due => .ite ?_ plain_pure.leasing
  refine .after (plain_write nofun) fun claimed => .ite ?_ plain_pure.leasing
  exact Process.once_recover (leasing_reconcileCompany.before fun _ => plain_pure) fun _ => plain_write nofun

/-- Every request tries to take the lease at most once. -/
theorem acquires_once (job : PaymentJob) : Process.Once (fun act : PaymentAct => act.acquires) (job.handler config) := by
  cases job with
  | checkout actor planCode => exact leasing_checkout.before fun _ => plain_pure
  | reconcileCompany => exact leasing_reconcileCompany.before fun _ => plain_pure
  | webhook event => exact leasing_webhook.before fun _ => plain_pure
  | worker => exact leasing_workerPass.before fun _ => plain_pure
  | changePlan actor planCode =>
      refine Leasing.before (Leasing.after plain_check fun _ => .ite ?_ ?_) fun _ => plain_pure
      · exact leasing_changePlan.before fun _ => plain_pure
      · exact Plain.leasing (plain_bind plain_readClock fun _ => plain_write nofun)
  | upload | publishCopy source =>
      refine Plain.leasing (plain_bind ?_ fun _ => plain_pure)
      exact plain_bind plain_readClock fun _ => plain_write nofun
  | deleteFile file =>
      refine Plain.leasing (plain_bind (plain_bind plain_query fun found => ?_) fun _ => plain_pure)
      refine plain_bind plain_check fun _ => plain_bind (plain_write nofun) fun deleted => ?_
      exact plain_ite plain_pure plain_throw

end Plain

/-! ### Who holds the lease

The owner of the stored lease changes in two ways only: its holder gives it back, or a run whose next action takes
it finds it free or lapsed. The environment never writes it. -/

/-- A run comes to hold the lease only by taking it. -/
theorem leased_of_execute {enabled : Bool} {run holder : Nat} {published : Except Failure Unit}
    {command : Command} {answer : command.Res} {db : BillingDb}
    (executed : w.db.execute enabled run w.steps w.clock published command = .ok (answer, db))
    (leased : db.leasedTo holder) :
    w.db.leasedTo holder ∨ run = holder ∧ (PaymentAct.command command).acquires := by
  have taken : ∀ now : Int, BillingDb.leasedTo { w.db with lease := some ⟨run, now⟩ } holder → run = holder :=
    fun now leased => Option.some.inj leased
  cases command with
  | acquireLease now =>
      simp only [BillingDb.execute] at executed
      split at executed
      · split at executed
        · cases executed
          exact .inr ⟨taken _ leased, rfl⟩
        · cases executed
          exact .inl leased
      · cases executed
        exact .inr ⟨taken _ leased, rfl⟩
  | releaseLease =>
      simp only [BillingDb.execute] at executed
      cases executed
      split at leased
      · cases leased
      · exact .inl leased
  | renewLease now =>
      simp only [BillingDb.execute] at executed
      split at executed
      · rename_i held
        cases executed
        rw [← taken _ leased]
        exact .inl held
      · cases executed
        exact .inl leased
  | update | rotateCheckout | recordEvent | deleteFile | claimSync | retryRequired =>
      simp only [BillingDb.execute] at executed
      split at executed
      all_goals cases executed
      all_goals exact .inl leased
  | localPlan doc code =>
      obtain ⟨_, _, executed⟩ := bind_ok_iff.mp executed
      obtain ⟨_, _, executed⟩ := bind_ok_iff.mp executed
      cases executed
      exact .inl leased
  | queuePlan doc code =>
      obtain ⟨queued, _, executed⟩ := bind_ok_iff.mp executed
      cases queued with
      | none =>
          cases executed
          exact .inl leased
      | some queued =>
          obtain ⟨_, _, executed⟩ := bind_ok_iff.mp executed
          cases executed
          exact .inl leased
  | applyCanonical doc status remote event draftsHeld =>
      obtain ⟨fields, _, executed⟩ := bind_ok_iff.mp executed
      obtain ⟨_, _, executed⟩ := bind_ok_iff.mp executed
      obtain ⟨_, _, executed⟩ := bind_ok_iff.mp executed
      cases executed
      exact .inl leased
  | upload now =>
      obtain ⟨db, recorded, executed⟩ := bind_ok_iff.mp executed
      cases executed
      have same : db.lease = w.db.lease := (recordUpload_stores ⟨0, false⟩ recorded).lease
      refine .inl ?_
      unfold BillingDb.leasedTo
      rw [← same]
      exact leased
  | publishCopy source now =>
      obtain ⟨_, _, executed⟩ := bind_ok_iff.mp executed
      obtain ⟨_, _, executed⟩ := bind_ok_iff.mp executed
      obtain ⟨db, recorded, executed⟩ := bind_ok_iff.mp executed
      cases executed
      have same : db.lease = w.db.lease := (recordUpload_stores ⟨0, false⟩ recorded).lease
      refine .inl ?_
      unfold BillingDb.leasedTo
      rw [← same]
      exact leased
  | changePlan code changedAt =>
      obtain ⟨_, _, executed⟩ := bind_ok_iff.mp executed
      cases executed
      exact .inl leased
  | employeeSnapshot | usage identifier delivery =>
      cases executed
      exact .inl leased

theorem leased_of_exec {enabled : Bool} {run holder : Nat} {choice : Choice} {act : PaymentAct}
    {answer : act.Res} (executed : paymentExec enabled run choice act w = some (answer, w'))
    (leased : w'.db.leasedTo holder) : w.db.leasedTo holder ∨ run = holder ∧ act.acquires := by
  rcases exec_cases executed with rfl | ⟨command, result, db, rfl, rfl, done⟩ | ⟨_, _, _, rfl, rfl⟩
  · exact .inl leased
  · exact leased_of_execute done leased
  · exact .inl leased

theorem leased_of_drift {change : PaymentDrift} {holder : Nat} (drifted : paymentDrift change w = some w')
    (leased : w'.db.leasedTo holder) : w.db.leasedTo holder := by
  rcases paymentDrift_db drifted with ⟨same, _⟩ | ⟨_, _, rfl⟩
  · rw [← same]
    exact leased
  · exact leased

/-! ### The fence

The two halves meet here. A run that has taken the lease is plain from then on, so once another run has taken it the
first one is without it for good, and what an unleased run writes through `update` has no effect. No clock is
compared: the lease may lapse while its holder stalls, as long as the takeover is what ends it. -/

/-- The actions that write to the subscription through `update`, in the world they are executed in: all but the
queueing of a plan that is already queued. -/
def PaymentAct.writesThrough (w : PaymentWorld) : PaymentAct → Bool
  | .command (.update ..) | .command (.rotateCheckout ..) | .command (.localPlan ..)
  | .command (.applyCanonical ..) => true
  | .command (.queuePlan doc code) =>
      match queuePlan w.db.company doc code w.steps w.clock with
      | .ok none => false
      | _ => true
  | _ => false

/-- Without the lease they write nothing. -/
theorem execute_unleased {enabled : Bool} {run : Nat} {published : Except Failure Unit} {command : Command}
    {answer : command.Res} {db : BillingDb} (unleased : ¬ w.db.leasedTo run)
    (writes : (PaymentAct.command command).writesThrough w)
    (executed : w.db.execute enabled run w.steps w.clock published command = .ok (answer, db)) : db = w.db := by
  have fenced : ∀ {db : BillingDb} {checked : Unit}, db.leasedTo run = w.db.leasedTo run →
      require (db.leasedTo run) leaseExpired ≠ .ok checked := by
    intro db checked same passed
    rw [require_ok_iff, decide_eq_true_eq, same] at passed
    exact unleased passed
  cases command with
  | update doc change =>
      simp only [BillingDb.execute, if_neg unleased] at executed
      cases executed
      rfl
  | rotateCheckout doc planCode =>
      simp only [BillingDb.execute, if_neg unleased] at executed
      cases executed
      rfl
  | localPlan doc code =>
      obtain ⟨_, _, executed⟩ := bind_ok_iff.mp executed
      obtain ⟨_, passed, _⟩ := bind_ok_iff.mp executed
      exact absurd passed (fenced rfl)
  | queuePlan doc code =>
      obtain ⟨queued, queues, executed⟩ := bind_ok_iff.mp executed
      cases queued with
      | none => simp [PaymentAct.writesThrough, queues] at writes
      | some queued =>
          obtain ⟨_, passed, _⟩ := bind_ok_iff.mp executed
          exact absurd passed (fenced rfl)
  | applyCanonical doc status remote event draftsHeld =>
      obtain ⟨_, _, executed⟩ := bind_ok_iff.mp executed
      obtain ⟨_, passed, _⟩ := bind_ok_iff.mp executed
      exact absurd passed (fenced rfl)
  | _ => cases writes

/-- A run takes the lease in this event. -/
structure Acquires (config : PaymentConfig) (run : Nat) (s s' : PaymentSystem) : Prop where
  asked : ∃ act ∈ awaited s run, act.acquires
  stepped : ∃ choice, (paymentMachine config).apply s (.step run choice) = some s'
  leased : s'.world.db.leasedTo run

section Runs

variable {companyId : Nat} {activatedAt clock : Int} {ownerEmail : Option String}
variable {ok : PaymentSystem → PaymentEvent → Prop} {s s₁ s₂ s₃ : PaymentSystem} {events : List PaymentEvent}

/-- A run that has taken the lease does not try to take it again. -/
theorem plain_of_acquired {run : Nat}
    (started : (paymentMachine config).Run ok (freshCompany companyId activatedAt clock ownerEmail) events s)
    (acquired : Acquires config run s s₁) :
    ∃ process, s₁.runs[run]? = some process ∧ Process.Every (fun act => ¬ act.acquires) process := by
  have once := started.processes (Process.Once (fun act : PaymentAct => act.acquires)) acquires_once
    (fun act resume once answer => once.1 answer) nofun
  obtain ⟨act, awaits, acquires⟩ := acquired.asked
  obtain ⟨resume, waiting⟩ := waiting_of_awaited awaits
  obtain ⟨choice, stepped⟩ := acquired.stepped
  rcases Machine.apply_run waiting stepped with ⟨_, foreign⟩ | ⟨_, _, _, answer, _, same, _, next⟩
  · exact absurd rfl (foreign choice)
  · cases same
    exact ⟨_, next, (once run _ waiting).2 acquires answer⟩

/-- A process that does not try to take the lease goes on without it, whatever the others do. -/
theorem unleased_follows {run : Nat} {process : Process PaymentAct PaymentAct.Res (Except Failure PaymentReply)}
    (plain : Process.Every (fun act => ¬ act.acquires) process) (present : s₁.runs[run]? = some process)
    (unleased : ¬ s₁.world.db.leasedTo run) (later : (paymentMachine config).Run ok s₁ events s₂) :
    ¬ s₂.world.db.leasedTo run := by
  have followed := later.follows
    (fun process w => Process.Every (fun act => ¬ act.acquires) process ∧ ¬ w.db.leasedTo run) ?_ ?_ present
    ⟨plain, unleased⟩
  · obtain ⟨_, _, _, unleased⟩ := followed
    exact unleased
  · rintro s choice act resume answer w' _ _ ⟨plain, unleased⟩ executed
    refine ⟨plain.2 answer, fun leased => ?_⟩
    have done : paymentExec config.enabled run choice act s.world = some (answer, w') := executed
    rcases leased_of_exec done leased with held | ⟨_, acquires⟩
    · exact unleased held
    · exact plain.1 acquires
  · rintro s event process w' _ _ foreign moves ⟨plain, unleased⟩
    refine ⟨plain, fun leased => ?_⟩
    cases moves with
    | arrival job same =>
        rw [same] at leased
        exact unleased leased
    | @action other choice act resume answer waiting executed =>
        have done : paymentExec config.enabled other choice act s.world = some (answer, w') := executed
        rcases leased_of_exec done leased with held | ⟨rfl, _⟩
        · exact unleased held
        · exact foreign choice rfl
    | drifted happened => exact unleased (leased_of_drift happened leased)

/-- Once another run has taken the lease, the first one never holds it again. -/
theorem unleased_of_takeover {writer other : Nat} {later latest : List PaymentEvent} (foreign : other ≠ writer)
    (started : (paymentMachine config).Run ok (freshCompany companyId activatedAt clock ownerEmail) events s)
    (acquired : Acquires config writer s s₁) (between : (paymentMachine config).Run ok s₁ later s₂)
    {s₄ : PaymentSystem} (takenOver : Acquires config other s₂ s₃)
    (after : (paymentMachine config).Run ok s₃ latest s₄) : ¬ s₄.world.db.leasedTo writer := by
  obtain ⟨process, present, plain⟩ := plain_of_acquired started acquired
  have followed := between.follows
    (fun process _ => Process.Every (fun act : PaymentAct => ¬ act.acquires) process)
    (fun _ _ _ _ answer _ _ _ plain _ => plain.2 answer) (fun _ _ _ _ _ _ _ _ plain => plain) present plain
  obtain ⟨process', present', plain'⟩ := followed
  obtain ⟨choice, stepped⟩ := takenOver.stepped
  rcases Machine.apply_run present' stepped with ⟨kept, _⟩ | ⟨_, _, _, _, same, _⟩
  · refine unleased_follows plain' kept (fun leased => ?_) after
    exact foreign (BillingDb.leasedTo_unique leased takenOver.leased)
  · cases same
    exact absurd rfl foreign

/-- What a run that took the lease in `s` writes through `update` once another run has taken it has no
effect. -/
def UpdatesFenced (config : PaymentConfig) (s : PaymentSystem) : Prop :=
  ∀ (writer other : Nat) (later latest : List PaymentEvent) (s₁ s₂ s₃ s₄ s₅ : PaymentSystem) (act : PaymentAct)
    (choice : Choice), other ≠ writer → Acquires config writer s s₁ →
    (paymentMachine config).Run (fun _ _ => True) s₁ later s₂ → Acquires config other s₂ s₃ →
    (paymentMachine config).Run (fun _ _ => True) s₃ latest s₄ → awaited s₄ writer = some act →
    act.writesThrough s₄.world → (paymentMachine config).apply s₄ (.step writer choice) = some s₅ →
    s₅.world.db = s₄.world.db

/-- The release of a holder leaves the lease of another one as it is. -/
def ReleaseFenced (config : PaymentConfig) (s : PaymentSystem) : Prop :=
  ∀ (holder other : Nat) (s' : PaymentSystem) (act : PaymentAct) (choice : Choice), other ≠ holder →
    awaited s holder = some act → act.releases → (paymentMachine config).apply s (.step holder choice) = some s' →
    s.world.db.leasedTo other → s'.world.db.lease = s.world.db.lease

/-- The checks that let requests through under one key of the customer, Checkout, subscription and plan
operations lie within one retry window. -/
def RetriesFenced (s : PaymentSystem) : Prop :=
  ∀ (guardedAt guardedAt' : Option Int) (request request' : Request) (key : IdempotencyKey),
    LetThrough s guardedAt request → LetThrough s guardedAt' request' → request.key = some key →
    request'.key = some key → key.attempt.isSome →
    ∃ checkedAt checkedAt', guardedAt = some checkedAt ∧ guardedAt' = some checkedAt' ∧
      checkedAt' - checkedAt ≤ stripeRetryWindowMs

theorem updates_fenced
    (started : (paymentMachine config).Run ok (freshCompany companyId activatedAt clock ownerEmail) events s) :
    UpdatesFenced config s := by
  intro writer other later latest s₁ s₂ s₃ s₄ s₅ act choice foreign acquired between takenOver after awaits
    writes stepped
  have unleased := unleased_of_takeover foreign (started.mono fun _ _ _ => trivial) acquired between takenOver after
  obtain ⟨resume, waiting⟩ := waiting_of_awaited awaits
  rcases Machine.apply_run waiting stepped with ⟨_, moved⟩ | ⟨_, _, _, answer, event, same, executed, _⟩
  · exact absurd rfl (moved choice)
  · cases event
    cases same
    have done : paymentExec config.enabled writer choice act s₄.world = some (answer, s₅.world) := executed
    rcases exec_cases done with ticked | ⟨command, result, db, rfl, written, wrote⟩ | ⟨_, _, _, rfl, _⟩
    · rw [ticked]
      rfl
    · rw [written]
      exact execute_unleased unleased writes wrote
    · cases writes

theorem release_fenced : ReleaseFenced config s := by
  intro holder other s' act choice foreign awaits releases stepped leased
  obtain rfl := PaymentAct.eq_of_releases releases
  obtain ⟨resume, waiting⟩ := waiting_of_awaited awaits
  rcases Machine.apply_run waiting stepped with ⟨_, moved⟩ | ⟨_, _, _, answer, event, same, executed, _⟩
  · exact absurd rfl (moved choice)
  · cases event
    cases same
    have done : paymentExec config.enabled holder choice (.command .releaseLease) s.world =
      some (answer, s'.world) := executed
    rcases exec_cases done with ticked | ⟨_, result, db, same, written, wrote⟩ | ⟨_, _, _, same, _⟩
    · rw [ticked]
      rfl
    · cases same
      have others : ¬ s.world.db.leasedTo holder := fun own => foreign (BillingDb.leasedTo_unique own leased)
      simp only [BillingDb.execute, if_neg others] at wrote
      cases wrote
      rw [written]
      rfl
    · cases same

end Runs

/-- In every interleaving, in every state of it: writes through `update` and releases are fenced by the lease,
and the checks before Stripe creates lie within one retry window. -/
theorem stripe_creates_fenced {companyId : Nat} {activatedAt clock : Int} {ownerEmail : Option String}
    {s : PaymentSystem} {events : List PaymentEvent}
    (interleaving : (paymentMachine config).Run (fun _ _ => True)
      (freshCompany companyId activatedAt clock ownerEmail) events s) :
    UpdatesFenced config s ∧ ReleaseFenced config s ∧ RetriesFenced s := by
  refine ⟨updates_fenced interleaving, release_fenced, ?_⟩
  intro guardedAt guardedAt' request request' key through through' keyed keyed' guarded
  exact letThrough_within interleaving through through' keyed keyed' guarded

/-- A Checkout request that is about to take the lease. -/
def checkoutArrives : List PaymentEvent := .arrive (.checkout companyOwner .basic) :: stepping 0 1 (granting .basic)

/-- It goes on until it is about to store its first attempt, and stalls for five minutes; a reconciliation is
about to take the lease. -/
def checkoutStalls : List PaymentEvent :=
  stepping 0 7 (granting .basic) ++
    [.drift (.tick 300000), .arrive .reconcileCompany, .step 1 (granting .basic)]

/-- A Checkout request whose answer to the creation of a customer is lost, and an hour later a second one. -/
def customerRetried : List PaymentEvent :=
  .arrive (.checkout companyOwner .basic) :: stepping 0 10 (granting .basic) ++
    [.step 0 { granting .basic with fate := .lostAfter }, .step 0 (granting .basic), .drift (.tick 3600000),
      .arrive (.checkout companyOwner .basic)] ++
    stepping 1 10 (granting .basic)

/-- The stalled request neither stores its attempt nor releases the lease of the reconciliation, and the two
checks before the creation of the customer are an hour apart. -/
theorem stripe_creates_fenced_takeover :
    (∃ s₀ s₁ s₂ s₃ s₄, (paymentMachine testMode).play checkoutArrives (freshCompany 1 0 0 (some "owner")) = some s₀ ∧
      Acquires testMode 0 s₀ s₁ ∧ (paymentMachine testMode).play checkoutStalls s₁ = some s₂ ∧
      Acquires testMode 1 s₂ s₃ ∧
      (paymentMachine testMode).apply s₃ (.step 0 (granting .basic)) = some s₄ ∧ s₄.world.db = s₃.world.db ∧
      ∃ s₅, (paymentMachine testMode).apply s₄ (.step 0 (granting .basic)) = some s₅ ∧
        s₅.world.db.lease = s₄.world.db.lease) ∧
    ∃ s, (paymentMachine testMode).play customerRetried (freshCompany 1 0 0 (some "owner")) = some s ∧
      ∃ first second, s.world.sent = [second, first] ∧ first.request.key = some (.customer 1) ∧
        second.request.key = some (.customer 1) ∧
        ∃ checkedAt checkedAt', first.guardedAt = some checkedAt ∧ second.guardedAt = some checkedAt' ∧
          checkedAt' - checkedAt ≤ stripeRetryWindowMs := by
  constructor
  · have plays : (((paymentMachine testMode).play checkoutArrives (freshCompany 1 0 0 (some "owner"))).bind fun s₀ =>
        ((paymentMachine testMode).apply s₀ (.step 0 (granting .basic))).bind fun s₁ =>
        ((paymentMachine testMode).play checkoutStalls s₁).bind fun s₂ =>
        ((paymentMachine testMode).apply s₂ (.step 1 (granting .basic))).bind fun s₃ =>
        ((paymentMachine testMode).apply s₃ (.step 0 (granting .basic))).bind fun s₄ =>
        ((paymentMachine testMode).apply s₄ (.step 0 (granting .basic))).map fun _ =>
          decide ((∃ act ∈ awaited s₀ 0, act.acquires) ∧ s₁.world.db.leasedTo 0 ∧
            (∃ act ∈ awaited s₂ 1, act.acquires) ∧ s₃.world.db.leasedTo 1 ∧
            (∃ act ∈ awaited s₃ 0, act.writesThrough s₃.world) ∧ s₄.world.db.leasedTo 1 ∧
            ∃ act ∈ awaited s₄ 0, act.releases)) = some true := by decide +kernel
    obtain ⟨s₀, played, plays⟩ := Option.bind_eq_some_iff.mp plays
    obtain ⟨s₁, acquired, plays⟩ := Option.bind_eq_some_iff.mp plays
    obtain ⟨s₂, between, plays⟩ := Option.bind_eq_some_iff.mp plays
    obtain ⟨s₃, takenOver, plays⟩ := Option.bind_eq_some_iff.mp plays
    obtain ⟨s₄, written, plays⟩ := Option.bind_eq_some_iff.mp plays
    obtain ⟨s₅, released, checks⟩ := Option.map_eq_some_iff.mp plays
    obtain ⟨asked, leased, askedToo, leasedToo, ⟨act, awaits, writes⟩, leasedStill, act', awaits', releases⟩ :=
      of_decide_eq_true checks
    have first : Acquires testMode 0 s₀ s₁ := ⟨asked, ⟨_, acquired⟩, leased⟩
    have second : Acquires testMode 1 s₂ s₃ := ⟨askedToo, ⟨_, takenOver⟩, leasedToo⟩
    have start := Machine.run_of_play played
    have middle := Machine.run_of_play between
    have fenced := (stripe_creates_fenced start).1 0 1 checkoutStalls [] s₁ s₂ s₃ s₃ s₄ act (granting .basic)
      (by decide) first middle second (.nil s₃) awaits writes written
    have whole : (paymentMachine testMode).Run (fun _ _ => True) (freshCompany 1 0 0 (some "owner"))
        (checkoutArrives ++ [.step 0 (granting .basic)] ++ checkoutStalls ++ [.step 1 (granting .basic)] ++
          [.step 0 (granting .basic)]) s₄ :=
      (((start.trans (.cons trivial acquired (.nil _))).trans middle).trans
        (.cons trivial takenOver (.nil _))).trans (.cons trivial written (.nil _))
    have kept := (stripe_creates_fenced whole).2.1 0 1 s₅ act' (granting .basic) (by decide) awaits' releases
      released leasedStill
    exact ⟨s₀, s₁, s₂, s₃, s₄, played, first, between, second, written, fenced, s₅, released, kept⟩
  · have plays : ((paymentMachine testMode).play customerRetried (freshCompany 1 0 0 (some "owner"))).map
        (fun s => s.world.sent.map fun entry => (entry.guardedAt, entry.request.key)) =
          some [(some 3600000, some (.customer 1)), (some 0, some (.customer 1))] := by decide +kernel
    obtain ⟨s, played, sent⟩ := Option.map_eq_some_iff.mp plays
    obtain ⟨second, rest, there, newest, older⟩ := List.map_eq_cons_iff.mp sent
    obtain ⟨first, rest', there', oldest, none⟩ := List.map_eq_cons_iff.mp older
    obtain rfl := List.map_eq_nil_iff.mp none
    subst there'
    obtain ⟨_, keyed⟩ := Prod.mk.inj newest
    obtain ⟨_, keyed'⟩ := Prod.mk.inj oldest
    have through : LetThrough s first.guardedAt first.request := .inl ⟨first, by simp [there], rfl, rfl⟩
    have through' : LetThrough s second.guardedAt second.request := .inl ⟨second, by simp [there], rfl, rfl⟩
    exact ⟨s, played, first, second, there, keyed', keyed,
      (stripe_creates_fenced (Machine.run_of_play played)).2.2 _ _ _ _ _ through through' keyed' keyed rfl⟩

end DataVault.Payments
