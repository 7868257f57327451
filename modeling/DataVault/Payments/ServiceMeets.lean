/-
Module: DataVault.Payments.ServiceMeets
Layer: Proof
Purpose: Every payment handler meets the payment contract. There is one lemma for each function of the service,
  in the form of a rule: it states what the function needs and what it passes on to its continuation, and the
  lemmas of its callers use it without unfolding the function again.
Imports: DataVault.Payments.Contract
Trusted boundary: none
Main exports: Works, paymentContract_sound
-/
import DataVault.Payments.Contract

namespace DataVault.Payments

open DataVault.Control DataVault.Interleaving DataVault.Plans DataVault.Store DataVault.Subscriptions
open DataVault.Users

/-- A handler, executed by `run` from `w` on, meets the contract and ends in `Q` where it does not fail. -/
def Works (config : PaymentConfig) (strict timely : Prop) (run : Nat) {α : Type} (program : PaymentHandler α)
    (Q : α → PaymentWorld → Prop) (w : PaymentWorld) : Prop :=
  (paymentContract config strict timely).Meets run (Ends Q Any) program.run w

variable {config : PaymentConfig} {strict timely : Prop} {run : Nat} {α β : Type}
variable {Q : α → PaymentWorld → Prop} {w : PaymentWorld}

/-! ### Structural rules -/

theorem works_throw {failure : Failure} : Works config strict timely run (throw failure : PaymentHandler α) Q w :=
  trivial

theorem works_bind {R : β → PaymentWorld → Prop} {first : PaymentHandler α} {next : α → PaymentHandler β}
    (works : Works config strict timely run first (fun value w' => Works config strict timely run (next value) R w') w) :
    Works config strict timely run (first >>= next) R w :=
  Contract.meets_bind works fun _ _ continued => continued

theorem works_mono {R : α → PaymentWorld → Prop} {program : PaymentHandler α}
    (works : Works config strict timely run program Q w) (weaker : ∀ value w', Q value w' → R value w') :
    Works config strict timely run program R w := by
  refine Contract.Meets.mono (fun outcome w' ended => ?_) works
  cases outcome with
  | ok value => exact weaker value w' ended
  | error failure => trivial

theorem works_check {outcome : Except Failure α} (passes : ∀ value, outcome = .ok value → Q value w) :
    Works config strict timely run (check outcome) Q w := by
  cases outcome with
  | ok value => exact passes value rfl
  | error failure => trivial

theorem works_recover {program : PaymentHandler α} {handler : Failure → PaymentHandler α}
    (works : Works config strict timely run program Q w)
    (handles : ∀ failure w', Works config strict timely run (handler failure) Q w') :
    Works config strict timely run (Process.recover program handler) Q w :=
  Contract.meets_recover works fun failure w' _ => handles failure w'

theorem works_safeApi {program : PaymentHandler α} (works : Works config strict timely run program Q w) :
    Works config strict timely run (safeApi program) Q w :=
  works_recover works fun _ _ => trivial

/-! ### Single actions -/

theorem rely_tick (w : PaymentWorld) (consistent : Consistent w) : Rely config strict run w w.tick :=
  have still : PaymentStep config strict run w w.tick := .idle
  Rely.of_same (still.grows consistent) rfl run

/-- A reading of the clock, with the world in which it is read. -/
theorem works_clock {Q : Int → PaymentWorld → Prop}
    (continues : ∀ w₁, (timely → AttemptsPast w₁) → Rely config strict run w w₁.tick → Q w₁.clock w₁.tick) :
    Works config strict timely run readClock Q w := by
  intro w₁ relied inv
  refine ⟨⟨trivial, fun _ => trivial⟩, fun _ answer w₂ executed => ?_⟩
  cases executed
  exact continues w₁ inv.past (relied.trans (rely_tick w₁ inv.consistent))

theorem works_readClock {Q : Int → PaymentWorld → Prop}
    (continues : ∀ w', Rely config strict run w w' → Q w'.clock w') :
    Works config strict timely run readClock Q w :=
  works_clock fun w₁ _ relied => continues w₁.tick relied

theorem works_query {read : Query} {Q : read.Res → PaymentWorld → Prop}
    (continues : ∀ w', Rely config strict run w w' → Q (w'.db.answer read) w') :
    Works config strict timely run (query read) Q w := by
  intro w₁ relied inv
  refine ⟨⟨trivial, fun _ => trivial⟩, fun choice answer w₂ executed => ?_⟩
  obtain ⟨rfl, rfl⟩ := Prod.mk.inj (Option.some.inj executed)
  split
  · exact continues w₁.tick (relied.trans (rely_tick w₁ inv.consistent))
  · trivial

/-- A read of Stripe; its answer is what Stripe had when it was read. -/
theorem works_lookup {read : Lookup} {Q : read.Res → PaymentWorld → Prop}
    (continues : ∀ w₁ choice answer, Rely config strict run w w₁ → Consistent w₁ →
      w₁.find choice read = some answer → Rely config strict run w w₁.tick → Q answer w₁.tick) :
    Works config strict timely run (lookup read) Q w := by
  intro w₁ relied inv
  refine ⟨⟨trivial, fun _ => trivial⟩, fun choice answer w₂ executed => ?_⟩
  obtain ⟨rfl, rfl⟩ := Prod.mk.inj (Option.some.inj executed)
  split
  · cases found : w₁.find choice read with
    | none => trivial
    | some answer =>
        exact continues w₁ choice answer relied inv.consistent found
          (relied.trans (rely_tick w₁ inv.consistent))
  · trivial

/-- A request to Stripe; its answer is the one of the request that took effect. -/
theorem works_send {guardedAt : Option Int} {request : Request} {Q : request.Reply → PaymentWorld → Prop}
    (timed : timely → ∀ w₁, Rely config strict run w w₁ → request.Timed guardedAt w₁)
    (continues : ∀ w₁, Rely config strict run w w₁ → Consistent w₁ → request.Known config guardedAt w₁ ∧
      ∀ choice, Rely config strict run w (w₁.post run guardedAt request (w₁.serve choice request).2) →
        Q (w₁.serve choice request).1 (w₁.post run guardedAt request (w₁.serve choice request).2)) :
    Works config strict timely run (send guardedAt request) Q w := by
  intro w₁ relied inv
  obtain ⟨known, continues⟩ := continues w₁ relied inv.consistent
  refine ⟨⟨known, fun holds => timed holds w₁ relied⟩, fun choice answer w₂ executed => ?_⟩
  obtain ⟨rfl, rfl⟩ := Prod.mk.inj (Option.some.inj executed)
  split
  · have step : PaymentStep config strict run w₁ _ := step_of_serve choice known
    exact continues choice (relied.trans (Rely.of_same (step.grows inv.consistent) rfl run))
  · trivial
  · trivial

/-- A database command. -/
theorem works_write {command : Command} {Q : command.Res → PaymentWorld → Prop}
    (continues : ∀ w₁, Rely config strict run w w₁ → Consistent w₁ →
      command.Known config strict run w₁ ∧
        ∀ published answer db,
          w₁.db.execute config.enabled run w₁.steps w₁.clock published command = .ok (answer, db) →
            Grows w₁ (w₁.commit db) → Q answer (w₁.commit db)) :
    Works config strict timely run (write command) Q w := by
  intro w₁ relied inv
  obtain ⟨known, continues⟩ := continues w₁ relied inv.consistent
  refine ⟨⟨known, fun _ => trivial⟩, fun choice answer w₂ executed => ?_⟩
  obtain ⟨rfl, rfl⟩ := Prod.mk.inj (Option.some.inj executed)
  split
  · trivial
  · rename_i outcome
    split
    · exact continues _ _ _ outcome (grows_of_execute known inv.consistent outcome)
    · trivial
    · trivial

/-- A command of the run that changes neither the fenced part nor the commits nor the rows. -/
theorem rely_of_quiet {db : BillingDb} (grows : Grows w (w.commit db)) (unchanged : Quiet run w.db db)
    (own : db.leasedTo run → w.db.leasedTo run) : Rely config strict run w (w.commit db) := by
  refine Rely.of_commit grows fun leased =>
    ⟨own leased, unchanged.canonical, fun _ => unchanged.fenced, fun _ row mem => ⟨row, ?_, rfl, rfl⟩⟩
  rwa [unchanged.usages]

theorem works_releaseLease {Q : Unit → PaymentWorld → Prop}
    (continues : ∀ w', Rely config strict run w w' → Q () w') :
    Works config strict timely run (write .releaseLease) Q w := by
  refine works_write fun w₁ relied _ => ⟨trivial, fun _ _ db executed grows => ?_⟩
  simp only [BillingDb.execute] at executed
  cases executed
  refine continues _ (relied.trans (rely_of_quiet grows ?_ ?_))
  · split
    · exact Quiet.of_lease fun _ none => by cases none
    · exact Quiet.refl run _
  · intro leased
    split at leased
    · cases leased
    · exact leased

theorem works_employeeSnapshot {Q : Nat → PaymentWorld → Prop}
    (continues : ∀ count w', Rely config strict run w w' → Q count w') :
    Works config strict timely run (write .employeeSnapshot) Q w := by
  refine works_write fun w₁ relied _ => ⟨trivial, fun _ _ db executed grows => ?_⟩
  cases executed
  exact continues _ _ (relied.trans (rely_of_quiet grows { Quiet.refl run _ with } id))

theorem works_recordEvent {event : Nat} {Q : Unit → PaymentWorld → Prop}
    (continues : ∀ w', Rely config strict run w w' → Q () w') :
    Works config strict timely run (write (.recordEvent event)) Q w := by
  refine works_write fun w₁ relied _ => ⟨trivial, fun _ _ db executed grows => ?_⟩
  simp only [BillingDb.execute] at executed
  split at executed
  · cases executed
  · cases executed
    exact continues _ (relied.trans (rely_of_quiet grows { Quiet.refl run _ with } id))

theorem works_renewLease {Q : Unit → PaymentWorld → Prop}
    (continues : ∀ w', Rely config strict run w w' → Q () w') :
    Works config strict timely run renewLease Q w := by
  refine works_bind (works_readClock fun w₁ relied => ?_)
  refine works_bind (works_write fun w₂ relied' _ => ⟨trivial, fun _ _ db executed grows => ?_⟩)
  simp only [BillingDb.execute] at executed
  split at executed
  · rename_i leased
    cases executed
    refine continues _ (relied.trans (relied'.trans (rely_of_quiet grows ?_ fun _ => leased)))
    exact Quiet.of_lease fun held taken => by cases taken; rfl
  · cases executed
    trivial

/-! ### Leases -/

/-- `withLease`: the work starts with the stored document, and what it ends in must survive the others. -/
theorem works_withLease {work : Subscription → PaymentHandler α}
    (works : ∀ doc w', Knows run doc w' → Works config strict timely run (work doc) Q w')
    (stable : ∀ value w₁ w₂, Q value w₁ → Rely config strict run w₁ w₂ → Q value w₂) :
    Works config strict timely run (withLease work) Q w := by
  refine works_bind (works_readClock fun w₁ _ => ?_)
  refine works_bind (works_write fun w₂ _ _ => ⟨trivial, fun _ acquired db executed _ => ?_⟩)
  have taken : ∀ doc, acquired = some doc → Knows run doc (w₂.commit db) := by
    rintro doc rfl
    have stored : db.subscription = doc := by
      simp only [BillingDb.execute] at executed
      repeat' split at executed
      all_goals cases executed
      all_goals rfl
    exact ⟨⟨db, List.mem_cons_self .., by rw [stored]⟩, fun _ => by rw [← stored]; rfl⟩
  cases acquired with
  | none => trivial
  | some doc =>
      refine Contract.meets_withCleanup (works doc _ (taken doc rfl)) fun outcome w' ended => ?_
      refine works_releaseLease fun w'' relied => ?_
      cases outcome with
      | ok value => exact stable value w' w'' ended relied
      | error failure => trivial

/-! ### Reads and answers -/

theorem owner_enabled {actor : AuthenticatedUser} {value : Unit} (owns : owner config actor = .ok value) :
    config.enabled = true := by
  obtain ⟨_, _, configured⟩ := bind_ok_iff.mp owns
  exact require_ok_iff.mp configured

theorem works_planFitsNow {code : PlanCode} {Q : Nat → PaymentWorld → Prop}
    (continues : ∀ employees w', Rely config strict run w w' → Q employees w') :
    Works config strict timely run (planFitsNow code) Q w := by
  refine works_bind (works_readClock fun w₁ one => ?_)
  refine works_bind (works_query fun w₂ two => ?_)
  refine works_bind (works_query fun w₃ three => ?_)
  refine works_bind (works_query fun w₄ four => ?_)
  exact works_check fun employees _ =>
    continues employees w₄ (one.trans (two.trans (three.trans four)))

theorem works_validateCatalog {Q : Unit → PaymentWorld → Prop}
    (continues : ∀ w', Rely config strict run w w' → Q () w') :
    Works config strict timely run (validateCatalog config) Q w := by
  refine works_bind (works_lookup fun w₁ _ _ _ _ _ relied => ?_)
  exact works_check fun _ _ => continues _ relied

/-- A subscription as it is read: the stored one, evaluated in the step of the read. -/
theorem find_subscription {w₁ : PaymentWorld} {choice : Choice} {id : Nat} {expanded : Bool}
    {remote : RemoteSubscription} (consistent : Consistent w₁)
    (found : w₁.find choice (.subscription id expanded) = some remote) :
    ∃ current, w₁.stripe.subscriptions id = some current ∧ remote.id = id ∧
      remote.session = current.session ∧ remote.status = current.status ∧ remote.asOf = w₁.steps ∧
      remote.receivedAt = w₁.steps := by
  obtain ⟨current, there, rfl⟩ := Option.map_eq_some_iff.mp found
  exact ⟨current, there, (consistent.subscription id current there).1, rfl, rfl, rfl, rfl⟩

/-- A Checkout session as it is read is stored under its own id. -/
theorem find_session {w₁ : PaymentWorld} {choice : Choice} {id : Nat} {session : CheckoutSession}
    (consistent : Consistent w₁) (found : w₁.find choice (.session id) = some session) :
    w₁.tick.stripe.sessions session.id = some session := by
  have there : w₁.stripe.sessions id = some session := found
  rw [(consistent.session id session there).1]
  exact there

/-- The Checkout session a create answers with is stored at Stripe and carries the operation. -/
theorem serve_session {w₁ : PaymentWorld} {choice : Choice} {operation customer companyId : Nat}
    {planCode : PlanCode} {successUrl cancelUrl : String} {created : CheckoutSession} {stripe : Stripe}
    (consistent : Consistent w₁)
    (served : w₁.serve choice (.createCheckoutSession operation customer companyId planCode successUrl
      cancelUrl) = (created, stripe)) :
    ∃ session, stripe.sessions created.id = some session ∧ session.operation = some operation := by
  simp only [PaymentWorld.serve, Stripe.createCheckoutSession] at served
  split at served
  · rename_i original replayed
    cases served
    obtain ⟨use, used, rfl⟩ := KeyUse.of_replay replayed
    obtain ⟨_, there, carries⟩ := consistent.sessionKey operation use used
    exact ⟨_, there, carries⟩
  · cases served
    exact ⟨_, Function.update_self .., rfl⟩

/-- The session that the document names, where there is one, has expired. -/
def SessionExpired (doc : Subscription) (w : PaymentWorld) : Prop :=
  ∀ id, doc.stripeCheckoutSessionId = some id →
    ∃ session, w.stripe.sessions id = some session ∧ session.status = .expired

theorem SessionExpired.grows {doc : Subscription} {w' : PaymentWorld} (expired : SessionExpired doc w)
    (grows : Grows w w') : SessionExpired doc w' := by
  intro id named
  obtain ⟨session, there, status⟩ := expired id named
  obtain ⟨status', there', kept⟩ := grows.session id session there
  exact ⟨_, there', (kept (by rw [status]; decide)).trans status⟩

theorem works_openSession {doc : Subscription} {planCode : PlanCode}
    {Q : Option String → PaymentWorld → Prop} (unsubscribed : doc.stripeSubscriptionId = none)
    (continues : ∀ url w', Rely config strict run w w' → (url = none → SessionExpired doc w') → Q url w') :
    Works config strict timely run (openSession doc planCode) Q w := by
  unfold openSession
  split
  · rename_i unnamed
    refine continues none w (Rely.refl _ _ _ w) fun _ id named => ?_
    rw [unnamed] at named
    cases named
  · rename_i id named
    refine works_bind (works_lookup fun w₁ choice existing _ _ found relied => ?_)
    split
    · exact works_bind (works_check fun _ _ => continues _ _ relied fun none => by cases none)
    · refine works_bind (works_check fun _ subscribed => ?_)
      rw [require_ok_iff, unsubscribed] at subscribed
      cases subscribed
    · rename_i expired
      refine continues none _ relied fun _ other named' => ?_
      rw [named] at named'
      cases named'
      exact ⟨existing, found, expired⟩

/-- What the requests of a plan change know of their attempt. -/
theorem planTimed {doc : Subscription} {target : PlanCode} {guardedAt : Option Int} (knows : Knows run doc w)
    (requested : doc.pendingPlanCode = some target) (young : Young doc.stripePlanAttemptAt guardedAt) :
    ∃ doc', Passed .plan doc' guardedAt w ∧ doc'.stripeChangeOperation = doc.stripeChangeOperation ∧
      doc'.pendingPlanCode.isSome :=
  ⟨doc, ⟨knows.recorded, young⟩, rfl, by rw [requested]; rfl⟩

section Enabled

variable (enabled : config.enabled = true)
include enabled

/-! ### Guarded writes -/

/-- `update`: the stored document and the one in memory change alike. -/
theorem works_update {doc : Subscription} {change : SubscriptionUpdate}
    {Q : Subscription → PaymentWorld → Prop} (knows : Knows run doc w)
    (allowed : ∀ w₁, Rely config strict run w w₁ → change.Allowed w₁ doc)
    (continues : ∀ w', Later run w w' → RowsKept strict run w w' → Knows run (change.apply doc) w' →
      Q (change.apply doc) w') :
    Works config strict timely run (update doc change) Q w := by
  refine works_bind (works_write fun w₁ relied _ =>
    ⟨⟨knows.rely enabled relied, allowed w₁ relied⟩, fun _ _ db executed grows => ?_⟩)
  simp only [BillingDb.execute] at executed
  split at executed
  · rename_i leased
    cases executed
    have same := (knows.rely enabled relied).stored leased
    refine continues _ (relied.toLater.trans ⟨grows, fun _ => ⟨leased, rfl⟩⟩)
      (relied.rows.trans fun _ _ => ⟨leased, fun row mem => ⟨row, mem, rfl, rfl⟩⟩) ?_
    have after := change.apply_fenced same
    exact ⟨⟨_, List.mem_cons_self .., after⟩, fun _ => after⟩
  · cases executed
    trivial

/-- `attempt`: the age check passed against the stored first attempt. -/
theorem works_attempt {doc : Subscription} {field : AttemptField}
    {Q : Subscription × Int → PaymentWorld → Prop} (knows : Knows run doc w)
    (continues : ∀ doc' checkedAt w', Later run w w' → Knows run doc' w' →
      (doc' = doc ∨ ∃ instant, doc' = field.set instant doc) →
      Attempted (field.get doc') (some checkedAt) → (timely → Young (field.get doc') (some checkedAt)) →
      Q (doc', checkedAt) w') :
    Works config strict timely run (attempt doc field) Q w := by
  refine works_bind (works_clock fun w₁ past relied => ?_)
  have knows₁ := knows.rely enabled relied
  cases first : field.get doc with
  | some instant =>
      simp only
      split
      · exact works_bind (works_update enabled knows₁ (fun _ _ => trivial) fun _ _ _ _ => works_throw)
      · rename_i recent
        refine continues doc _ _ relied.toLater knows₁ (.inl rfl)
          ⟨instant, _, first, rfl, Int.not_lt.mp recent⟩ fun holds => ?_
        obtain ⟨db, mem, same⟩ := knows₁.recorded
        exact ⟨instant, _, first, rfl,
          past holds db mem field instant ((field.get_of_fenced same).trans first), Int.not_lt.mp recent⟩
  | none =>
      refine works_bind (works_update enabled knows₁ (fun w₂ relied' => ⟨first, relied'.grows.clock⟩)
        fun w₂ later _ knows₂ => ?_)
      have young : w₁.clock - w₁.clock ≤ stripeRetryWindowMs := by
        rw [Int.sub_self]
        decide
      exact continues _ _ _ (relied.toLater.trans later) knows₂ (.inr ⟨_, rfl⟩)
        ⟨w₁.clock, _, field.get_set .., rfl, young⟩
        fun _ => ⟨w₁.clock, _, field.get_set .., rfl, Int.le_refl _, young⟩

/-! ### Checkout -/

theorem works_customer {doc : Subscription} {Q : Subscription × Nat → PaymentWorld → Prop}
    (knows : Knows run doc w)
    (continues : ∀ doc' id w', Later run w w' → Knows run doc' w' → doc'.stripeCustomerId = some id →
      doc'.stripeSubscriptionId = doc.stripeSubscriptionId → Q (doc', id) w') :
    Works config strict timely run (customer doc) Q w := by
  unfold customer
  split
  · rename_i id known
    exact continues doc id w (Later.refl run w) knows known rfl
  · rename_i unknown
    refine works_bind (works_query fun w₁ relied => ?_)
    refine works_bind (works_check fun email found => ?_)
    refine works_bind (works_attempt enabled (knows.rely enabled relied)
      fun doc' checkedAt w₂ later knows' changed _ young => ?_)
    have untouched : doc'.stripeCustomerId = none ∧ doc'.stripeSubscriptionId = doc.stripeSubscriptionId := by
      rcases changed with rfl | ⟨_, rfl⟩
      · exact ⟨unknown, rfl⟩
      · exact ⟨unknown, rfl⟩
    have owned : ∃ db ∈ w₂.past, db.ownerEmail = some email :=
      ⟨w₁.db, later.grows.past _ (List.mem_cons_self ..), orFail_ok_iff.mp found⟩
    refine works_bind (works_send
      (fun holds w₃ relied' => ⟨doc', knows'.recorded.grows relied'.grows, young holds⟩)
      fun w₃ relied' _ => ⟨?_, fun choice relied'' => ?_⟩)
    · obtain ⟨db, mem, email⟩ := owned
      exact ⟨⟨db, relied'.grows.past db mem, email⟩, doc', knows'.recorded.grows relied'.grows, rfl⟩
    · refine works_bind (works_check fun _ _ => ?_)
      refine works_bind (works_update enabled (knows'.rely enabled relied'')
        (fun _ _ => untouched.1) fun w₄ later' _ knows'' => ?_)
      exact continues _ _ w₄ (relied.toLater.trans (later.trans (relied''.toLater.trans later')))
        knows'' rfl untouched.2

theorem works_forgetEnded {doc : Subscription} {Q : Subscription → PaymentWorld → Prop}
    (knows : Knows run doc w)
    (continues : ∀ doc' w', Later run w w' → Knows run doc' w' → doc'.stripeSubscriptionId = none →
      Q doc' w') :
    Works config strict timely run (forgetEnded doc) Q w := by
  unfold forgetEnded
  split
  · rename_i unsubscribed
    exact continues doc w (Later.refl run w) knows unsubscribed
  · rename_i id subscribed
    refine works_bind (works_lookup fun w₁ choice previous _ consistent found relied => ?_)
    refine works_bind (works_check fun _ _ => ?_)
    refine works_bind (works_check fun _ ended => ?_)
    obtain ⟨current, there, _, _, status, _, _⟩ := find_subscription consistent found
    have terminal : current.terminal := by
      rw [require_ok_iff, status] at ended
      exact ended
    refine works_update enabled (knows.rely enabled relied) (fun w₂ relied' => ?_)
      fun w₂ later _ knows' => continues _ w₂ (relied.toLater.trans later) knows' rfl
    obtain ⟨current', there', _, ended'⟩ := relied'.grows.subscription id current there
    exact ⟨id, current', subscribed, there', ended' terminal⟩

theorem works_checkoutOperation {doc : Subscription} {planCode : PlanCode}
    {Q : Subscription × Nat → PaymentWorld → Prop} (knows : Knows run doc w)
    (unsubscribed : doc.stripeSubscriptionId = none) (expired : SessionExpired doc w)
    (continues : ∀ doc' operation w', Later run w w' → Knows run doc' w' →
      doc'.stripeSubscriptionId = none → doc'.stripeCheckoutSessionId = none →
      doc'.stripeCheckoutOperation = some operation → doc'.stripeCheckoutPlan = some planCode →
      doc'.stripeCustomerId = doc.stripeCustomerId → Q (doc', operation) w') :
    Works config strict timely run (checkoutOperation doc planCode) Q w := by
  have rotates : Works config strict timely run (checkoutOperation.rotate doc planCode) Q w := by
    refine works_bind (works_write fun w₁ relied _ =>
      ⟨⟨knows.rely enabled relied, unsubscribed, expired.grows relied.grows⟩,
        fun _ _ db executed grows => ?_⟩)
    simp only [BillingDb.execute] at executed
    split at executed
    · rename_i leased
      cases executed
      have same := (knows.rely enabled relied).stored leased
      have after := (SubscriptionUpdate.checkoutOperation w₁.steps planCode).apply_fenced same
      refine continues _ w₁.steps _ (relied.toLater.trans ⟨grows, fun _ => ⟨leased, rfl⟩⟩)
        ⟨⟨_, List.mem_cons_self .., after⟩, fun _ => after⟩ unsubscribed rfl rfl rfl rfl
    · cases executed
      trivial
  unfold checkoutOperation
  split
  · rename_i operation named
    split
    · rename_i reusable
      exact continues doc operation w (Later.refl run w) knows unsubscribed reusable.2 named
        reusable.1 rfl
    · exact rotates
  · exact rotates

theorem works_checkout {actor : AuthenticatedUser} {planCode : PlanCode} :
    Works config strict timely run (checkout config actor planCode) Any w := by
  refine works_bind (works_check fun _ _ => ?_)
  refine works_bind (works_check fun _ _ => ?_)
  refine works_safeApi (works_withLease (fun doc w₁ knows => ?_) fun _ _ _ _ _ => trivial)
  refine works_bind (works_validateCatalog fun w₂ relied => ?_)
  refine works_bind (works_check fun _ _ => ?_)
  refine works_bind (works_forgetEnded enabled (knows.rely enabled relied)
    fun doc w₃ _ knows unsubscribed => ?_)
  refine works_bind (works_planFitsNow fun _ w₄ relied => ?_)
  refine works_bind (works_customer enabled (knows.rely enabled relied)
    fun doc customerId w₅ _ knows customer kept => ?_)
  rw [← kept] at unsubscribed
  refine works_bind (works_openSession unsubscribed fun url w₆ relied expired => ?_)
  cases url with
  | some url => trivial
  | none =>
      refine works_bind (works_checkoutOperation enabled (knows.rely enabled relied) unsubscribed
        (expired rfl) fun doc operation w₇ _ knows unsubscribed unnamed named planned sameCustomer => ?_)
      refine works_bind (works_attempt enabled knows fun doc checkedAt w₈ _ knows changed _ young => ?_)
      have kept : doc.stripeSubscriptionId = none ∧ doc.stripeCheckoutSessionId = none ∧
          doc.stripeCheckoutOperation = some operation ∧ doc.stripeCheckoutPlan = some planCode ∧
          doc.stripeCustomerId = some customerId := by
        rcases changed with rfl | ⟨_, rfl⟩
        · exact ⟨unsubscribed, unnamed, named, planned, sameCustomer.trans customer⟩
        · exact ⟨unsubscribed, unnamed, named, planned, sameCustomer.trans customer⟩
      obtain ⟨unsubscribed, unnamed, named, planned, customer⟩ := kept
      refine works_bind (works_send
        (fun holds w₉ relied => ⟨doc, ⟨knows.recorded.grows relied.grows, young holds⟩, named⟩)
        fun w₉ relied consistent => ⟨?_, fun choice relied' => ?_⟩)
      · exact ⟨rfl, rfl, doc, knows.recorded.grows relied.grows, named, customer, rfl, planned⟩
      · obtain ⟨session, there, carries⟩ := serve_session consistent
          (Eq.refl (w₉.serve choice (.createCheckoutSession operation customerId doc.companyId planCode
            config.checkoutSuccessUrl config.checkoutCancelUrl)))
        refine works_bind (works_update enabled (knows.rely enabled relied') (fun w₁₀ further => ?_)
          fun _ _ _ _ => trivial)
        obtain ⟨status, there', _⟩ := further.grows.session _ _ there
        exact ⟨unsubscribed, unnamed, _, operation, there', carries, named⟩

/-! ### Plan requests -/

/-- A step of a plan request that changes only what `Subscription.planRequest` leaves out. -/
theorem works_planUpdate {doc : Subscription} {change : SubscriptionUpdate}
    {Q : Subscription → PaymentWorld → Prop} (knows : Knows run doc w)
    (allowed : ∀ w₁ doc, change.Allowed w₁ doc)
    (same : (change.apply doc).planRequest = doc.planRequest)
    (attempt : (change.apply doc).stripePlanAttemptAt = doc.stripePlanAttemptAt)
    (continues : ∀ doc' w', Later run w w' → Knows run doc' w' → doc'.planRequest = doc.planRequest →
      doc'.stripePlanAttemptAt = doc.stripePlanAttemptAt → Q doc' w') :
    Works config strict timely run (update doc change) Q w :=
  works_update enabled knows (fun w₁ _ => allowed w₁ doc) fun w' later _ knows' =>
    continues _ w' later knows' same attempt

theorem works_followSchedule {doc : Subscription} {active : Option Nat}
    {Q : Subscription → PaymentWorld → Prop} (knows : Knows run doc w)
    (continues : ∀ doc' w', Later run w w' → Knows run doc' w' → doc'.planRequest = doc.planRequest →
      Q doc' w') :
    Works config strict timely run (followSchedule doc active) Q w := by
  unfold followSchedule
  split
  · split
    · exact continues doc w (Later.refl run w) knows rfl
    · exact works_planUpdate enabled knows (fun _ _ => trivial) rfl rfl fun doc' w' later knows' same _ =>
        continues doc' w' later knows' same
  · split
    · exact continues doc w (Later.refl run w) knows rfl
    · exact works_planUpdate enabled knows (fun _ _ => trivial) rfl rfl fun doc' w' later knows' same _ =>
        continues doc' w' later knows' same

theorem works_cancelPlan {doc : Subscription} {checkedAt : Int} {subscription : Nat}
    {Q : Subscription → PaymentWorld → Prop} (knows : Knows run doc w)
    (target : doc.pendingPlanCode = some .free) (subscribed : doc.stripeSubscriptionId = some subscription)
    (young : timely → Young doc.stripePlanAttemptAt (some checkedAt))
    (continues : ∀ doc' w', Knows run doc' w' → Q doc' w') :
    Works config strict timely run (cancelPlan doc checkedAt subscription) Q w := by
  have cancels : ∀ w₁, Knows run doc w₁ →
      Works config strict timely run
        (do
          send (some checkedAt) (.cancelSubscription doc.stripeChangeOperation subscription)
          let doc ← update doc .noSchedule
          update doc .planConfirmed) Q w₁ := by
    intro w₁ knows
    refine works_bind (works_send (fun holds w₂ relied => planTimed (knows.rely enabled relied) target
      (young holds)) fun w₂ relied _ => ⟨?_, fun choice relied' => ?_⟩)
    · exact ⟨doc, knows.recorded.grows relied.grows, target, rfl, subscribed⟩
    · refine works_bind (works_update enabled (knows.rely enabled relied') (fun _ _ => trivial)
        fun w₃ _ _ knows => ?_)
      exact works_update enabled knows (fun _ _ => trivial) fun w₄ _ _ knows => continues _ w₄ knows
  unfold cancelPlan
  split
  · refine works_bind (works_send (fun holds w₁ relied => planTimed (knows.rely enabled relied) target
      (young holds)) fun w₁ relied _ => ⟨trivial, fun choice relied' => ?_⟩)
    exact cancels _ (knows.rely enabled relied')
  · exact cancels w knows

theorem works_planEmployees {doc : Subscription} {Q : Subscription × Nat → PaymentWorld → Prop}
    (knows : Knows run doc w)
    (continues : ∀ doc' employees w', Knows run doc' w' →
      doc'.stripePlanEmployees = some employees → doc'.pendingPlanCode = doc.pendingPlanCode →
      doc'.stripeSubscriptionId = doc.stripeSubscriptionId →
      doc'.stripePlanAttemptAt = doc.stripePlanAttemptAt → Q (doc', employees) w') :
    Works config strict timely run (planEmployees doc) Q w := by
  unfold planEmployees
  split
  · rename_i employees known
    exact continues doc employees w knows known rfl rfl rfl
  · rename_i unknown
    refine works_bind (works_query fun w₁ relied => ?_)
    refine works_bind (works_update enabled (knows.rely enabled relied) (fun _ _ => unknown)
      fun w₂ _ _ knows => ?_)
    exact continues _ _ w₂ knows rfl rfl rfl rfl

theorem works_releaseUnneeded {doc : Subscription} {checkedAt : Int} {target currentPlan : PlanCode}
    {Q : Subscription → PaymentWorld → Prop} (knows : Knows run doc w)
    (requested : doc.pendingPlanCode = some target)
    (young : timely → Young doc.stripePlanAttemptAt (some checkedAt))
    (continues : ∀ doc' w', Knows run doc' w' → doc'.planRequest = doc.planRequest →
      doc'.stripePlanAttemptAt = doc.stripePlanAttemptAt → Q doc' w') :
    Works config strict timely run (releaseUnneeded doc checkedAt target currentPlan) Q w := by
  unfold releaseUnneeded
  split
  · split
    · refine works_bind (works_send (fun holds w₁ relied => planTimed (knows.rely enabled relied) requested
        (young holds)) fun w₁ relied _ => ⟨trivial, fun choice relied' => ?_⟩)
      exact works_planUpdate enabled (knows.rely enabled relied') (fun _ _ => trivial) rfl rfl
        fun doc' w' _ => continues doc' w'
    · exact continues doc w knows rfl rfl
  · exact continues doc w knows rfl rfl

theorem works_downgradeSchedule {doc : Subscription} {checkedAt : Int} {subscription : Nat}
    {Q : Subscription × Schedule → PaymentWorld → Prop} (knows : Knows run doc w)
    (target : doc.pendingPlanCode = some .basic) (subscribed : doc.stripeSubscriptionId = some subscription)
    (young : timely → Young doc.stripePlanAttemptAt (some checkedAt))
    (continues : ∀ doc' schedule w', Knows run doc' w' → doc'.planRequest = doc.planRequest →
      doc'.stripePlanAttemptAt = doc.stripePlanAttemptAt → Q (doc', schedule) w') :
    Works config strict timely run (downgradeSchedule doc checkedAt subscription) Q w := by
  unfold downgradeSchedule
  split
  · refine works_bind (works_lookup fun w₁ _ schedule _ _ _ relied => ?_)
    exact continues doc schedule _ (knows.rely enabled relied) rfl rfl
  · refine works_bind (works_send (fun holds w₁ relied => planTimed (knows.rely enabled relied) target
      (young holds)) fun w₁ relied _ => ⟨?_, fun choice relied' => ?_⟩)
    · exact ⟨doc, knows.recorded.grows relied.grows, target, rfl, subscribed⟩
    · refine works_bind (works_planUpdate enabled (knows.rely enabled relied') (fun _ _ => trivial) rfl rfl
        fun doc' w₂ _ knows same attempt => ?_)
      exact continues doc' _ w₂ knows same attempt

theorem works_scheduleDowngrade {doc : Subscription} {checkedAt : Int} {subscription employees : Nat}
    {Q : Subscription → PaymentWorld → Prop} (knows : Knows run doc w)
    (target : doc.pendingPlanCode = some .basic) (subscribed : doc.stripeSubscriptionId = some subscription)
    (counted : doc.stripePlanEmployees = some employees)
    (young : timely → Young doc.stripePlanAttemptAt (some checkedAt))
    (continues : ∀ doc' w', Knows run doc' w' → Q doc' w') :
    Works config strict timely run (scheduleDowngrade doc checkedAt subscription employees .premium .basic) Q
      w := by
  refine works_bind (works_downgradeSchedule enabled knows target subscribed young
    fun doc' schedule w₁ knows same attempt => ?_)
  rw [← attempt] at young
  have target : doc'.pendingPlanCode = some .basic :=
    (congrArg Subscription.pendingPlanCode same).trans target
  have subscribed : doc'.stripeSubscriptionId = some subscription :=
    (congrArg Subscription.stripeSubscriptionId same).trans subscribed
  have counted : doc'.stripePlanEmployees = some employees :=
    (congrArg Subscription.stripePlanEmployees same).trans counted
  refine works_bind (works_check fun phase _ => ?_)
  refine works_bind (works_check fun next follows => ?_)
  refine works_bind (works_send (fun holds w₂ relied => planTimed (knows.rely enabled relied) target
    (young holds)) fun w₂ relied _ => ⟨?_, fun choice relied' => ?_⟩)
  · exact ⟨doc', subscription, employees, ⟨knows.recorded.grows relied.grows, target, rfl, subscribed⟩,
      counted, next, orFail_ok_iff.mp follows, rfl, rfl, rfl⟩
  · exact works_update enabled (knows.rely enabled relied') (fun _ _ => trivial)
      fun w₃ _ _ knows => continues _ w₃ knows

theorem works_switchPlan {doc : Subscription} {checkedAt : Int} {remote : RemoteSubscription}
    {currentPlan target : PlanCode} {employees : Nat} {Q : Subscription → PaymentWorld → Prop}
    (knows : Knows run doc w) (requested : doc.pendingPlanCode = some target) (paid : target ≠ .free)
    (subscribed : doc.stripeSubscriptionId = some remote.id)
    (counted : doc.stripePlanEmployees = some employees)
    (young : timely → Young doc.stripePlanAttemptAt (some checkedAt))
    (continues : ∀ doc' w', Knows run doc' w' → Q doc' w') :
    Works config strict timely run (switchPlan doc checkedAt remote currentPlan target employees) Q w := by
  refine works_bind (works_check fun licensed _ => ?_)
  refine works_bind (works_send (fun holds w₁ relied => planTimed (knows.rely enabled relied) requested
    (young holds)) fun w₁ relied _ => ⟨?_, fun choice relied' => ?_⟩)
  · exact ⟨doc, target, employees, ⟨knows.recorded.grows relied.grows, requested, rfl, subscribed⟩, paid,
      counted, rfl, rfl, rfl⟩
  · exact works_update enabled (knows.rely enabled relied') (fun _ _ => trivial)
      fun w₂ _ _ knows => continues _ w₂ knows

theorem works_performPlanRequest {doc : Subscription} {Q : Subscription → PaymentWorld → Prop}
    (knows : Knows run doc w) (continues : ∀ doc' w', Knows run doc' w' → Q doc' w') :
    Works config strict timely run (performPlanRequest config doc) Q w := by
  unfold performPlanRequest
  split
  · rename_i target id requested subscribed
    split
    · exact continues doc w knows
    · refine works_bind (works_lookup fun w₁ _ remote _ consistent found relied => ?_)
      obtain ⟨_, _, named, _⟩ := find_subscription consistent found
      rw [← named] at subscribed
      refine works_bind (works_check fun _ _ => ?_)
      have knows := knows.rely enabled relied
      split
      · exact continues doc _ knows
      · refine works_bind (works_check fun currentPlan _ => ?_)
        refine works_bind (works_followSchedule enabled knows fun doc₁ w₂ _ knows same => ?_)
        refine works_bind (works_readClock fun w₃ relied => ?_)
        have knows := knows.rely enabled relied
        split
        · exact works_bind (works_update enabled knows (fun _ _ => trivial) fun _ _ _ _ => works_throw)
        · refine works_bind (works_attempt enabled knows fun doc₂ checkedAt w₄ _ knows changed _ young => ?_)
          have same : doc₂.planRequest = doc.planRequest := by
            rcases changed with rfl | ⟨_, rfl⟩
            · exact same
            · exact same
          have requested : doc₂.pendingPlanCode = some target :=
            (congrArg Subscription.pendingPlanCode same).trans requested
          have subscribed : doc₂.stripeSubscriptionId = some remote.id :=
            (congrArg Subscription.stripeSubscriptionId same).trans subscribed
          dsimp only
          split
          · rename_i free
            subst free
            exact works_cancelPlan enabled knows requested subscribed young continues
          · rename_i paid
            refine works_bind (works_validateCatalog fun w₅ relied => ?_)
            refine works_bind (works_planEmployees enabled (knows.rely enabled relied)
              fun doc₃ employees w₆ knows counted keptTarget keptSubscription keptAttempt => ?_)
            refine works_bind (works_releaseUnneeded enabled knows (keptTarget.trans requested)
              (fun holds => keptAttempt ▸ young holds) fun doc₄ w₇ knows same attempt => ?_)
            have young : timely → Young doc₄.stripePlanAttemptAt (some checkedAt) := by
              rw [attempt, keptAttempt]
              exact young
            have requested : doc₄.pendingPlanCode = some target :=
              ((congrArg Subscription.pendingPlanCode same).trans keptTarget).trans requested
            have subscribed : doc₄.stripeSubscriptionId = some remote.id :=
              ((congrArg Subscription.stripeSubscriptionId same).trans keptSubscription).trans subscribed
            have counted : doc₄.stripePlanEmployees = some employees :=
              (congrArg Subscription.stripePlanEmployees same).trans counted
            split
            · rename_i downgrade
              obtain ⟨rfl, rfl⟩ := downgrade
              exact works_scheduleDowngrade enabled knows requested subscribed counted young continues
            · split
              · refine works_bind (works_send (fun holds w₈ relied =>
                  planTimed (knows.rely enabled relied) requested (young holds))
                  fun w₈ relied _ => ⟨?_, fun choice relied' => ?_⟩)
                · exact ⟨doc₄, target, ⟨knows.recorded.grows relied.grows, requested, rfl, subscribed⟩, paid⟩
                · exact works_update enabled (knows.rely enabled relied') (fun _ _ => trivial)
                    fun w₉ _ _ knows => continues _ w₉ knows
              · exact works_switchPlan enabled knows requested paid subscribed counted young continues
  · exact continues doc w knows

end Enabled

/-! ### Metered usage -/

/-- What a run knows of the rows it still has to deliver. Under `strict` they are still pending, as long as
the run holds the lease. -/
structure Delivering (strict : Prop) (run : Nat) (rows : List StripeUsage) (w : PaymentWorld) : Prop where
  seen : ∀ row ∈ rows, ∃ db ∈ w.past, row ∈ db.usages.rows
  present : ∀ row ∈ rows, ∃ row' ∈ w.db.usages.rows, row'.identifier = row.identifier
  pending : strict → w.db.leasedTo run → ∀ row ∈ rows, ∃ row' ∈ w.db.usages.rows,
    row'.identifier = row.identifier ∧ row'.state = .pending
  distinct : (rows.map StripeUsage.identifier).Nodup

/-- The age check passed against the first attempt of some version of the row. -/
def Tried (identifier : UsageIdentifier) (checkedAt : Int) (w : PaymentWorld) : Prop :=
  ∃ db ∈ w.past, ∃ row ∈ db.usages.rows, row.identifier = identifier ∧
    Attempted row.firstAttemptAt (some checkedAt)

theorem Delivering.later {rows : List StripeUsage} {w' : PaymentWorld}
    (delivering : Delivering strict run rows w) (later : Later run w w')
    (kept : RowsKept strict run w w') : Delivering strict run rows w' where
  seen row mem := by
    obtain ⟨db, past, there⟩ := delivering.seen row mem
    exact ⟨db, later.grows.past db past, there⟩
  present row mem := by
    obtain ⟨row', there, same⟩ := delivering.present row mem
    obtain ⟨row'', there', same'⟩ := later.grows.rows row' there
    exact ⟨row'', there', same'.trans same⟩
  pending holds leased row mem := by
    obtain ⟨held, states⟩ := kept holds leased
    obtain ⟨row', there, same, state⟩ := delivering.pending holds held row mem
    obtain ⟨row'', there', same', state'⟩ := states row' there
    exact ⟨row'', there', same'.trans same, state'.trans state⟩
  distinct := delivering.distinct

theorem UsageTable.eq_of_identifier {table : UsageTable} {row row' : StripeUsage} (mem : row ∈ table.rows)
    (mem' : row' ∈ table.rows) (same : row.identifier = row'.identifier) : row = row' :=
  List.inj_on_of_nodup_map table.unique mem mem' same

/-- A write to one row leaves the others as they are. -/
theorem Delivering.usage {row : StripeUsage} {rest : List StripeUsage} {delivery : DeliveryUpdate}
    (delivering : Delivering strict run (row :: rest) w)
    (grows : Grows w (w.commit { w.db with usages := w.db.usages.update row.identifier delivery })) :
    Delivering strict run rest
      (w.commit { w.db with usages := w.db.usages.update row.identifier delivery }) where
  seen other mem := by
    obtain ⟨db, past, there⟩ := delivering.seen other (List.mem_cons_of_mem _ mem)
    exact ⟨db, grows.past db past, there⟩
  present other mem := by
    obtain ⟨other', there, same⟩ := delivering.present other (List.mem_cons_of_mem _ mem)
    obtain ⟨other'', there', same'⟩ := grows.rows other' there
    exact ⟨other'', there', same'.trans same⟩
  pending holds leased other mem := by
    obtain ⟨other', there, same, state⟩ :=
      delivering.pending holds leased other (List.mem_cons_of_mem _ mem)
    have apart : other'.identifier ≠ row.identifier := by
      intro clash
      refine (List.nodup_cons.mp delivering.distinct).1 ?_
      rw [← clash, same]
      exact List.mem_map_of_mem mem
    refine ⟨other', List.mem_map.mpr ⟨other', there, ?_⟩, same, state⟩
    exact if_neg apart
  distinct := (List.nodup_cons.mp delivering.distinct).2

/-- The pending rows that a run starts to deliver. -/
theorem pendingUsage_delivering (w : PaymentWorld) :
    Delivering strict run (w.db.answer .pendingUsage) w := by
  have stored : ∀ row ∈ w.db.answer .pendingUsage, row ∈ w.db.usages.rows ∧ row.state = .pending := by
    intro row mem
    have sorted := List.mem_of_mem_take mem
    have filtered := (List.mem_insertionSort _).mp sorted
    simpa using filtered
  refine ⟨fun row mem => ⟨w.db, List.mem_cons_self .., (stored row mem).1⟩,
    fun row mem => ⟨row, (stored row mem).1, rfl⟩,
    fun _ _ row mem => ⟨row, (stored row mem).1, rfl, (stored row mem).2⟩, ?_⟩
  refine List.Nodup.sublist ((List.take_sublist _ _).map _) ?_
  refine (((List.perm_insertionSort _ _).map _).nodup_iff).mpr ?_
  exact List.Nodup.sublist (List.filter_sublist.map _) w.db.usages.unique

section Enabled

variable (enabled : config.enabled = true)
include enabled

theorem works_usage {doc : Subscription} {identifier : UsageIdentifier} {delivery : DeliveryUpdate}
    {Q : Unit → PaymentWorld → Prop} (knows : Knows run doc w)
    (known : ∀ w₁, Rely config strict run w w₁ → delivery.Known strict run w₁ identifier)
    (continues : ∀ w₁, Rely config strict run w w₁ → ∀ w',
      w' = w₁.commit { w₁.db with usages := w₁.db.usages.update identifier delivery } → Grows w₁ w' →
      Later run w w' → Knows run doc w' → Q () w') :
    Works config strict timely run (write (.usage identifier delivery)) Q w := by
  refine works_write fun w₁ relied _ => ⟨known w₁ relied, fun _ _ db executed grows => ?_⟩
  cases executed
  have knows := knows.rely enabled relied
  exact continues w₁ relied _ rfl grows (relied.toLater.trans ⟨grows, fun leased => ⟨leased, rfl⟩⟩)
    ⟨knows.recorded.grows grows, knows.stored⟩

/-- The delivery of one row whose age check has passed, and the rest of the loop. -/
theorem works_deliver {usage : StripeUsage} {rest : List StripeUsage} {doc : Subscription} {checkedAt : Int}
    {Q : Subscription → PaymentWorld → Prop} (knows : Knows run doc w)
    (delivering : Delivering strict run (usage :: rest) w) (tried : Tried usage.identifier checkedAt w)
    (continues : ∀ w', Later run w w' → Knows run doc w' → Delivering strict run rest w' →
      Works config strict timely run (submitRows config rest doc) Q w') :
    Works config strict timely run
      (do
        renewLease
        let delivered ← send (some checkedAt) (.createMeterEvent config.overageEventName
          usage.identifier usage.customerId usage.quantity usage.timestamp)
        check (require (!delivered.livemode && delivered.identifier = usage.identifier)
          (.paymentSyncValidation "Meter event confirmation is invalid"))
        let now ← readClock
        write (.usage usage.identifier (.submitted now))
        submitRows config rest doc) Q w := by
  refine works_bind (works_renewLease fun w₁ relied => ?_)
  refine works_bind (works_send (fun _ _ _ => trivial) fun w₂ relied' _ => ⟨?_, fun choice sent => ?_⟩)
  · obtain ⟨db, past, there⟩ := delivering.seen usage (List.mem_cons_self ..)
    obtain ⟨db', past', row, there', same, attempted⟩ := tried
    have grows := relied.grows.trans relied'.grows
    exact ⟨rfl, ⟨db, grows.past db past, usage, there, rfl, rfl, rfl, rfl⟩,
      db', grows.past db' past', row, there', same, attempted⟩
  · refine works_bind (works_check fun _ _ => ?_)
    refine works_bind (works_readClock fun w₃ relied₃ => ?_)
    have relied := relied.trans (sent.trans relied₃)
    refine works_bind (works_usage enabled (knows.rely enabled relied) (fun _ _ => trivial)
      fun w₄ relied₄ w₅ written grows later knows => ?_)
    subst written
    have relied₄ := relied.trans relied₄
    exact continues _ (relied.toLater.trans later) knows
      ((delivering.later relied₄.toLater relied₄.rows).usage grows)

theorem works_submitRows (rows : List StripeUsage) {doc : Subscription}
    {Q : Subscription → PaymentWorld → Prop} (knows : Knows run doc w)
    (delivering : Delivering strict run rows w)
    (continues : ∀ doc' w', Later run w w' → Knows run doc' w' → doc'.planRequest = doc.planRequest →
      Q doc' w') :
    Works config strict timely run (submitRows config rows doc) Q w := by
  induction rows generalizing doc w with
  | nil => exact continues doc w (Later.refl run w) knows rfl
  | cons usage rest ih =>
      refine works_bind (works_readClock fun w₁ relied => ?_)
      have knows₁ := knows.rely enabled relied
      have delivering₁ := delivering.later relied.toLater relied.rows
      split
      · refine works_bind (works_usage enabled knows₁ (fun w₂ relied' => ?_)
          fun w₂ relied' w₃ written grows later knows₃ => ?_)
        · intro holds leased row mem same
          have delivering₂ := delivering₁.later relied'.toLater relied'.rows
          obtain ⟨row', there, same', state⟩ :=
            delivering₂.pending holds leased usage (List.mem_cons_self ..)
          rwa [UsageTable.eq_of_identifier mem there (same.trans same'.symm)]
        · subst written
          have delivering₃ := (delivering₁.later relied'.toLater relied'.rows).usage grows
          refine works_bind (works_update enabled knows₃ (fun _ _ => trivial)
            fun w₄ later' kept knows₄ => ?_)
          exact ih knows₄ (delivering₃.later later' kept) fun doc' w' later'' knows' same =>
            continues doc' w' (relied.toLater.trans (later.trans (later'.trans later''))) knows' same
      · rename_i recent
        have rests : ∀ w₂, Later run w₁ w₂ → Knows run doc w₂ → Delivering strict run (usage :: rest) w₂ →
            Tried usage.identifier w₁.clock w₂ → _ :=
          fun w₂ later knows₂ delivering₂ tried =>
            works_deliver (Q := Q) enabled knows₂ delivering₂ tried fun w₃ later' knows₃ delivering₃ =>
              ih knows₃ delivering₃ fun doc' w' later'' knows' same =>
                continues doc' w' (relied.toLater.trans (later.trans (later'.trans later''))) knows' same
        dsimp only
        split
        · rename_i untried
          refine works_bind (works_readClock fun w₂ relied₂ => ?_)
          refine works_bind (works_usage enabled (knows₁.rely enabled relied₂)
            (fun w₃ relied₃ => relied₃.grows.clock) fun w₃ relied₃ w₄ written grows later knows₄ => ?_)
          subst written
          have relied₃ := relied₂.trans relied₃
          have delivering₃ := delivering₁.later relied₃.toLater relied₃.rows
          refine rests _ (relied₂.toLater.trans later) knows₄ (delivering₃.later ⟨grows, fun held => ⟨held, rfl⟩⟩
            fun _ held => ⟨held, fun row mem => ⟨_, List.mem_map_of_mem mem, ?_⟩⟩) ?_
          · split <;> exact ⟨rfl, rfl⟩
          · obtain ⟨row, there, same⟩ := delivering₃.present usage (List.mem_cons_self ..)
            refine ⟨_, List.mem_cons_self .., _, List.mem_map_of_mem there, ?_, w₂.clock, w₁.clock, ?_, rfl, ?_⟩
            · rw [if_pos same]
              exact same
            · rw [if_pos same]
              rfl
            · have := relied₂.grows.clock
              unfold stripeRetryWindowMs
              omega
        · rename_i tried
          refine rests w₁ (Later.refl run w₁) knows₁ delivering₁ ?_
          obtain ⟨instant, first⟩ := Option.ne_none_iff_exists'.mp tried
          obtain ⟨db, past, there⟩ := delivering₁.seen usage (List.mem_cons_self ..)
          refine ⟨db, past, usage, there, rfl, instant, w₁.clock, first, rfl, ?_⟩
          simp only [usageTooOld, first, Option.any_some, Bool.or_eq_true, decide_eq_true_eq, not_or] at recent
          omega

theorem works_submitUsage {doc : Subscription} {Q : Subscription → PaymentWorld → Prop}
    (knows : Knows run doc w)
    (continues : ∀ doc' w', Later run w w' → Knows run doc' w' → doc'.planRequest = doc.planRequest →
      Q doc' w') :
    Works config strict timely run (submitUsage config doc) Q w := by
  refine works_bind (works_query fun w₁ relied => ?_)
  refine works_submitRows enabled _ (knows.rely enabled relied) (pendingUsage_delivering w₁)
    fun doc' w' later knows same => continues doc' w' (relied.toLater.trans later) knows same

end Enabled

/-! ### Invoices -/

theorem works_reconcileOverage {doc : Subscription} {invoice : Nat} {line : InvoiceLine}
    {Q : Bool → PaymentWorld → Prop}
    (continues : ∀ reconciled w', Rely config strict run w w' → Q reconciled w') :
    Works config strict timely run (reconcileOverage config doc invoice line) Q w := by
  refine works_bind (works_query fun w₁ one => ?_)
  split
  · exact continues false w₁ one
  · refine works_bind (works_lookup fun _ _ _ _ _ _ two => ?_)
    have relied := one.trans two
    dsimp only
    split
    · exact continues false _ relied
    · split
      · exact continues true _ relied
      · refine works_bind (works_send (fun _ _ _ => trivial) fun w₂ _ _ => ⟨trivial, fun _ three => ?_⟩)
        exact continues true _ (relied.trans three)

theorem works_reconcileLines (lines : List InvoiceLine) {doc : Subscription} {invoice employees : Nat}
    {Q : Bool → PaymentWorld → Prop}
    (continues : ∀ reconciled w', Rely config strict run w w' → Q reconciled w') :
    Works config strict timely run (reconcileLines config doc invoice employees lines) Q w := by
  induction lines generalizing w with
  | nil => exact continues true w (Rely.refl _ _ _ w)
  | cons line rest ih =>
      have overage : ∀ w₁, Rely config strict run w w₁ →
          Works config strict timely run
            (if line.price = some .overage then do
              if ← reconcileOverage config doc invoice line then
                reconcileLines config doc invoice employees rest
              else pure false
            else reconcileLines config doc invoice employees rest) Q w₁ := by
        intro w₁ one
        split
        · refine works_bind (works_reconcileOverage fun reconciled w₂ two => ?_)
          split
          · exact ih fun reconciled w' three => continues reconciled w' (one.trans (two.trans three))
          · exact continues false w₂ (one.trans two)
        · exact ih fun reconciled w' two => continues reconciled w' (one.trans two)
      unfold reconcileLines
      dsimp only
      split
      · exact works_bind (works_send (fun _ _ _ => trivial) fun w₁ _ _ => ⟨trivial, fun _ relied => overage _ relied⟩)
      · exact overage w (Rely.refl _ _ _ w)

theorem works_invoiceEmployees {invoice : Invoice} {Q : Nat → PaymentWorld → Prop}
    (continues : ∀ employees w', Rely config strict run w w' → Q employees w') :
    Works config strict timely run (invoiceEmployees invoice) Q w := by
  unfold invoiceEmployees
  split
  · exact continues _ w (Rely.refl _ _ _ w)
  · trivial
  · refine works_bind (works_employeeSnapshot fun employees w₁ one => ?_)
    refine works_bind (works_send (fun _ _ _ => trivial) fun w₂ _ _ => ⟨trivial, fun _ two => ?_⟩)
    exact continues employees _ (one.trans two)

theorem works_reconcileDraft {doc : Subscription} {invoice : Invoice} {Q : Bool → PaymentWorld → Prop}
    (continues : ∀ reconciled w', Rely config strict run w w' → Q reconciled w') :
    Works config strict timely run (reconcileDraft config doc invoice) Q w := by
  unfold reconcileDraft
  split
  · exact continues true w (Rely.refl _ _ _ w)
  · have held : ∀ w₁, Rely config strict run w w₁ →
        Works config strict timely run
          (do
            let employees ← invoiceEmployees invoice
            let lines ← lookup (.lineItems invoice.id)
            check (require (!lines.hasMore)
              (.serviceUnavailable "Invoice reconciliation requires manual review"))
            if ← reconcileLines config doc invoice.id employees lines.data then do
              send none (.finalizeInvoice invoice.id)
              pure true
            else pure false) Q w₁ := by
      intro w₁ one
      refine works_bind (works_invoiceEmployees fun employees w₂ two => ?_)
      refine works_bind (works_lookup fun _ _ _ _ _ _ three => ?_)
      refine works_bind (works_check fun _ _ => ?_)
      refine works_bind (works_reconcileLines _ fun reconciled w₄ four => ?_)
      have relied := one.trans (two.trans (three.trans four))
      split
      · refine works_bind (works_send (fun _ _ _ => trivial) fun w₅ _ _ => ⟨trivial, fun _ five => ?_⟩)
        exact continues true _ (relied.trans five)
      · exact continues false w₄ relied
    split
    · exact works_bind (works_send (fun _ _ _ => trivial) fun w₁ _ _ => ⟨trivial, fun _ relied => held _ relied⟩)
    · exact held w (Rely.refl _ _ _ w)

theorem works_reconcileDrafts (drafts : List Invoice) {doc : Subscription} {held : Bool}
    {Q : Bool → PaymentWorld → Prop}
    (continues : ∀ held w', Rely config strict run w w' → Q held w') :
    Works config strict timely run (reconcileDrafts config doc drafts held) Q w := by
  induction drafts generalizing held w with
  | nil => exact continues held w (Rely.refl _ _ _ w)
  | cons invoice rest ih =>
      refine works_bind (works_renewLease fun w₁ one => ?_)
      refine works_bind (works_reconcileDraft fun reconciled w₂ two => ?_)
      exact ih fun held w' three => continues held w' (one.trans (two.trans three))

theorem works_verifyLines (lines : List InvoiceLine) {Q : Bool → PaymentWorld → Prop}
    (continues : ∀ verified w', Rely config strict run w w' → Q verified w') :
    Works config strict timely run (verifyLines lines) Q w := by
  induction lines generalizing w with
  | nil => exact continues true w (Rely.refl _ _ _ w)
  | cons line rest ih =>
      unfold verifyLines
      split
      · refine works_bind (works_query fun w₁ one => ?_)
        split
        · exact continues false w₁ one
        · exact ih fun verified w' two => continues verified w' (one.trans two)
      · exact ih continues

theorem works_latestVerified {doc : Subscription} {remote : RemoteSubscription}
    {Q : Bool → PaymentWorld → Prop}
    (continues : ∀ verified w', Rely config strict run w w' → Q verified w') :
    Works config strict timely run (latestVerified doc remote) Q w := by
  unfold latestVerified
  split
  · exact continues true w (Rely.refl _ _ _ w)
  · split
    · exact continues true w (Rely.refl _ _ _ w)
    · unfold verifyFinalizedUsage
      split
      · exact continues true w (Rely.refl _ _ _ w)
      · refine works_bind (works_lookup fun _ _ _ _ _ _ one => ?_)
        split
        · exact continues false _ one
        · exact works_verifyLines _ fun verified w' two => continues verified w' (one.trans two)

/-! ### Synchronization -/

/-- A subscription that was just read can be committed. -/
theorem find_retrieved {w₁ : PaymentWorld} {choice : Choice} {id : Nat} {expanded : Bool}
    {remote : RemoteSubscription} (consistent : Consistent w₁)
    (found : w₁.find choice (.subscription id expanded) = some remote) :
    remote.id = id ∧ Retrieved run remote w₁.tick := by
  obtain ⟨current, there, named, session, _, evaluated, received⟩ := find_subscription consistent found
  refine ⟨named, ⟨current, by rw [named]; exact there, session.symm⟩, ?_, ?_, .inl ?_⟩
  · rw [received]
    exact Nat.lt_succ_self _
  · intro _ commit mem
    rw [received]
    exact consistent.canonical commit mem
  · rw [evaluated, received]

theorem works_synchronizeSeats {doc : Subscription} {remote : RemoteSubscription}
    {Q : RemoteSubscription → PaymentWorld → Prop} (retrieved : Retrieved run remote w)
    (continues : ∀ latest w', Rely config strict run w w' → latest.id = remote.id →
      Retrieved run latest w' → Q latest w') :
    Works config strict timely run (synchronizeSeats doc remote) Q w := by
  unfold synchronizeSeats
  split
  · refine works_bind (works_check fun plan _ => ?_)
    split
    · refine works_bind (works_employeeSnapshot fun quantity w₁ one => ?_)
      split
      · exact continues remote w₁ one rfl (retrieved.later one.toLater)
      · refine works_bind (works_send (fun _ _ _ => trivial) fun w₂ _ _ => ⟨trivial, fun _ two => ?_⟩)
        refine works_lookup fun w₃ _ latest _ consistent found three => ?_
        obtain ⟨named, latestRetrieved⟩ := find_retrieved consistent found
        exact continues latest _ (one.trans (two.trans three)) named latestRetrieved
    · exact continues remote w (Rely.refl _ _ _ w) rfl retrieved
  · exact continues remote w (Rely.refl _ _ _ w) rfl retrieved

section Enabled

variable (enabled : config.enabled = true)
include enabled

theorem works_applyCanonical {doc : Subscription} {remote : RemoteSubscription} {event : Option Nat}
    {draftsHeld : Bool} {Q : Subscription → PaymentWorld → Prop} (knows : Knows run doc w)
    (subscribed : doc.stripeSubscriptionId = some remote.id) (retrieved : Retrieved run remote w)
    (continues : ∀ doc' w', Knows run doc' w' → Left run doc' w' → Q doc' w') :
    Works config strict timely run (applyCanonical doc remote event draftsHeld) Q w := by
  refine works_bind (works_check fun status _ => ?_)
  refine works_bind (works_write fun w₁ relied _ =>
    ⟨⟨knows.rely enabled relied, subscribed, retrieved.later relied.toLater⟩,
      fun _ fields db executed _ => ?_⟩)
  obtain ⟨_, _, executed⟩ := bind_ok_iff.mp executed
  obtain ⟨_, guarded, executed⟩ := bind_ok_iff.mp executed
  have leased : w₁.db.leasedTo run := by simpa using guarded
  obtain ⟨_, _, executed⟩ := bind_ok_iff.mp executed
  cases executed
  have same := (knows.rely enabled relied).stored leased
  have after : ((SubscriptionUpdate.canonical fields).apply w₁.db.bumpRevision.subscription).fenced =
      ((SubscriptionUpdate.canonical fields).apply doc).fenced :=
    (SubscriptionUpdate.canonical fields).apply_fenced same
  exact continues _ _ ⟨⟨_, List.mem_cons_self .., after⟩, fun _ => after⟩
    (.inr ⟨_, List.mem_cons_self .., rfl, after, rfl⟩)

theorem works_synchronize {doc : Subscription} {event : Option Nat}
    {Q : Subscription → PaymentWorld → Prop} (knows : Knows run doc w)
    (continues : ∀ doc' w', Knows run doc' w' → Left run doc' w' → Q doc' w') :
    Works config strict timely run (synchronize config doc event) Q w := by
  unfold synchronize
  split
  · rename_i unsubscribed
    exact continues doc w knows (.inl unsubscribed)
  · rename_i id subscribed
    refine works_bind (works_submitUsage enabled knows fun doc₁ w₁ _ knows same => ?_)
    have subscribed : doc₁.stripeSubscriptionId = some id :=
      (congrArg Subscription.stripeSubscriptionId same).trans subscribed
    refine works_bind (works_lookup fun w₂ _ remote _ consistent found relied => ?_)
    obtain ⟨named, retrieved⟩ := find_retrieved consistent found
    rw [← named] at subscribed
    refine works_bind (works_check fun _ _ => ?_)
    have finishes : ∀ doc₂ w₃, Knows run doc₂ w₃ → doc₂.stripeSubscriptionId = some remote.id →
        Retrieved run remote w₃ →
        Works config strict timely run
          (do
            let remote ← synchronizeSeats doc₂ remote
            let drafts ← lookup (.draftInvoices doc₂.stripeCustomerId)
            let held ← reconcileDrafts config doc₂ drafts.data false
            renewLease
            let verified ← latestVerified doc₂ remote
            applyCanonical doc₂ remote event (held || drafts.hasMore || !verified)) Q w₃ := by
      intro doc₂ w₃ knows subscribed retrieved
      refine works_bind (works_synchronizeSeats retrieved fun latest w₄ one kept latestRetrieved => ?_)
      refine works_bind (works_lookup fun w₅ _ _ _ _ _ two => ?_)
      refine works_bind (works_reconcileDrafts _ fun held w₆ three => ?_)
      refine works_bind (works_renewLease fun w₇ four => ?_)
      refine works_bind (works_latestVerified fun verified w₈ five => ?_)
      have further := two.trans (three.trans (four.trans five))
      exact works_applyCanonical enabled (knows.rely enabled (one.trans further))
        (by rw [kept]; exact subscribed) (latestRetrieved.later further.toLater) continues
    have knows := knows.rely enabled relied
    dsimp only
    split
    · refine works_bind (works_planUpdate enabled knows (fun _ _ => trivial) rfl rfl
        fun doc₂ w₃ later knows same _ => ?_)
      exact finishes doc₂ w₃ knows ((congrArg Subscription.stripeSubscriptionId same).trans subscribed)
        (retrieved.later later)
    · exact finishes doc₁ _ knows subscribed retrieved

theorem works_changePlan {actor : AuthenticatedUser} {code : PlanCode} :
    Works config strict timely run (changePlan config actor code) Any w := by
  refine works_bind (works_check fun _ _ => ?_)
  refine works_safeApi (works_withLease (fun doc w₁ knows => ?_) fun _ _ _ _ _ => trivial)
  split
  · rename_i unsubscribed
    refine works_bind (works_check fun _ _ => ?_)
    exact works_bind (works_write fun w₂ relied _ =>
      ⟨⟨knows.rely enabled relied, unsubscribed⟩, fun _ _ _ _ _ => trivial⟩)
  · rename_i id subscribed
    have finishes : ∀ doc w₂, Knows run doc w₂ →
        Works config strict timely run
          (do
            let doc ← performPlanRequest config doc
            synchronize config doc none) Any w₂ := by
      intro doc w₂ knows
      refine works_bind (works_performPlanRequest enabled knows fun doc₁ w₃ knows => ?_)
      exact works_synchronize enabled knows fun _ _ _ _ => trivial
    refine works_bind (works_write fun w₂ relied _ =>
      ⟨⟨knows.rely enabled relied, by rw [subscribed]; rfl⟩, fun _ answer db executed grows => ?_⟩)
    have same := (knows.rely enabled relied).stored
    obtain ⟨queued, _, executed⟩ := bind_ok_iff.mp executed
    cases queued with
    | none =>
        cases executed
        exact finishes doc _ ⟨(knows.rely enabled relied).recorded.grows grows, same⟩
    | some queued =>
        obtain ⟨_, guarded, executed⟩ := bind_ok_iff.mp executed
        have leased : w₂.db.leasedTo run := by simpa using guarded
        cases executed
        have after : ((SubscriptionUpdate.queuePlan queued).apply w₂.db.bumpRevision.subscription).fenced =
            ((SubscriptionUpdate.queuePlan queued).apply doc).fenced :=
          (SubscriptionUpdate.queuePlan queued).apply_fenced (same leased)
        exact finishes _ _ ⟨⟨_, List.mem_cons_self .., after⟩, fun _ => after⟩

end Enabled

/-! ### Completed Checkout sessions -/

/-- The subscription a create answers with can be committed: it is new, or the original response, evaluated
before anything was committed for its session. -/
theorem serve_retrieved {w₁ : PaymentWorld} {choice : Choice} (guardedAt : Option Int)
    {session companyId : Nat} {customer paymentMethod : Option Nat} {items : List RequestItem}
    {anchor : AnchorConfig} {doc : Subscription} {remote : RemoteSubscription} {stripe : Stripe}
    (consistent : Consistent w₁) (knows : Knows run doc w₁)
    (unsubscribed : doc.stripeSubscriptionId = none) (named : doc.stripeCheckoutSessionId = some session)
    (served : w₁.serve choice
      (.createSubscription session customer paymentMethod items anchor companyId) = (remote, stripe)) :
    remote.session = session ∧ Retrieved run remote (w₁.post run guardedAt
      (.createSubscription session customer paymentMethod items anchor companyId) stripe) := by
  simp only [PaymentWorld.serve, Stripe.createSubscription] at served
  split at served
  · rename_i original replayed
    cases served
    obtain ⟨use, used, rfl⟩ := KeyUse.of_replay replayed
    obtain ⟨created, evaluated, current, there, same⟩ := consistent.subscriptionKey session use used
    refine ⟨created, ⟨current, there, same.trans created.symm⟩, Nat.lt_succ_self _,
      fun _ commit mem => consistent.canonical commit mem, .inr ⟨Nat.le_of_lt evaluated, ?_⟩⟩
    have agrees : ∀ db : BillingDb, db.subscription.fenced = doc.fenced →
        db.subscription.stripeSubscriptionId = none ∧
          db.subscription.stripeCheckoutSessionId = some use.original.session := by
      intro db same
      rw [Subscription.eq_of_fenced same, created]
      exact ⟨unsubscribed, named⟩
    by_cases leased : w₁.db.leasedTo run
    · obtain ⟨free, mine⟩ := agrees w₁.db (knows.stored leased)
      exact ⟨w₁.db, List.mem_cons_self .., free, mine, fun _ => rfl⟩
    · obtain ⟨db, past, same⟩ := knows.recorded
      obtain ⟨free, mine⟩ := agrees db same
      exact ⟨db, past, free, mine, fun held => absurd held leased⟩
  · cases served
    exact ⟨rfl, ⟨_, Function.update_self .., rfl⟩, Nat.lt_succ_self _,
      fun _ commit mem => consistent.canonical commit mem, .inl rfl⟩

section Enabled

variable (enabled : config.enabled = true)
include enabled

theorem works_checkoutEmployees {doc : Subscription} {current : Nat}
    {Q : Subscription × Nat → PaymentWorld → Prop} (knows : Knows run doc w)
    (continues : ∀ doc' employees w', Later run w w' → Knows run doc' w' →
      (doc' = doc ∨ doc' = (SubscriptionUpdate.checkoutEmployees employees).apply doc) →
      doc'.stripeCheckoutEmployees = some employees → Q (doc', employees) w') :
    Works config strict timely run (checkoutEmployees doc current) Q w := by
  unfold checkoutEmployees
  split
  · rename_i employees known
    exact continues doc employees w (Later.refl run w) knows (.inl rfl) known
  · rename_i unknown
    exact works_bind (works_update enabled knows (fun _ _ => unknown) fun w₁ later _ knows =>
      continues _ current w₁ later knows (.inr rfl) rfl)

theorem works_completeCheckout {doc : Subscription} {session : CheckoutSession}
    {Q : Subscription → PaymentWorld → Prop} (knows : Knows run doc w)
    (unsubscribed : doc.stripeSubscriptionId = none)
    (stored : w.stripe.sessions session.id = some session)
    (continues : ∀ doc' w', Knows run doc' w' → Q doc' w') :
    Works config strict timely run (completeCheckout config doc session) Q w := by
  refine works_bind (works_check fun planCode mapped => ?_)
  refine works_bind (works_check fun setupId setUp => ?_)
  obtain ⟨_, mapping, planned⟩ := bind_ok_iff.mp mapped
  simp only [require_ok_iff, Bool.and_eq_true, decide_eq_true_eq] at mapping
  obtain ⟨⟨⟨⟨⟨_, complete⟩, _⟩, _⟩, named⟩, _⟩ := mapping
  rw [orFail_ok_iff] at planned setUp
  refine works_bind (works_lookup fun w₁ _ setup _ _ found relied => ?_)
  refine works_bind (works_check fun _ ready => ?_)
  simp only [require_ok_iff, Bool.and_eq_true, decide_eq_true_eq] at ready
  obtain ⟨⟨⟨_, succeeded⟩, theirs⟩, _⟩ := ready
  have paid : ∀ w₂, Grows w₁.tick w₂ →
      PaidSetup w₂ session.id doc.stripeCustomerId setup.paymentMethod := by
    intro w₂ grows
    obtain ⟨status, there, kept⟩ := (relied.grows.trans grows).session _ _ stored
    have closed : session.status ≠ .opened := by rw [complete]; decide
    exact ⟨_, setupId, setup, there, (kept closed).trans complete, setUp,
      grows.setupIntent setupId setup found succeeded, succeeded, theirs, rfl⟩
  refine works_bind (works_validateCatalog fun w₂ two => ?_)
  refine works_bind (works_planFitsNow fun current w₃ three => ?_)
  refine works_bind (works_checkoutEmployees enabled
    (knows.rely enabled (relied.trans (two.trans three)))
    fun doc₁ employees w₄ later₄ knows₁ changed counted => ?_)
  refine works_bind (works_attempt enabled knows₁
    fun doc₂ checkedAt w₅ later₅ knows₂ changed' attempted young => ?_)
  have kept : doc₂.stripeSubscriptionId = none ∧ doc₂.stripeCheckoutSessionId = some session.id ∧
      doc₂.stripeCheckoutPlan = some planCode ∧ doc₂.stripeCheckoutEmployees = some employees ∧
      doc₂.stripeCustomerId = doc.stripeCustomerId := by
    rcases changed' with rfl | ⟨_, rfl⟩ <;> rcases changed with rfl | rfl
    all_goals exact ⟨unsubscribed, named.symm, planned, counted, rfl⟩
  obtain ⟨unsubscribed₂, named₂, planned₂, counted₂, customer₂⟩ := kept
  have grows₅ := two.grows.trans (three.grows.trans (later₄.grows.trans later₅.grows))
  refine works_bind (works_send
    (fun holds w₆ relied₆ => ⟨doc₂, ⟨knows₂.recorded.grows relied₆.grows, young holds⟩, named₂⟩)
    fun w₆ relied₆ consistent₆ => ⟨?_, fun choice sent => ?_⟩)
  · rw [customer₂]
    exact ⟨paid w₆ (grows₅.trans relied₆.grows), doc₂, planCode, employees,
      knows₂.recorded.grows relied₆.grows, unsubscribed₂, named₂, customer₂, planned₂, counted₂, attempted, rfl,
      rfl, rfl⟩
  · obtain ⟨created, retrieved⟩ := serve_retrieved (some checkedAt) consistent₆
      (knows₂.rely enabled relied₆) unsubscribed₂ named₂ (Eq.refl (w₆.serve choice _))
    refine works_bind (works_update enabled (knows₂.rely enabled sent) (fun w₇ relied₇ => ?_)
      fun w₇ later₇ _ knows₃ => ?_)
    · obtain ⟨current, there, same⟩ := (retrieved.later relied₇.toLater).known
      exact ⟨unsubscribed₂, current, there, by rw [named₂, same, created]⟩
    · exact works_applyCanonical enabled knows₃ rfl (retrieved.later later₇)
        fun doc' w' knows' _ => continues doc' w' knows'

theorem works_completePending {doc : Subscription} {Q : Subscription → PaymentWorld → Prop}
    (knows : Knows run doc w) (continues : ∀ doc' w', Knows run doc' w' → Q doc' w') :
    Works config strict timely run (completePending config doc) Q w := by
  unfold completePending
  split
  · rename_i id named unsubscribed
    refine works_bind (works_lookup fun w₁ _ session _ consistent found relied => ?_)
    have knows := knows.rely enabled relied
    split
    · exact works_completeCheckout enabled knows unsubscribed (find_session consistent found) continues
    · exact continues doc _ knows
  · exact continues doc w knows

/-! ### Webhooks -/

theorem works_processEvent {event : StripeEvent} {doc : Subscription} (knows : Knows run doc w) :
    Works config strict timely run (processEvent config event doc) Any w := by
  refine works_bind (works_query fun w₁ relied => ?_)
  have knows := knows.rely enabled relied
  have finishes : ∀ doc w₂, Knows run doc w₂ →
      Works config strict timely run
        (if doc.stripeSubscriptionId = none then write (.recordEvent event.id)
        else do
          let _ ← synchronize config doc (some event.id)
          pure ()) Any w₂ := by
    intro doc w₂ knows
    split
    · exact works_recordEvent fun _ _ => trivial
    · exact works_bind (works_synchronize enabled knows fun _ _ _ _ => trivial)
  split
  · trivial
  · dsimp only
    split
    · split
      · rename_i unsubscribed
        refine works_bind (works_lookup fun w₂ _ session _ consistent found relied => ?_)
        exact works_bind (works_completeCheckout enabled (knows.rely enabled relied) unsubscribed
          (find_session consistent found) finishes)
      · exact finishes doc w₁ knows
    · exact finishes doc w₁ knows

end Enabled

/-! ### The machine -/

theorem Left.rely {doc : Subscription} {w' : PaymentWorld} (left : Left run doc w)
    (relied : Rely config strict run w w') : Left run doc w' := by
  rcases left with unsubscribed | ⟨commit, mem, mine⟩
  · exact .inl unsubscribed
  · exact .inr ⟨commit, relied.grows.canonical commit mem, mine⟩

theorem works_reconcileCompany :
    Works config strict timely run (reconcileCompany config)
      (fun left w' => ∀ doc, left = some doc → Left run doc w') w := by
  unfold reconcileCompany
  split
  · rename_i enabled
    refine works_safeApi (works_withLease (fun doc w₁ knows => ?_)
      fun left w₁ w₂ holds relied doc same => (holds doc same).rely relied)
    refine works_bind (works_completePending enabled knows fun doc w₂ knows => ?_)
    have finishes : ∀ doc w₃, Knows run doc w₃ →
        Works config strict timely run
          (do
            let doc ← synchronize config doc none
            pure (some doc)) (fun left w' => ∀ doc, left = some doc → Left run doc w') w₃ := by
      intro doc w₃ knows
      refine works_bind (works_synchronize enabled knows fun doc w₄ _ left => ?_)
      rintro doc' same
      cases same
      exact left
    dsimp only
    split
    · exact finishes doc w₂ knows
    · exact works_bind (works_performPlanRequest enabled knows finishes)
  · intro doc same
    cases same

theorem works_webhook {event : StripeEvent} : Works config strict timely run (webhook config event) Any w := by
  refine works_bind (works_check fun _ configured => ?_)
  have enabled : config.enabled = true := require_ok_iff.mp configured
  refine works_bind (works_check fun _ _ => ?_)
  refine works_bind (works_check fun _ _ => ?_)
  split
  · trivial
  · refine works_bind (works_query fun w₁ _ => ?_)
    split
    · trivial
    · refine works_recover ?_ fun failure w₂ => ?_
      · have unknown : ∀ w₂, Works config strict timely run (recordUnknown event) Any w₂ := by
          intro w₂
          have records : ∀ w₃, Works config strict timely run
              (do
                write (.recordEvent event.id)
                pure WebhookReply.ignored) Any w₃ :=
            fun w₃ => works_bind (works_recordEvent fun _ _ => trivial)
          simp only [recordUnknown]
          split
          · exact records w₂
          · exact works_bind (works_query fun w₃ _ => works_bind (works_check fun _ _ => records w₃))
        have known : ∀ w₂, Works config strict timely run
            (do
              withLease (processEvent config event)
              pure WebhookReply.received) Any w₂ :=
          fun w₂ => works_bind (works_withLease
            (fun doc w₃ knows => works_mono (works_processEvent enabled knows) fun _ _ _ => trivial)
            fun _ _ _ holds _ => holds)
        unfold handleEvent
        refine works_bind ?_
        cases event.object with
        | checkout session completed =>
            refine works_query fun w₃ _ => ?_
            split
            · exact unknown w₃
            · exact known w₃
        | subscription id customer =>
            refine works_query fun w₃ _ => ?_
            split
            · exact unknown w₃
            · exact known w₃
        | invoice subscription customer =>
            cases subscription with
            | none => exact unknown w₁
            | some id =>
                refine works_query fun w₃ _ => ?_
                split
                · exact unknown w₃
                · exact known w₃
        | unsupported => exact unknown w₁
      · have answers : ∀ (confirmed : Bool) w₃, Works config strict timely run
            (if confirmed then pure WebhookReply.duplicate
            else throw (.serviceUnavailable "Stripe synchronization temporarily unavailable")) Any w₃ := by
          intro confirmed w₃
          cases confirmed <;> trivial
        unfold eventFailure
        dsimp only
        split
        · exact works_bind (works_recover (works_query fun w₃ _ => answers _ w₃) fun _ w₃ => answers false w₃)
        · exact answers false w₂

theorem works_workerPass : Works config strict timely run (workerPass config) Any w := by
  refine works_recover (works_bind (works_readClock fun w₁ _ => ?_)) fun _ _ => trivial
  split
  · trivial
  · refine works_bind (works_query fun w₂ _ => ?_)
    split
    · refine works_bind (works_write fun w₃ _ _ => ⟨trivial, fun _ claimed _ _ _ => ?_⟩)
      split
      · refine works_recover ?_ fun _ w₄ => works_write fun _ _ _ => ⟨trivial, fun _ _ _ _ _ => trivial⟩
        exact works_bind (works_mono works_reconcileCompany fun _ _ _ => trivial)
      · trivial
    · trivial

/-- Every handler meets the contract, from any world. -/
theorem works_handler (job : PaymentJob) :
    Works config strict timely run (job.handler config)
      (fun reply w' => ∀ doc, reply = .reconciled (some doc) → Left run doc w') w := by
  have other : ∀ (reply : PaymentReply) w', (∀ left, reply ≠ .reconciled left) →
      ∀ doc, reply = .reconciled (some doc) → Left run doc w' :=
    fun _ _ differs _ same => absurd same (differs _)
  cases job with
  | checkout actor planCode =>
      refine works_bind ?_
      by_cases enabled : config.enabled = true
      · exact works_mono (works_checkout enabled) fun _ w' _ => other _ w' fun _ same => by cases same
      · exact works_bind (works_check fun _ owns => absurd (owner_enabled owns) enabled)
  | changePlan actor planCode =>
      refine works_bind (works_mono ?_ fun _ w' (_ : True) => other _ w' fun _ same => by cases same)
      refine works_bind (works_check fun _ _ => ?_)
      split
      · rename_i enabled
        exact works_bind (works_mono (works_changePlan enabled) fun _ _ _ => trivial)
      · rename_i disabled
        refine works_bind (works_readClock fun w₁ _ => ?_)
        exact works_write fun w₂ _ _ => ⟨Bool.eq_false_iff.mpr disabled, fun _ _ _ _ _ => trivial⟩
  | reconcileCompany =>
      refine works_bind (works_mono works_reconcileCompany fun left w' holds => ?_)
      rintro doc same
      cases same
      exact holds doc rfl
  | webhook event =>
      exact works_bind (works_mono works_webhook fun _ w' _ => other _ w' fun _ same => by cases same)
  | worker =>
      exact works_bind (works_mono works_workerPass fun _ w' _ => other _ w' fun _ same => by cases same)
  | upload =>
      refine works_bind (works_bind (works_readClock fun w₁ _ => ?_))
      exact works_write fun w₂ _ _ => ⟨trivial, fun _ _ _ _ _ => other _ _ fun _ same => by cases same⟩
  | publishCopy source =>
      refine works_bind (works_bind (works_readClock fun w₁ _ => ?_))
      exact works_write fun w₂ _ _ => ⟨trivial, fun _ _ _ _ _ => other _ _ fun _ same => by cases same⟩
  | deleteFile file =>
      refine works_bind (works_bind (works_query fun w₁ _ => works_bind (works_check fun _ _ => ?_)))
      refine works_bind (works_write fun w₂ _ _ => ⟨trivial, fun _ deleted _ _ _ => ?_⟩)
      split
      · exact other _ _ fun _ same => by cases same
      · trivial

/-- The payment handlers meet their contract in every interleaving, with `strict` as far as the runs fence
their writes of delivery states. -/
theorem paymentContract_sound (config : PaymentConfig) (strict timely : Prop) :
    (paymentContract config strict timely).Sound (UsageFenced strict) (fun _ _ => True) where
  refl run w := Rely.refl config strict run w
  trans one two := one.trans two
  step inv known fenced executed other foreign :=
    rely_of_step (step_of_exec known.1 fenced executed) inv.consistent foreign
  keeps inv known fenced executed := inv.step (step_of_exec known.1 fenced executed)
  drift _ _ drifted _ := rely_of_drift drifted
  driftKeeps inv _ drifted := inv.drift drifted
  handler job run w := by
    refine Contract.Meets.mono (fun out w' ended => ?_) (works_handler job)
    rintro doc rfl
    exact ended doc rfl
  ended left relied doc same := (left doc same).rely relied

end DataVault.Payments
