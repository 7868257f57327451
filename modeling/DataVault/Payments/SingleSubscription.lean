/-
Module: DataVault.Payments.SingleSubscription
Layer: Proof
Purpose: No second paid subscription. As long as every request goes out less than an hour after its age check,
  a Checkout session gets at most one Stripe subscription, and a new subscription is created only when all
  earlier ones have ended, whether or not the document stores their ids.
Imports: DataVault.Payments.SnapshotOrder
Trusted boundary: none
Main exports: SentWithin, Billed, SingleSubscription, single_subscription
-/
import DataVault.Payments.SnapshotOrder

namespace DataVault.Payments

open DataVault.Control DataVault.Interleaving DataVault.Plans DataVault.Store DataVault.Subscriptions

variable {config : PaymentConfig} {strict : Prop} {run : Nat} {w w' : PaymentWorld}

/-! ### Requests soon after their check -/

/-- The time of the age check of a request. -/
def PaymentAct.guardedAt : PaymentAct → Option Int
  | .send guardedAt _ => guardedAt
  | _ => none

/-- A request with an age check is sent in less than `limit` milliseconds after it. -/
def SentWithin (limit : Int) (_run : Nat) (_ : Choice) (act : PaymentAct) (w : PaymentWorld) : Prop :=
  ∀ checkedAt ∈ act.guardedAt, w.clock - checkedAt < limit

instance (limit : Int) (run : Nat) (choice : Choice) (act : PaymentAct) (w : PaymentWorld) :
    Decidable (SentWithin limit run choice act w) :=
  inferInstanceAs (Decidable (∀ checkedAt ∈ act.guardedAt, w.clock - checkedAt < limit))

def oneHourMs : Int := 60 * 60 * 1000

/-- All requests so far were sent soon after their check. -/
def Prompt (w : PaymentWorld) : Prop :=
  ∀ entry ∈ w.sent, ∀ checkedAt, entry.guardedAt = some checkedAt → entry.instant - checkedAt < oneHourMs

theorem Prompt.exec {enabled : Bool} {choice : Choice} {act : PaymentAct} {answer : act.Res}
    (prompt : Prompt w) (soon : SentWithin oneHourMs run choice act w)
    (executed : paymentExec enabled run choice act w = some (answer, w')) : Prompt w' := by
  rcases exec_cases executed with rfl | ⟨command, result, db, rfl, rfl, done⟩ |
    ⟨guardedAt, request, stripe, rfl, rfl⟩
  · exact prompt
  · exact prompt
  · intro entry mem checkedAt checked
    rcases List.mem_cons.mp mem with rfl | mem
    · exact soon checkedAt checked
    · exact prompt entry mem checkedAt checked

/-! ### Subscriptions and their sessions

`Billed` ties every subscription to the session it was created for, the session to its idempotency key, and the key
to the time of its first use. A create that goes out within the hour of its check finds its key remembered if it was
used before, since Stripe keeps keys for longer than the retry window and that hour; so each session gets one
subscription, and one that has not ended is the stored one or that of the stored session. -/

/-- What the created subscriptions have to do with the document, with their Checkout sessions and with the
idempotency keys of these. -/
structure Billed (w : PaymentWorld) : Prop where
  /-- A subscription that has not ended is the stored one, or the stored session is its session. -/
  alive : ∀ id remote, w.stripe.subscriptions id = some remote → ¬ remote.terminal →
    w.db.subscription.stripeSubscriptionId = some id ∨
      w.db.subscription.stripeSubscriptionId = none ∧
        w.db.subscription.stripeCheckoutSessionId = some remote.session
  used : ∀ id remote, w.stripe.subscriptions id = some remote →
    (∃ checkout, w.stripe.sessions remote.session = some checkout ∧ checkout.status = .complete) ∧
      ∃ use, w.stripe.subscriptionKeys remote.session = some use
  once : ∀ id id' remote remote', w.stripe.subscriptions id = some remote →
    w.stripe.subscriptions id' = some remote' → remote.session = remote'.session → id = id'
  serial : ∀ older newer remote remote', older < newer → w.stripe.subscriptions older = some remote →
    w.stripe.subscriptions newer = some remote' → remote.terminal
  /-- A session that waited for its subscription still waits, has expired, or its key was used. -/
  waiting : ∀ view ∈ w.checkouts, view.subscription = none → ∀ id, view.session = some id →
    (w.db.subscription.stripeSubscriptionId = none ∧
      w.db.subscription.stripeCheckoutSessionId = some id) ∨
    (∃ checkout, w.stripe.sessions id = some checkout ∧ checkout.status = .expired) ∨
    ∃ use, w.stripe.subscriptionKeys id = some use
  firstUse : ∀ id use, w.stripe.subscriptionKeys id = some use →
    ∃ view ∈ w.checkouts, view.session = some id ∧
      ∃ instant, view.attemptAt = some instant ∧ instant ≤ use.firstUsedAt

/-- A step that creates no subscription. -/
structure NoneCreated (w w' : PaymentWorld) : Prop where
  subscriptions : ∀ id remote', w'.stripe.subscriptions id = some remote' →
    ∃ remote, w.stripe.subscriptions id = some remote ∧ remote'.session = remote.session ∧
      (remote.terminal → remote'.terminal)
  keys : w'.stripe.subscriptionKeys = w.stripe.subscriptionKeys

theorem NoneCreated.of_same (subscriptions : w'.stripe.subscriptions = w.stripe.subscriptions)
    (keys : w'.stripe.subscriptionKeys = w.stripe.subscriptionKeys) : NoneCreated w w' where
  subscriptions id remote' found := ⟨remote', by rwa [← subscriptions], rfl, fun ended => ended⟩
  keys := keys

theorem noneCreated_of_drift {change : PaymentDrift} (drifted : paymentDrift change w = some w') :
    NoneCreated w w' := by
  cases change with
  | tick | seats =>
      cases drifted
      exact .of_same rfl rfl
  | session | setupIntent =>
      simp only [paymentDrift] at drifted
      repeat' split at drifted
      all_goals cases drifted
      all_goals exact .of_same rfl rfl
  | subscription remote =>
      simp only [paymentDrift] at drifted
      split at drifted
      · rename_i before found
        split at drifted
        · rename_i kept
          cases drifted
          refine ⟨fun id remote' there => ?_, rfl⟩
          by_cases same : id = remote.id
          · subst same
            obtain rfl : remote = remote' := by simpa using there
            exact ⟨before, found, kept.1, kept.2⟩
          · exact ⟨remote', by simpa [same] using there, rfl, fun ended => ended⟩
        · cases drifted
      · cases drifted

namespace Billed

/-- How the stored subscription and session of a living subscription can change. -/
theorem alive_commit {db : BillingDb} (billed : Billed w)
    (move : CheckoutMove w (checkoutView w.db.subscription) (checkoutView db.subscription))
    {id : Nat} {remote : RemoteSubscription} (found : w.stripe.subscriptions id = some remote)
    (alive : ¬ remote.terminal) :
    db.subscription.stripeSubscriptionId = some id ∨
      db.subscription.stripeSubscriptionId = none ∧
        db.subscription.stripeCheckoutSessionId = some remote.session := by
  have before := billed.alive id remote found alive
  obtain ⟨⟨checkout, there, complete⟩, _⟩ := billed.used id remote found
  generalize next : checkoutView db.subscription = view at move
  suffices view.subscription = some id ∨ view.subscription = none ∧ view.session = some remote.session by
    rw [← next] at this
    exact this
  cases move with
  | keep | attempted | counted => exact before
  | forgotten stored gone ended =>
      rcases before with mine | ⟨unsubscribed, _⟩
      · cases stored.symm.trans mine
        cases gone.symm.trans found
        exact absurd ended alive
      · cases stored.symm.trans unsubscribed
  | rotated _ unsubscribed expired =>
      rcases before with mine | ⟨_, session⟩
      · cases unsubscribed.symm.trans mine
      · -- A session with a subscription is complete, so the code does not give it up.
        obtain ⟨checkout', there', finished⟩ := expired _ session
        cases there.symm.trans there'
        rw [complete] at finished
        cases finished
  | opened unsubscribed unopened =>
      rcases before with mine | ⟨_, session⟩
      · cases unsubscribed.symm.trans mine
      · cases unopened.symm.trans session
  | subscribed unsubscribed created mine =>
      rcases before with other | ⟨_, session⟩
      · cases unsubscribed.symm.trans other
      · have same : remote.session = _ := Option.some.inj (session.symm.trans mine)
        exact .inl (congrArg some (billed.once _ _ _ _ created found same.symm))

/-- A session that waits for its subscription goes on waiting, expires, or gets one. -/
theorem waiting_commit {db : BillingDb} (billed : Billed w)
    (move : CheckoutMove w (checkoutView w.db.subscription) (checkoutView db.subscription)) {id : Nat}
    (unsubscribed : w.db.subscription.stripeSubscriptionId = none)
    (session : w.db.subscription.stripeCheckoutSessionId = some id) :
    (db.subscription.stripeSubscriptionId = none ∧ db.subscription.stripeCheckoutSessionId = some id) ∨
    (∃ checkout, w.stripe.sessions id = some checkout ∧ checkout.status = .expired) ∨
    ∃ use, w.stripe.subscriptionKeys id = some use := by
  generalize next : checkoutView db.subscription = view at move
  suffices (view.subscription = none ∧ view.session = some id) ∨
      (∃ checkout, w.stripe.sessions id = some checkout ∧ checkout.status = .expired) ∨
      ∃ use, w.stripe.subscriptionKeys id = some use by
    rw [← next] at this
    exact this
  cases move with
  | keep | attempted | counted => exact .inl ⟨unsubscribed, session⟩
  | forgotten stored => cases stored.symm.trans unsubscribed
  | rotated _ _ expired => exact .inr (.inl (expired id session))
  | opened _ unopened => cases unopened.symm.trans session
  | subscribed _ created mine =>
      cases session.symm.trans mine
      exact .inr (.inr (billed.used _ _ created).2)

/-- A step that creates no subscription keeps it. -/
theorem next (billed : Billed w) (grows : Grows w w') (moves : DocumentMoves w w')
    (none : NoneCreated w w') : Billed w' := by
  have views : ∀ view ∈ w.checkouts, view ∈ w'.checkouts := by
    intro view mem
    obtain ⟨db, past, rfl⟩ := List.mem_map.mp mem
    exact List.mem_map_of_mem (grows.past db past)
  constructor
  case alive =>
    intro id remote' found' alive'
    obtain ⟨remote, found, same, ended⟩ := none.subscriptions id remote' found'
    have alive : ¬ remote.terminal := fun terminal => alive' (ended terminal)
    rw [same]
    rcases moves with kept | ⟨db, rfl, move⟩
    · rw [kept.1]
      exact billed.alive id remote found alive
    · exact billed.alive_commit move.checkout found alive
  case used =>
    intro id remote' found'
    obtain ⟨remote, found, same, _⟩ := none.subscriptions id remote' found'
    obtain ⟨⟨checkout, there, complete⟩, key⟩ := billed.used id remote found
    obtain ⟨status, there', kept⟩ := grows.session _ checkout there
    rw [same, none.keys]
    refine ⟨⟨_, there', ?_⟩, key⟩
    have closed : checkout.status ≠ .opened := by
      rw [complete]
      decide
    exact (kept closed).trans complete
  case once =>
    intro id id' remote₁ remote₂ found₁ found₂ equal
    obtain ⟨first, there, same, _⟩ := none.subscriptions id remote₁ found₁
    obtain ⟨second, there', same', _⟩ := none.subscriptions id' remote₂ found₂
    exact billed.once id id' first second there there' (by rw [← same, ← same', equal])
  case serial =>
    intro older newer remote₁ remote₂ before found₁ found₂
    obtain ⟨first, there, _, ended⟩ := none.subscriptions older remote₁ found₁
    obtain ⟨second, there', _⟩ := none.subscriptions newer remote₂ found₂
    exact ended (billed.serial older newer first second before there there')
  case firstUse =>
    intro id use used
    rw [none.keys] at used
    obtain ⟨view, mem, shown⟩ := billed.firstUse id use used
    exact ⟨view, views view mem, shown⟩
  case waiting =>
    -- What is true of the state before the step is carried on by `Grows`.
    have carry : ∀ id (waits : Prop),
        (waits ∨ (∃ checkout, w.stripe.sessions id = some checkout ∧ checkout.status = .expired) ∨
          ∃ use, w.stripe.subscriptionKeys id = some use) →
        (waits ∨ (∃ checkout, w'.stripe.sessions id = some checkout ∧ checkout.status = .expired) ∨
          ∃ use, w'.stripe.subscriptionKeys id = some use) := by
      intro id waits
      rw [none.keys]
      rintro (holds | ⟨checkout, there, expired⟩ | used)
      · exact .inl holds
      · obtain ⟨status, there', kept⟩ := grows.session id checkout there
        have closed : checkout.status ≠ .opened := by
          rw [expired]
          decide
        exact .inr (.inl ⟨_, there', (kept closed).trans expired⟩)
      · exact .inr (.inr used)
    rcases moves with kept | ⟨db, rfl, move⟩
    · intro view mem unsubscribed id shown
      rw [PaymentWorld.checkouts, DocumentMoves.past kept] at mem
      rw [kept.1]
      exact carry id _ (billed.waiting view mem unsubscribed id shown)
    · intro view mem unsubscribed id shown
      rcases List.mem_cons.mp mem with rfl | mem
      · exact .inl ⟨unsubscribed, shown⟩
      · rcases billed.waiting view mem unsubscribed id shown with ⟨waits, session⟩ | finished
        · exact billed.waiting_commit move.checkout waits session
        · exact .inr finished

/-- A request that goes out in time creates nothing under a key that was used before. -/
theorem unused_key (billed : Billed w) (history : CheckoutHistory w) {session : Nat} {forgotten : Bool}
    {doc : Subscription} {guardedAt : Option Int} (recorded : Recorded w doc)
    (shown : doc.stripeCheckoutSessionId = some session)
    (attempted : Attempted doc.stripeSubscriptionAttemptAt guardedAt)
    (soon : ∀ checkedAt, guardedAt = some checkedAt → w.clock - checkedAt < oneHourMs)
    (unused : KeyUse.replay (w.stripe.subscriptionKeys session) forgotten w.clock = none) :
    w.stripe.subscriptionKeys session = none := by
  by_contra used
  obtain ⟨use, used⟩ := Option.ne_none_iff_exists'.mp used
  have old := KeyUse.unused_of_replay unused use used
  obtain ⟨view, mem, viewSession, first, viewAttempt, before⟩ := billed.firstUse session use used
  obtain ⟨instant, checkedAt, docAttempt, checked, young⟩ := attempted
  have same : first = instant :=
    history.attemptAt.unique mem recorded.checkout viewSession shown viewAttempt docAttempt
  have prompt := soon checkedAt checked
  unfold stripeRetryWindowMs at young
  unfold oneHourMs at prompt
  omega

/-- When a subscription is created, the document still waits for it and all others have ended. -/
theorem alone (billed : Billed w) {session : Nat} {customer paymentMethod : Option Nat} {doc : Subscription}
    (paid : PaidSetup w session customer paymentMethod) (recorded : Recorded w doc)
    (unsubscribed : doc.stripeSubscriptionId = none)
    (shown : doc.stripeCheckoutSessionId = some session)
    (unused : w.stripe.subscriptionKeys session = none) :
    (w.db.subscription.stripeSubscriptionId = none ∧
      w.db.subscription.stripeCheckoutSessionId = some session) ∧
    ∀ id remote, w.stripe.subscriptions id = some remote → remote.terminal ∧ remote.session ≠ session := by
  have waits : w.db.subscription.stripeSubscriptionId = none ∧
      w.db.subscription.stripeCheckoutSessionId = some session := by
    rcases billed.waiting _ recorded.checkout unsubscribed session shown with
      waits | ⟨checkout, there, expired⟩ | ⟨use, used⟩
    · exact waits
    · obtain ⟨checkout', _, _, there', complete, _⟩ := paid
      cases there.symm.trans there'
      rw [complete] at expired
      cases expired
    · cases unused.symm.trans used
  refine ⟨waits, fun id remote found => ?_⟩
  have other : remote.session ≠ session := by
    rintro rfl
    obtain ⟨_, use, used⟩ := billed.used id remote found
    cases unused.symm.trans used
  refine ⟨?_, other⟩
  by_contra alive
  rcases billed.alive id remote found alive with stored | ⟨_, session'⟩
  · cases stored.symm.trans waits.1
  · exact other (Option.some.inj (session'.symm.trans waits.2))

/-- The creation of a subscription keeps it. -/
theorem created (billed : Billed w) (history : CheckoutHistory w) (consistent : Consistent w)
    {guardedAt : Option Int} {companyId : Nat} {customer paymentMethod : Option Nat}
    {items : List RequestItem} {anchor : AnchorConfig} {remote : RemoteSubscription} {forgotten : Bool}
    (known : (Request.createSubscription remote.session customer paymentMethod items anchor
      companyId).Known config guardedAt w)
    (id : remote.id = w.steps)
    (soon : ∀ checkedAt, guardedAt = some checkedAt → w.clock - checkedAt < oneHourMs)
    (unused : KeyUse.replay (w.stripe.subscriptionKeys remote.session) forgotten w.clock = none) :
    Billed (w.post run guardedAt
      (.createSubscription remote.session customer paymentMethod items anchor companyId)
      (w.stripe.addSubscription remote w.clock)) := by
  obtain ⟨paid, doc, planCode, employees, recorded, unsubscribed, shown, _, _, _, attempted, _⟩ := known
  have unused := billed.unused_key history recorded shown attempted soon unused
  obtain ⟨waits, others⟩ := billed.alone paid recorded unsubscribed shown unused
  have cases_of {other : Nat} {found : RemoteSubscription}
      (there : Function.update w.stripe.subscriptions remote.id (some remote) other = some found) :
      (other = remote.id ∧ found = remote) ∨ w.stripe.subscriptions other = some found ∧ other < remote.id := by
    by_cases new : other = remote.id
    · subst new
      exact .inl ⟨rfl, by simpa using there.symm⟩
    · have old : w.stripe.subscriptions other = some found := by simpa [new] using there
      exact .inr ⟨old, by rw [id]; exact (consistent.subscription other found old).2⟩
  constructor <;> simp only [PaymentWorld.post_stripe, PaymentWorld.post_db, Stripe.addSubscription_subscriptions,
    Stripe.addSubscription_subscriptionKeys, Stripe.addSubscription_sessions]
  case alive =>
    intro other found there alive
    rcases cases_of there with ⟨rfl, rfl⟩ | ⟨old, _⟩
    · exact .inr waits
    · exact absurd (others other found old).1 alive
  case used =>
    intro other found there
    rcases cases_of there with ⟨rfl, rfl⟩ | ⟨old, _⟩
    · obtain ⟨checkout, _, _, there', complete, _⟩ := paid
      exact ⟨⟨checkout, there', complete⟩, _, Function.update_self ..⟩
    · obtain ⟨session, use, used⟩ := billed.used other found old
      refine ⟨session, use, ?_⟩
      rwa [Function.update_of_ne (others other found old).2]
  case once =>
    intro first second found found' there there' same
    rcases cases_of there with ⟨rfl, rfl⟩ | ⟨old, _⟩ <;> rcases cases_of there' with ⟨rfl, rfl⟩ | ⟨old', _⟩
    · rfl
    · exact absurd same.symm (others second found' old').2
    · exact absurd same (others first found old).2
    · exact billed.once first second found found' old old' same
  case serial =>
    intro older newer found found' before there there'
    rcases cases_of there with ⟨rfl, rfl⟩ | ⟨old, _⟩
    · rcases cases_of there' with ⟨rfl, rfl⟩ | ⟨_, lower⟩
      · exact absurd before (Nat.lt_irrefl _)
      · exact absurd before (Nat.lt_asymm lower)
    · exact (others older found old).1
  case waiting =>
    intro view mem unsubscribed other shown
    by_cases new : other = remote.session
    · subst new
      exact .inr (.inr ⟨_, Function.update_self ..⟩)
    · rw [Function.update_of_ne new]
      exact billed.waiting view mem unsubscribed other shown
  case firstUse =>
    intro other use used
    by_cases new : other = remote.session
    · subst new
      obtain rfl : ⟨w.clock, remote⟩ = use := by simpa using used
      obtain ⟨instant, _, first, _⟩ := attempted
      exact ⟨_, recorded.checkout, shown, instant, first,
        history.attempted _ recorded.checkout instant first⟩
    · rw [Function.update_of_ne new] at used
      exact billed.firstUse other use used

theorem fresh (companyId : Nat) (activatedAt clock : Int) (ownerEmail : Option String) :
    Billed (freshCompany companyId activatedAt clock ownerEmail).world := by
  constructor
  case waiting =>
    intro view mem _ id shown
    obtain rfl := List.mem_singleton.mp mem
    cases shown
  case alive =>
    intro _ _ found
    cases found
  case used =>
    intro _ _ found
    cases found
  case once =>
    intro _ _ _ _ found
    cases found
  case serial =>
    intro _ _ _ _ _ found
    cases found
  case firstUse =>
    intro _ _ used
    cases used

end Billed

/-- A step whose request went out in time keeps it. -/
theorem Billed.step (billed : Billed w) (history : CheckoutHistory w) (consistent : Consistent w)
    (step : PaymentStep config strict run w w') (prompt : Prompt w') : Billed w' := by
  have grows := step.grows consistent
  have moves := step.moves
  cases step with
  | subscribed known id evaluated unused =>
      exact billed.created history consistent known id
        (fun checkedAt checked => prompt _ (List.mem_cons_self ..) checkedAt checked) unused
  | idle | quiet | update | rotate | localPlan | queuePlan | canonical | usage | stored | planChanged | sent
  | opened => exact billed.next grows moves (.of_same rfl rfl)

/-- Subscriptions by their ids, which are numbers of the steps that created them: a Checkout session has one at
most, and all but the newest have ended. -/
structure SingleSubscription (w : PaymentWorld) : Prop where
  once : ∀ id id' remote remote', w.stripe.subscriptions id = some remote →
    w.stripe.subscriptions id' = some remote' → remote.session = remote'.session → id = id'
  serial : ∀ older newer remote remote', older < newer → w.stripe.subscriptions older = some remote →
    w.stripe.subscriptions newer = some remote' → remote.terminal

/-- A Checkout session never gets a second subscription, and all subscriptions of a company but the newest have ended,
in every state of every run whose requests go out less than an hour after their age check. A retry passes that check
within 23 hours of the first attempt, and Stripe keeps a key for a day, so the request still finds it. -/
theorem single_subscription {companyId : Nat} {activatedAt clock : Int} {ownerEmail : Option String}
    {s' : PaymentSystem} {events : List PaymentEvent}
    (interleaving : (paymentMachine config).Run (Acting (SentWithin oneHourMs))
      (freshCompany companyId activatedAt clock ownerEmail) events s') :
    SingleSubscription s'.world := by
  have holds : CheckoutHistory s'.world ∧ Prompt s'.world ∧ Billed s'.world := by
    refine (invariant_from (fun w => CheckoutHistory w ∧ Prompt w ∧ Billed w)
      (fun _ _ _ _ _ (impossible : False) => impossible.elim) ?_ ?_ interleaving
      (idle_meets (Consistent.of_empty rfl rfl) rfl) ⟨(DocumentHistory.fresh ..).checkout, ?_, .fresh ..⟩).2
    · rintro run choice act w answer w' consistent ⟨history, prompt, billed⟩ known soon executed
      have step := step_of_exec known (fun impossible => impossible.elim) executed
      have prompt' := prompt.exec soon executed
      exact ⟨history.next (step.grows consistent) step.moves, prompt',
        billed.step history consistent step prompt'⟩
    · rintro change w w' ⟨history, prompt, billed⟩ drifted
      have grows := grows_of_drift drifted
      have moves := moves_of_drift drifted
      refine ⟨history.next grows moves, ?_, billed.next grows moves (noneCreated_of_drift drifted)⟩
      rcases paymentDrift_db drifted with ⟨_, _, _, sent⟩ | ⟨employees, pendingInvitations, rfl⟩
      · unfold Prompt
        rw [sent]
        exact prompt
      · exact prompt
    · intro entry mem
      cases mem
  exact ⟨holds.2.2.once, holds.2.2.serial⟩

/-- A purchase and the reconciliation that creates its subscription. -/
theorem single_subscription_purchase :
    ∃ s', (paymentMachine testMode).playIf (Acting (SentWithin oneHourMs))
        (purchase .basic ++ subscribe 1 .basic) (freshCompany 1 0 0 (some "owner")) = some s' ∧
      (s'.world.stripe.subscriptions 30).isSome ∧ SingleSubscription s'.world := by
  have plays : ((paymentMachine testMode).playIf (Acting (SentWithin oneHourMs))
      (purchase .basic ++ subscribe 1 .basic) (freshCompany 1 0 0 (some "owner"))).any
        fun s' => (s'.world.stripe.subscriptions 30).isSome := by decide +kernel
  obtain ⟨s', played, created⟩ := (Option.any_eq_true _ _).mp plays
  exact ⟨s', played, created, single_subscription (Machine.run_of_playIf played)⟩

/-- The first create takes effect at once, its answer is lost; the retry passes its check after exactly 23 hours
and is sent exactly one hour later, when Stripe may have forgotten the key. -/
def retriedAfterADay : List PaymentEvent :=
  purchase .basic ++ .arrive .reconcileCompany :: stepping 1 12 (granting .basic) ++
    .step 1 { granting .basic with fate := .lostAfter } :: .drift (.tick (23 * 60 * 60 * 1000)) ::
    .arrive .reconcileCompany :: stepping 2 10 (granting .basic) ++
    [.drift (.tick (60 * 60 * 1000)), .step 2 { granting .basic with forgotten := true }]

/-- With requests sent at most one hour after their check there are two active subscriptions of one session. -/
theorem double_subscription :
    ∃ s', (paymentMachine testMode).playIf (Acting (SentWithin (oneHourMs + 1))) retriedAfterADay
        (freshCompany 1 0 0 (some "owner")) = some s' ∧
      ∃ first second, s'.world.stripe.subscriptions 30 = some first ∧
        s'.world.stripe.subscriptions 41 = some second ∧ first.session = second.session ∧
        ¬ first.terminal ∧ ¬ second.terminal := by
  have plays : ((paymentMachine testMode).playIf (Acting (SentWithin (oneHourMs + 1))) retriedAfterADay
      (freshCompany 1 0 0 (some "owner"))).any fun s' =>
        (s'.world.stripe.subscriptions 30).any fun first =>
          (s'.world.stripe.subscriptions 41).any fun second =>
            first.session = second.session && ¬ first.terminal && ¬ second.terminal := by decide +kernel
  obtain ⟨s', played, created⟩ := (Option.any_eq_true _ _).mp plays
  obtain ⟨first, found, created⟩ := (Option.any_eq_true _ _).mp created
  obtain ⟨second, found', holds⟩ := (Option.any_eq_true _ _).mp created
  simp only [Bool.and_eq_true, decide_eq_true_eq] at holds
  exact ⟨s', played, first, second, found, found', holds.1.1, holds.1.2, holds.2⟩

end DataVault.Payments
