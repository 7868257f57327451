/-
Module: DataVault.Payments.DocumentHistory
Layer: Proof
Purpose: How the document names what it has asked Stripe for, over whole runs. A Checkout operation and a
  plan-change operation are never reused, a stored Checkout session belongs to the stored operation, and what
  was stored under an operation or a session stays with it as long as the document shows it.
Imports: DataVault.Store.History, DataVault.Payments.Reachable
Trusted boundary: none
Main exports: CheckoutView, CheckoutMove, RequestView, RequestMove, DocumentMove, DocumentMoves,
  CheckoutHistory, RequestHistory, CompanyHistory, DocumentHistory
-/
import DataVault.Store.History
import DataVault.Payments.Reachable

namespace DataVault.Payments

open DataVault.Control DataVault.Interleaving DataVault.Plans DataVault.Store DataVault.Subscriptions

/-! ### Two views of the document

The document mixes two stories, that of a Checkout and that of a plan request. Each view shows the fields of one
story, which are set and unset together; every write is one move of each view, and the other fields do not matter to
it. -/

/-- What the document shows of a Checkout: the fields that are unset together. -/
structure CheckoutView where
  subscription : Option Nat
  session : Option Nat
  operation : Option Nat
  planCode : Option PlanCode
  employees : Option Nat
  attemptAt : Option Int
deriving DecidableEq, Repr

/-- What the document shows of a plan request. -/
structure RequestView where
  subscription : Option Nat
  operation : Option Nat
  target : Option PlanCode
  employees : Option Nat
deriving DecidableEq, Repr

def checkoutView (doc : Subscription) : CheckoutView where
  subscription := doc.stripeSubscriptionId
  session := doc.stripeCheckoutSessionId
  operation := doc.stripeCheckoutOperation
  planCode := doc.stripeCheckoutPlan
  employees := doc.stripeCheckoutEmployees
  attemptAt := doc.stripeSubscriptionAttemptAt

def requestView (doc : Subscription) : RequestView where
  subscription := doc.stripeSubscriptionId
  operation := doc.stripeChangeOperation
  target := doc.pendingPlanCode
  employees := doc.stripePlanEmployees

/-- One step of the Checkout part. Subscription, session, operation and attempt are set once and forgotten together,
when the subscription has ended or the session has expired. -/
inductive CheckoutMove (w : PaymentWorld) (before : CheckoutView) : CheckoutView → Prop where
  | keep : CheckoutMove w before before
  | forgotten {id : Nat} {remote : RemoteSubscription} (stored : before.subscription = some id)
      (found : w.stripe.subscriptions id = some remote) (ended : remote.terminal) :
      CheckoutMove w before
        { before with
          subscription := none
          session := none
          operation := none
          employees := none
          attemptAt := none }
  | rotated (planCode : PlanCode) (unsubscribed : before.subscription = none)
      (expired : ∀ id, before.session = some id →
        ∃ session, w.stripe.sessions id = some session ∧ session.status = .expired) :
      CheckoutMove w before
        { before with
          session := none
          operation := some w.steps
          planCode := some planCode
          employees := none
          attemptAt := none }
  | opened {id operation : Nat} {session : CheckoutSession} (unsubscribed : before.subscription = none)
      (unopened : before.session = none) (found : w.stripe.sessions id = some session)
      (named : session.operation = some operation) (current : before.operation = some operation) :
      CheckoutMove w before { before with session := some id }
  | attempted {instant : Int} (first : before.attemptAt = none) (past : instant ≤ w.clock) :
      CheckoutMove w before { before with attemptAt := some instant }
  | counted (count : Nat) (first : before.employees = none) :
      CheckoutMove w before { before with employees := some count }
  | subscribed {id : Nat} {remote : RemoteSubscription} (unsubscribed : before.subscription = none)
      (found : w.stripe.subscriptions id = some remote) (mine : before.session = some remote.session) :
      CheckoutMove w before { before with subscription := some id }

/-- One step of the plan request. A new request takes a new operation; what belongs to an operation is set once. -/
inductive RequestMove (w : PaymentWorld) (before : RequestView) : RequestView → Prop where
  | keep : RequestMove w before before
  | queued (target : PlanCode) :
      RequestMove w before
        { before with
          operation := some w.steps
          target := some target
          employees := none }
  | counted (count : Nat) (first : before.employees = none) :
      RequestMove w before { before with employees := some count }
  | cleared : RequestMove w before { before with operation := none, target := none, employees := none }
  | forgotten : RequestMove w before ⟨none, none, none, none⟩
  | subscribed (id : Nat) (unsubscribed : before.subscription = none) :
      RequestMove w before { before with subscription := some id }

/-- What a step that leaves the state `db` does to the document: one move of each of its two parts, and nothing to what
identifies the company. -/
structure DocumentMove (w : PaymentWorld) (db : BillingDb) : Prop where
  checkout : CheckoutMove w (checkoutView w.db.subscription) (checkoutView db.subscription)
  request : RequestMove w (requestView w.db.subscription) (requestView db.subscription)
  customer : ∀ id, w.db.subscription.stripeCustomerId = some id →
    db.subscription.stripeCustomerId = some id
  companyId : db.subscription.companyId = w.db.subscription.companyId
  activatedAt : db.subscription.activatedAt = w.db.subscription.activatedAt
  ownerEmail : db.ownerEmail = w.db.ownerEmail

/-- A step that leaves the fenced part as it is. -/
theorem DocumentMove.of_fenced {w : PaymentWorld} {db : BillingDb}
    (same : db.subscription.fenced = w.db.subscription.fenced) (email : db.ownerEmail = w.db.ownerEmail) :
    DocumentMove w db where
  checkout := by
    rw [Subscription.field_of_fenced checkoutView (fun _ => rfl) same]
    exact .keep
  request := by
    rw [Subscription.field_of_fenced requestView (fun _ => rfl) same]
    exact .keep
  customer id found := by
    rwa [Subscription.field_of_fenced Subscription.stripeCustomerId (fun _ => rfl) same]
  companyId := Subscription.field_of_fenced Subscription.companyId (fun _ => rfl) same
  activatedAt := Subscription.field_of_fenced Subscription.activatedAt (fun _ => rfl) same
  ownerEmail := email

/-- An update, under the premises it is written with. -/
theorem DocumentMove.of_update {w : PaymentWorld} {change : SubscriptionUpdate}
    (allowed : change.Allowed w w.db.subscription) : DocumentMove w (w.db.apply change) := by
  cases change with
  | reconciliationRequired | schedule | noSchedule | planConfirmed =>
      exact ⟨.keep, .keep, fun _ found => found, rfl, rfl, rfl⟩
  | attemptAt field instant =>
      cases field with
      | subscription => exact ⟨.attempted allowed.1 allowed.2, .keep, fun _ found => found, rfl, rfl, rfl⟩
      | customer | checkout | plan => exact ⟨.keep, .keep, fun _ found => found, rfl, rfl, rfl⟩
  | customer id =>
      refine ⟨.keep, .keep, fun other found => ?_, rfl, rfl, rfl⟩
      rw [show w.db.subscription.stripeCustomerId = none from allowed] at found
      cases found
  | forgetSubscription =>
      obtain ⟨id, remote, stored, found, ended⟩ := allowed
      exact ⟨.forgotten stored found ended, .forgotten, fun _ found => found, rfl, rfl, rfl⟩
  | checkoutSession id =>
      obtain ⟨unsubscribed, unopened, session, operation, found, named, current⟩ := allowed
      exact ⟨.opened unsubscribed unopened found named current, .keep, fun _ found => found, rfl, rfl, rfl⟩
  | planEmployees count =>
      exact ⟨.keep, .counted count allowed, fun _ found => found, rfl, rfl, rfl⟩
  | checkoutEmployees count =>
      exact ⟨.counted count allowed, .keep, fun _ found => found, rfl, rfl, rfl⟩
  | subscription id =>
      obtain ⟨unsubscribed, remote, found, mine⟩ := allowed
      exact ⟨.subscribed unsubscribed found mine, .subscribed id unsubscribed, fun _ found => found, rfl, rfl,
        rfl⟩
  | checkoutOperation | localPlan | queuePlan | canonical => exact allowed.elim

/-- A commit of `applyCanonical` keeps the plan request or clears it. -/
theorem DocumentMove.of_canonical {w : PaymentWorld} {db : BillingDb} {fields : CanonicalFields}
    (written : db.subscription = (w.db.bumpRevision.apply (.canonical fields)).subscription)
    (email : db.ownerEmail = w.db.ownerEmail) : DocumentMove w db := by
  constructor
  case checkout =>
    rw [written]
    exact .keep
  case request =>
    rw [written]
    simp only [requestView, BillingDb.apply, BillingDb.bumpRevision, SubscriptionUpdate.apply]
    split
    · exact .cleared
    · exact .keep
  case customer =>
    intro id found
    rw [written]
    exact found
  case companyId =>
    rw [written]
    rfl
  case activatedAt =>
    rw [written]
    rfl
  case ownerEmail => exact email

variable {config : PaymentConfig} {strict : Prop} {run : Nat} {w w' : PaymentWorld}

/-- A step leaves the database as it is, or it adds one state to its history and leaves Stripe as it is. -/
def DocumentMoves (w w' : PaymentWorld) : Prop :=
  (w'.db = w.db ∧ w'.earlier = w.earlier) ∨ ∃ db, w' = w.commit db ∧ DocumentMove w db

theorem PaymentStep.moves (step : PaymentStep config strict run w w') : DocumentMoves w w' := by
  cases step with
  | idle | sent | opened | subscribed => exact .inl ⟨rfl, rfl⟩
  | quiet unchanged => exact .inr ⟨_, rfl, .of_fenced unchanged.fenced unchanged.ownerEmail⟩
  | update leased allowed => exact .inr ⟨_, rfl, .of_update allowed⟩
  | rotate leased unsubscribed expired =>
      exact .inr ⟨_, rfl, .rotated _ unsubscribed expired, .keep, fun _ found => found, rfl, rfl, rfl⟩
  | localPlan => exact .inr ⟨_, rfl, .keep, .keep, fun _ found => found, rfl, rfl, rfl⟩
  | queuePlan leased subscribed same queues =>
      refine .inr ⟨_, rfl, .keep, ?_, fun _ found => found, rfl, rfl, rfl⟩
      obtain ⟨_, operation, _⟩ := queuePlan_fits queues
      simp only [requestView, BillingDb.apply, BillingDb.bumpRevision, SubscriptionUpdate.apply, operation]
      exact .queued _
  | canonical => exact .inr ⟨_, rfl, .of_canonical rfl rfl⟩
  | usage => exact .inr ⟨_, rfl, .of_fenced rfl rfl⟩
  | stored stores => exact .inr ⟨_, rfl, .of_fenced stores.fenced stores.ownerEmail⟩
  | planChanged disabled changes =>
      obtain ⟨planChangedAt, rfl⟩ := changePlan_touches changes
      exact .inr ⟨_, rfl, .keep, .keep, fun _ found => found, rfl, rfl, rfl⟩

theorem moves_of_drift {change : PaymentDrift} (drifted : paymentDrift change w = some w') :
    DocumentMoves w w' := by
  rcases paymentDrift_db drifted with ⟨same, earlier, _⟩ | ⟨employees, pendingInvitations, rfl⟩
  · exact .inl ⟨same, earlier⟩
  · exact .inr ⟨_, rfl, .of_fenced rfl rfl⟩

theorem DocumentMoves.past (same : w'.db = w.db ∧ w'.earlier = w.earlier) : w'.past = w.past := by
  rw [PaymentWorld.past, PaymentWorld.past, same.1, same.2]

/-! ### Histories

A history is the list of the views that were ever stored, newest first. That an operation or a session is never
reused is a property of this list, and the invariant says more: whatever is only reset together with an operation
has been the same in every view that shows the operation. -/

namespace PaymentWorld

/-- What all states of the database showed, newest first. -/
def checkouts (w : PaymentWorld) : List CheckoutView := w.past.map fun db => checkoutView db.subscription

def requests (w : PaymentWorld) : List RequestView := w.past.map fun db => requestView db.subscription

theorem checkouts_eq (w : PaymentWorld) :
    w.checkouts =
      checkoutView w.db.subscription :: w.earlier.map fun db => checkoutView db.subscription := rfl

theorem requests_eq (w : PaymentWorld) :
    w.requests = requestView w.db.subscription :: w.earlier.map fun db => requestView db.subscription := rfl

@[simp] theorem checkouts_commit (w : PaymentWorld) (db : BillingDb) :
    (w.commit db).checkouts = checkoutView db.subscription :: w.checkouts := rfl

@[simp] theorem requests_commit (w : PaymentWorld) (db : BillingDb) :
    (w.commit db).requests = requestView db.subscription :: w.requests := rfl

end PaymentWorld

/-- A document that was stored is one of the views. -/
theorem Recorded.checkout {doc : Subscription} (recorded : Recorded w doc) : checkoutView doc ∈ w.checkouts := by
  obtain ⟨db, past, same⟩ := recorded
  exact List.mem_map.mpr ⟨db, past, Subscription.field_of_fenced checkoutView (fun _ => rfl) same⟩

theorem Recorded.request {doc : Subscription} (recorded : Recorded w doc) : requestView doc ∈ w.requests := by
  obtain ⟨db, past, same⟩ := recorded
  exact List.mem_map.mpr ⟨db, past, Subscription.field_of_fenced requestView (fun _ => rfl) same⟩

/-- The Checkout part over the whole history: under one operation, and under one session of it, every field that was set
keeps its value. So the parameters of a retried request are those of the first one. -/
structure CheckoutHistory (w : PaymentWorld) : Prop where
  operation : ∀ view ∈ w.checkouts, ∀ o, view.operation = some o → o < w.steps
  session : Persists CheckoutView.operation CheckoutView.session w.checkouts
  planCode : Persists CheckoutView.operation CheckoutView.planCode w.checkouts
  named : ∀ view ∈ w.checkouts, ∀ id, view.session = some id →
    ∃ session o, w.stripe.sessions id = some session ∧ session.operation = some o ∧ view.operation = some o
  attemptAt : Persists CheckoutView.session CheckoutView.attemptAt w.checkouts
  attempted : ∀ view ∈ w.checkouts, ∀ instant, view.attemptAt = some instant → instant ≤ w.clock
  employees : Persists CheckoutView.session CheckoutView.employees w.checkouts

namespace CheckoutHistory

/-- The views stay as they are while Stripe and the clock go on. -/
theorem grows (history : CheckoutHistory w) (grows : Grows w w') (same : w'.checkouts = w.checkouts) :
    CheckoutHistory w' where
  operation := by
    rw [same]
    intro view mem o shown
    exact Nat.lt_of_lt_of_le (history.operation view mem o shown) grows.steps
  session := same ▸ history.session
  planCode := same ▸ history.planCode
  named := by
    rw [same]
    intro view mem id shown
    obtain ⟨session, o, found, named, current⟩ := history.named view mem id shown
    obtain ⟨status, found', _⟩ := grows.session id session found
    exact ⟨_, o, found', named, current⟩
  attemptAt := same ▸ history.attemptAt
  attempted := by
    rw [same]
    intro view mem instant shown
    exact Int.le_trans (history.attempted view mem instant shown) grows.clock
  employees := same ▸ history.employees

/-- A session that is stored where none was stored has never been stored before. -/
theorem fresh_session (history : CheckoutHistory w) {id operation : Nat} {session : CheckoutSession}
    (unopened : (checkoutView w.db.subscription).session = none)
    (found : w.stripe.sessions id = some session) (named : session.operation = some operation)
    (current : (checkoutView w.db.subscription).operation = some operation) :
    ∀ old ∈ w.checkouts, old.session ≠ some id := by
  intro old mem shown
  obtain ⟨session', o, found', named', current'⟩ := history.named old mem id shown
  cases found.symm.trans found'
  cases named.symm.trans named'
  -- The stored operation would have kept the session.
  have persists := history.session
  rw [PaymentWorld.checkouts_eq] at persists mem
  rcases List.mem_cons.mp mem with rfl | earlier
  · rw [unopened] at shown
    cases shown
  · have kept := (List.pairwise_cons.mp persists).1 old earlier operation current' current id shown
    rw [unopened] at kept
    cases kept

/-- A value that only a new operation resets stays with its operation. -/
theorem persists_operation {β : Type} {value : CheckoutView → Option β} {view : CheckoutView}
    (history : CheckoutHistory w) (persists : Persists CheckoutView.operation value w.checkouts)
    (move : CheckoutMove w (checkoutView w.db.subscription) view)
    (kept : view.operation ≠ none → view.operation ≠ some w.steps →
      ∀ v, value (checkoutView w.db.subscription) = some v → value view = some v) :
    Persists CheckoutView.operation value (view :: w.checkouts) := by
  have unused : ∀ other ∈ w.checkouts, other.operation ≠ some w.steps := by
    intro other mem new
    exact Nat.lt_irrefl _ (history.operation other mem _ new)
  rw [PaymentWorld.checkouts_eq] at persists unused ⊢
  refine persists.cons_keyed unused ?_ kept
  cases move with
  | keep | opened | attempted | counted | subscribed => exact .inr (.inl rfl)
  | forgotten => exact .inl rfl
  | rotated => exact .inr (.inr rfl)

/-- A value that only a new session resets stays with its session. -/
theorem persists_session {β : Type} {value : CheckoutView → Option β} {view : CheckoutView}
    (history : CheckoutHistory w) (persists : Persists CheckoutView.session value w.checkouts)
    (move : CheckoutMove w (checkoutView w.db.subscription) view)
    (kept : view.session ≠ none → ∀ v, value (checkoutView w.db.subscription) = some v → value view = some v) :
    Persists CheckoutView.session value (view :: w.checkouts) := by
  have same (unchanged : view.session = (checkoutView w.db.subscription).session) :
      view.session = none ∨ view.session = (checkoutView w.db.subscription).session ∧
        ∀ v, value (checkoutView w.db.subscription) = some v → value view = some v := by
    by_cases gone : view.session = none
    · exact .inl gone
    · exact .inr ⟨unchanged, kept gone⟩
  have fresh := @fresh_session w history
  rw [PaymentWorld.checkouts_eq] at persists fresh ⊢
  cases move with
  | keep | attempted | counted | subscribed => exact persists.cons_same (same rfl)
  | forgotten | rotated => exact persists.cons_same (.inl rfl)
  | opened unsubscribed unopened found named current =>
      refine persists.cons fun k newKey => .inr ?_
      cases newKey
      exact fresh unopened found named current

theorem commit {db : BillingDb} (history : CheckoutHistory w)
    (move : CheckoutMove w (checkoutView w.db.subscription) (checkoutView db.subscription)) :
    CheckoutHistory (w.commit db) := by
  have newest : checkoutView w.db.subscription ∈ w.checkouts := List.mem_cons_self ..
  generalize next : checkoutView db.subscription = view at move
  constructor <;> rw [PaymentWorld.checkouts_commit, next]
  case operation =>
    intro other mem o shown
    rcases List.mem_cons.mp mem with rfl | mem
    · cases move with
      | keep | opened | attempted | counted | subscribed =>
          exact Nat.lt_succ_of_lt (history.operation _ newest o shown)
      | forgotten => cases shown
      | rotated =>
          cases shown
          exact Nat.lt_succ_self _
    · exact Nat.lt_succ_of_lt (history.operation other mem o shown)
  case session =>
    refine history.persists_operation history.session move fun named old v shown => ?_
    cases move with
    | keep | attempted | counted | subscribed => exact shown
    | forgotten => exact absurd rfl named
    | rotated => exact absurd rfl old
    | opened _ unopened =>
        rw [unopened] at shown
        cases shown
  case planCode =>
    refine history.persists_operation history.planCode move fun named old v shown => ?_
    cases move with
    | keep | opened | attempted | counted | subscribed | forgotten => exact shown
    | rotated => exact absurd rfl old
  case named =>
    intro other mem id shown
    rcases List.mem_cons.mp mem with rfl | mem
    · cases move with
      | keep | attempted | counted | subscribed => exact history.named _ newest id shown
      | forgotten | rotated => cases shown
      | opened _ _ found named current =>
          cases shown
          exact ⟨_, _, found, named, current⟩
    · exact history.named other mem id shown
  case attemptAt =>
    refine history.persists_session history.attemptAt move fun stored v shown => ?_
    cases move with
    | keep | counted | subscribed => exact shown
    | attempted first =>
        rw [first] at shown
        cases shown
    | forgotten | rotated => exact absurd rfl stored
    | opened => exact shown
  case attempted =>
    intro other mem instant shown
    rcases List.mem_cons.mp mem with rfl | mem
    · cases move with
      | keep | opened | counted | subscribed => exact history.attempted _ newest instant shown
      | forgotten | rotated => cases shown
      | attempted _ past =>
          cases shown
          exact past
    · exact history.attempted other mem instant shown
  case employees =>
    refine history.persists_session history.employees move fun stored v shown => ?_
    cases move with
    | keep | attempted | subscribed | opened => exact shown
    | counted count first =>
        rw [first] at shown
        cases shown
    | forgotten | rotated => exact absurd rfl stored

/-- Every step keeps it, once it is known how the world goes on and what happens to the document. -/
theorem next (history : CheckoutHistory w) (grows : Grows w w') (moves : DocumentMoves w w') :
    CheckoutHistory w' := by
  rcases moves with same | ⟨db, rfl, move⟩
  · refine history.grows grows ?_
    rw [PaymentWorld.checkouts, PaymentWorld.checkouts, DocumentMoves.past same]
  · exact history.commit move.checkout

end CheckoutHistory

/-- The plan requests over the whole history: under one operation the target, the subscription and the number of
employees, once set, keep their values. -/
structure RequestHistory (w : PaymentWorld) : Prop where
  operation : ∀ view ∈ w.requests, ∀ o, view.operation = some o → o < w.steps
  requested : ∀ view ∈ w.requests, view.target.isSome → view.operation.isSome
  target : Persists RequestView.operation RequestView.target w.requests
  subscription : Persists RequestView.operation RequestView.subscription w.requests
  employees : Persists RequestView.operation RequestView.employees w.requests

namespace RequestHistory

theorem grows (history : RequestHistory w) (steps : w.steps ≤ w'.steps) (same : w'.requests = w.requests) :
    RequestHistory w' where
  operation := by
    rw [same]
    intro view mem o shown
    exact Nat.lt_of_lt_of_le (history.operation view mem o shown) steps
  requested := same ▸ history.requested
  target := same ▸ history.target
  subscription := same ▸ history.subscription
  employees := same ▸ history.employees

/-- What is only reset together with the operation stays with it. -/
theorem persists {β : Type} {value : RequestView → Option β} {view : RequestView}
    (history : RequestHistory w) (persists : Persists RequestView.operation value w.requests)
    (move : RequestMove w (requestView w.db.subscription) view)
    (kept : view.operation ≠ none → view.operation ≠ some w.steps →
      ∀ v, value (requestView w.db.subscription) = some v → value view = some v) :
    Persists RequestView.operation value (view :: w.requests) := by
  have unused : ∀ other ∈ w.requests, other.operation ≠ some w.steps := by
    intro other mem new
    exact Nat.lt_irrefl _ (history.operation other mem _ new)
  rw [PaymentWorld.requests_eq] at persists unused ⊢
  refine persists.cons_keyed unused ?_ kept
  cases move with
  | keep | counted | subscribed => exact .inr (.inl rfl)
  | cleared | forgotten => exact .inl rfl
  | queued => exact .inr (.inr rfl)

theorem commit {db : BillingDb} (history : RequestHistory w)
    (move : RequestMove w (requestView w.db.subscription) (requestView db.subscription)) :
    RequestHistory (w.commit db) := by
  have newest : requestView w.db.subscription ∈ w.requests := List.mem_cons_self ..
  generalize next : requestView db.subscription = view at move
  constructor <;> rw [PaymentWorld.requests_commit, next]
  case operation =>
    intro other mem o shown
    rcases List.mem_cons.mp mem with rfl | mem
    · cases move with
      | keep | counted | subscribed => exact Nat.lt_succ_of_lt (history.operation _ newest o shown)
      | cleared | forgotten => cases shown
      | queued =>
          cases shown
          exact Nat.lt_succ_self _
    · exact Nat.lt_succ_of_lt (history.operation other mem o shown)
  case requested =>
    intro other mem asked
    rcases List.mem_cons.mp mem with rfl | mem
    · cases move with
      | keep | counted | subscribed => exact history.requested (requestView w.db.subscription) newest asked
      | cleared | forgotten => cases asked
      | queued => rfl
    · exact history.requested other mem asked
  case target =>
    refine history.persists history.target move fun named old v shown => ?_
    cases move with
    | keep | counted | subscribed => exact shown
    | cleared | forgotten => exact absurd rfl named
    | queued => exact absurd rfl old
  case subscription =>
    refine history.persists history.subscription move fun named old v shown => ?_
    cases move with
    | keep | counted | cleared | queued => exact shown
    | forgotten => exact absurd rfl named
    | subscribed id unsubscribed =>
        rw [unsubscribed] at shown
        cases shown
  case employees =>
    refine history.persists history.employees move fun named old v shown => ?_
    cases move with
    | keep | subscribed => exact shown
    | counted count first =>
        rw [first] at shown
        cases shown
    | cleared | forgotten => exact absurd rfl named
    | queued => exact absurd rfl old

end RequestHistory

/-- What never changes, and the customer, which is set once. -/
structure CompanyHistory (w : PaymentWorld) : Prop where
  company : ∀ db ∈ w.past, db.subscription.companyId = w.db.subscription.companyId ∧
    db.subscription.activatedAt = w.db.subscription.activatedAt ∧ db.ownerEmail = w.db.ownerEmail
  customer : ∀ db ∈ w.past, ∀ id, db.subscription.stripeCustomerId = some id →
    w.db.subscription.stripeCustomerId = some id

theorem CompanyHistory.commit {db : BillingDb} (history : CompanyHistory w) (move : DocumentMove w db) :
    CompanyHistory (w.commit db) where
  company := by
    intro other mem
    rcases List.mem_cons.mp mem with rfl | mem
    · exact ⟨rfl, rfl, rfl⟩
    · obtain ⟨companyId, activatedAt, ownerEmail⟩ := history.company other mem
      exact ⟨companyId.trans move.companyId.symm, activatedAt.trans move.activatedAt.symm,
        ownerEmail.trans move.ownerEmail.symm⟩
  customer := by
    intro other mem id shown
    rcases List.mem_cons.mp mem with rfl | mem
    · exact shown
    · exact move.customer id (history.customer other mem id shown)

/-- The history of the whole document. -/
structure DocumentHistory (w : PaymentWorld) : Prop where
  checkout : CheckoutHistory w
  request : RequestHistory w
  company : CompanyHistory w

namespace DocumentHistory

/-- Every step keeps it, once it is known how the world goes on and what happens to the document. -/
theorem next (history : DocumentHistory w) (grows : Grows w w') (moves : DocumentMoves w w') :
    DocumentHistory w' := by
  rcases moves with same | ⟨db, rfl, move⟩
  · have past := DocumentMoves.past same
    refine ⟨history.checkout.next grows (.inl same), history.request.grows grows.steps ?_, ?_⟩
    · rw [PaymentWorld.requests, PaymentWorld.requests, past]
    · constructor
      · rw [past, same.1]
        exact history.company.company
      · rw [past, same.1]
        exact history.company.customer
  · exact ⟨history.checkout.next grows (.inr ⟨db, rfl, move⟩), history.request.commit move.request,
      history.company.commit move⟩

theorem step (history : DocumentHistory w) (step : PaymentStep config strict run w w')
    (consistent : Consistent w) : DocumentHistory w' :=
  history.next (step.grows consistent) step.moves

theorem drift {change : PaymentDrift} (history : DocumentHistory w)
    (drifted : paymentDrift change w = some w') : DocumentHistory w' :=
  history.next (grows_of_drift drifted) (moves_of_drift drifted)

/-- A company as it is created. -/
theorem fresh (companyId : Nat) (activatedAt clock : Int) (ownerEmail : Option String) :
    DocumentHistory (freshCompany companyId activatedAt clock ownerEmail).world := by
  refine ⟨?_, ?_, ?_⟩
  all_goals constructor
  all_goals try exact Persists.singleton _
  all_goals
    intro view mem
    obtain rfl := List.mem_singleton.mp mem
    simp [checkoutView, requestView, freshCompany, initializeFree]

end DocumentHistory

end DataVault.Payments
