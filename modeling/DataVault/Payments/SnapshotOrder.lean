/-
Module: DataVault.Payments.SnapshotOrder
Layer: Proof
Purpose: Stripe's state never goes backwards. The snapshots of one Stripe subscription are committed in the
  order in which Stripe evaluated and returned them, in every interleaving of the handlers. A fresh response is
  newer than every commit because no one else commits under the lease; the original response of a repeated
  create is the first snapshot of its subscription, because the document has not stored it yet.
Imports: DataVault.Payments.DocumentHistory
Trusted boundary: none
Main exports: SnapshotHistory, InOrder, snapshots_in_order
-/
import DataVault.Payments.DocumentHistory

namespace DataVault.Payments

open DataVault.Control DataVault.Interleaving DataVault.Plans DataVault.Store DataVault.Subscriptions

variable {config : PaymentConfig} {strict : Prop} {run : Nat} {w w' : PaymentWorld}

/-- The log of commits, newest first: a snapshot of a subscription was evaluated no earlier and received later
than every snapshot of it that was committed before. -/
def InOrder (log : List CanonicalCommit) : Prop :=
  log.Pairwise fun newer older => newer.remote.id = older.remote.id →
    older.remote.asOf ≤ newer.remote.asOf ∧ older.remote.receivedAt < newer.remote.receivedAt

/-- A step commits nothing, or one snapshot of the stored subscription, which the run has retrieved while it held the
lease. -/
def Commits (w w' : PaymentWorld) : Prop :=
  w'.db.canonical = w.db.canonical ∨
    ∃ run commit, w'.db.canonical = commit :: w.db.canonical ∧
      checkoutView w'.db.subscription = checkoutView w.db.subscription ∧ w.db.leasedTo run ∧
      w.db.subscription.stripeSubscriptionId = some commit.remote.id ∧ Retrieved run commit.remote w

theorem PaymentStep.commits (step : PaymentStep config strict run w w') : Commits w w' := by
  cases step with
  | canonical leased subscribed same retrieved computed =>
      exact .inr ⟨run, _, rfl, rfl, leased, subscribed, retrieved⟩
  | quiet unchanged => exact .inl unchanged.canonical
  | stored stores => exact .inl stores.canonical
  | idle | update | rotate | localPlan | queuePlan | usage | planChanged | sent | opened | subscribed =>
      exact .inl rfl

theorem commits_of_drift {change : PaymentDrift} (drifted : paymentDrift change w = some w') :
    Commits w w' := by
  rcases paymentDrift_db drifted with ⟨same, _⟩ | ⟨employees, pendingInvitations, rfl⟩
  · exact .inl (congrArg BillingDb.canonical same)
  · exact .inl rfl

/-- What the commits have to do with the document and with Stripe. A committed snapshot is one of a subscription that
Stripe has, under a session that the document has had; the order of the commits is the last field, and the others carry
it through the steps. -/
structure SnapshotHistory (w : PaymentWorld) : Prop where
  stored : ∀ id, w.db.subscription.stripeSubscriptionId = some id →
    ∃ remote, w.stripe.subscriptions id = some remote ∧
      w.db.subscription.stripeCheckoutSessionId = some remote.session
  known : ∀ commit ∈ w.db.canonical, ∃ remote, w.stripe.subscriptions commit.remote.id = some remote ∧
    remote.session = commit.remote.session
  evaluated : ∀ commit ∈ w.db.canonical, commit.remote.asOf ≤ commit.remote.receivedAt
  shown : ∀ commit ∈ w.db.canonical, ∃ view ∈ w.checkouts, view.session = some commit.remote.session
  first : ∀ db ∈ w.past, db.subscription.stripeSubscriptionId = none →
    ∀ commit ∈ db.canonical, db.subscription.stripeCheckoutSessionId ≠ some commit.remote.session
  ordered : InOrder w.db.canonical

namespace SnapshotHistory

/-- A snapshot that a run may commit under its lease comes after all commits of its subscription. -/
theorem latest (snapshots : SnapshotHistory w) {remote : RemoteSubscription}
    (retrieved : Retrieved run remote w) (leased : w.db.leasedTo run) :
    ∀ commit ∈ w.db.canonical, remote.id = commit.remote.id →
      commit.remote.asOf ≤ remote.asOf ∧ commit.remote.receivedAt < remote.receivedAt := by
  intro commit mem same
  have received := retrieved.latest leased commit mem
  refine ⟨?_, received⟩
  rcases retrieved.evaluated with fresh | ⟨_, db, past, unsubscribed, session, kept⟩
  · rw [fresh]
    exact Nat.le_trans (snapshots.evaluated commit mem) (Nat.le_of_lt received)
  · -- The original response of a create: the document had stored the session, and no subscription of it.
    obtain ⟨current, found, theirs⟩ := retrieved.known
    obtain ⟨other, found', mine⟩ := snapshots.known commit mem
    rw [← same, found] at found'
    cases found'
    have logged : commit ∈ db.canonical := kept leased ▸ mem
    refine absurd ?_ (snapshots.first db past unsubscribed commit logged)
    rw [session, ← theirs, mine]

/-- The document shows the session of the stored subscription. -/
theorem stored_step (snapshots : SnapshotHistory w) (grows : Grows w w')
    (moves : DocumentMoves w w') :
    ∀ id, w'.db.subscription.stripeSubscriptionId = some id →
      ∃ remote, w'.stripe.subscriptions id = some remote ∧
        w'.db.subscription.stripeCheckoutSessionId = some remote.session := by
  intro id subscribed
  have later {remote : RemoteSubscription} {session : Option Nat}
      (found : w.stripe.subscriptions id = some remote) (mine : session = some remote.session) :
      ∃ remote, w'.stripe.subscriptions id = some remote ∧ session = some remote.session := by
    obtain ⟨remote', found', same, _⟩ := grows.subscription id remote found
    exact ⟨remote', found', by rw [mine, same]⟩
  rcases moves with ⟨sameDb, _⟩ | ⟨db, rfl, move⟩
  · rw [sameDb] at subscribed ⊢
    obtain ⟨remote, found, mine⟩ := snapshots.stored id subscribed
    exact later found mine
  · have checkout := move.checkout
    generalize next : checkoutView db.subscription = view at checkout
    have subscribed : view.subscription = some id := by
      rw [← next]
      exact subscribed
    suffices ∃ remote, w.stripe.subscriptions id = some remote ∧ view.session = some remote.session by
      obtain ⟨remote, found, mine⟩ := this
      rw [← next] at mine
      exact later found mine
    cases checkout with
    | keep | attempted | counted => exact snapshots.stored id subscribed
    | forgotten => cases subscribed
    | rotated _ unsubscribed | opened unsubscribed => cases unsubscribed.symm.trans subscribed
    | subscribed _ found mine =>
        cases subscribed
        exact ⟨_, found, mine⟩

/-- A state without a subscription shows no session that was committed before. -/
theorem first_commit {db : BillingDb} (snapshots : SnapshotHistory w) (history : CheckoutHistory w)
    (move : CheckoutMove w (checkoutView w.db.subscription) (checkoutView db.subscription))
    (unsubscribed : db.subscription.stripeSubscriptionId = none) :
    ∀ commit ∈ w.db.canonical, db.subscription.stripeCheckoutSessionId ≠ some commit.remote.session := by
  intro commit mem shown
  generalize next : checkoutView db.subscription = view at move
  have unsubscribed : view.subscription = none := by
    rw [← next]
    exact unsubscribed
  have shown : view.session = some commit.remote.session := by
    rw [← next]
    exact shown
  cases move with
  | keep | attempted | counted =>
      exact snapshots.first w.db (List.mem_cons_self ..) unsubscribed commit mem shown
  | forgotten | rotated => cases shown
  | opened _ unopened found named current =>
      cases shown
      obtain ⟨view, past, same⟩ := snapshots.shown commit mem
      exact history.fresh_session unopened found named current view past same
  | subscribed => cases unsubscribed

/-- Every step of a run and of the environment keeps it. -/
theorem next (snapshots : SnapshotHistory w) (history : CheckoutHistory w) (grows : Grows w w')
    (moves : DocumentMoves w w') (commits : Commits w w') : SnapshotHistory w' := by
  have later : ∀ commit : CanonicalCommit, ∀ remote, w.stripe.subscriptions commit.remote.id = some remote →
      remote.session = commit.remote.session → ∃ remote, w'.stripe.subscriptions commit.remote.id = some remote ∧
        remote.session = commit.remote.session := by
    intro commit remote found mine
    obtain ⟨remote', found', same, _⟩ := grows.subscription _ remote found
    exact ⟨remote', found', same.trans mine⟩
  have views : ∀ view ∈ w.checkouts, view ∈ w'.checkouts := by
    intro view mem
    obtain ⟨db, past, rfl⟩ := List.mem_map.mp mem
    exact List.mem_map_of_mem (grows.past db past)
  constructor
  case stored => exact snapshots.stored_step grows moves
  case known =>
    intro commit mem
    rcases commits with same | ⟨_, newest, log, _, _, _, retrieved⟩
    · rw [same] at mem
      obtain ⟨remote, found, mine⟩ := snapshots.known commit mem
      exact later commit remote found mine
    · rw [log] at mem
      rcases List.mem_cons.mp mem with rfl | mem
      · obtain ⟨remote, found, mine⟩ := retrieved.known
        exact later commit remote found mine
      · obtain ⟨remote, found, mine⟩ := snapshots.known commit mem
        exact later commit remote found mine
  case evaluated =>
    intro commit mem
    rcases commits with same | ⟨_, newest, log, _, _, _, retrieved⟩
    · rw [same] at mem
      exact snapshots.evaluated commit mem
    · rw [log] at mem
      rcases List.mem_cons.mp mem with rfl | mem
      · rcases retrieved.evaluated with fresh | ⟨older, _⟩
        · exact Nat.le_of_eq fresh
        · exact older
      · exact snapshots.evaluated commit mem
  case shown =>
    intro commit mem
    rcases commits with same | ⟨_, newest, log, _, _, subscribed, retrieved⟩
    · rw [same] at mem
      obtain ⟨view, past, mine⟩ := snapshots.shown commit mem
      exact ⟨view, views view past, mine⟩
    · rw [log] at mem
      rcases List.mem_cons.mp mem with rfl | mem
      · obtain ⟨remote, found, mine⟩ := snapshots.stored _ subscribed
        obtain ⟨current, found', theirs⟩ := retrieved.known
        cases found.symm.trans found'
        refine ⟨_, views _ (List.mem_cons_self ..), ?_⟩
        rw [← theirs]
        exact mine
      · obtain ⟨view, past, mine⟩ := snapshots.shown commit mem
        exact ⟨view, views view past, mine⟩
  case first =>
    rcases moves with same | ⟨db, rfl, move⟩
    · rw [DocumentMoves.past same]
      exact snapshots.first
    · intro other mem unsubscribed
      rcases List.mem_cons.mp mem with rfl | mem
      · rcases commits with same | ⟨_, _, _, kept, _, subscribed, _⟩
        · intro commit logged
          rw [show other.canonical = w.db.canonical from same] at logged
          exact snapshots.first_commit history move.checkout unsubscribed commit logged
        · have gone : other.subscription.stripeSubscriptionId = w.db.subscription.stripeSubscriptionId :=
            congrArg CheckoutView.subscription kept
          rw [unsubscribed, subscribed] at gone
          cases gone
      · exact snapshots.first other mem unsubscribed
  case ordered =>
    rcases commits with same | ⟨_, newest, log, _, leased, _, retrieved⟩
    · rw [same]
      exact snapshots.ordered
    · rw [log]
      exact List.pairwise_cons.mpr ⟨snapshots.latest retrieved leased, snapshots.ordered⟩

theorem fresh (companyId : Nat) (activatedAt clock : Int) (ownerEmail : Option String) :
    SnapshotHistory (freshCompany companyId activatedAt clock ownerEmail).world := by
  constructor
  case ordered => exact .nil
  case stored =>
    intro id subscribed
    cases subscribed
  case first =>
    intro db past _ commit mem
    obtain rfl := List.mem_singleton.mp past
    cases mem
  all_goals
    intro commit mem
    cases mem

end SnapshotHistory

/-- Whatever the order, the duplication and the delay of webhooks and the interleaving with every other handler:
the snapshots of one Stripe subscription commit in the order in which they were retrieved. -/
theorem snapshots_in_order {companyId : Nat} {activatedAt clock : Int} {ownerEmail : Option String}
    {s' : PaymentSystem} {events : List PaymentEvent}
    (interleaving : (paymentMachine config).Run (fun _ _ => True)
      (freshCompany companyId activatedAt clock ownerEmail) events s') :
    InOrder s'.world.db.canonical := by
  have snapshots : DocumentHistory s'.world ∧ SnapshotHistory s'.world := by
    refine (invariant_of_transitions (fun w => DocumentHistory w ∧ SnapshotHistory w) ?_ ?_ interleaving rfl
      (Consistent.of_empty rfl rfl) ⟨.fresh .., .fresh ..⟩).2
    · rintro run w w' consistent ⟨history, snapshots⟩ step
      exact ⟨history.step step consistent,
        snapshots.next history.checkout (step.grows consistent) step.moves step.commits⟩
    · rintro change w w' ⟨history, snapshots⟩ drifted
      exact ⟨history.drift drifted, snapshots.next history.checkout (grows_of_drift drifted)
        (moves_of_drift drifted) (commits_of_drift drifted)⟩
  exact snapshots.2.ordered

/-- After a purchase the response of the create and the first synchronization have committed. -/
theorem snapshots_in_order_purchase :
    ∃ s', (paymentMachine testMode).play (purchase .basic ++ subscribe 1 .basic)
        (freshCompany 1 0 0 (some "owner")) = some s' ∧
      s'.world.db.canonical.length = 2 ∧ InOrder s'.world.db.canonical := by
  have plays : ((paymentMachine testMode).play (purchase .basic ++ subscribe 1 .basic)
      (freshCompany 1 0 0 (some "owner"))).map (·.world.db.canonical.length) = some 2 := by decide +kernel
  obtain ⟨s', played, commits⟩ := Option.map_eq_some_iff.mp plays
  exact ⟨s', played, commits, snapshots_in_order (Machine.run_of_play played)⟩

end DataVault.Payments
