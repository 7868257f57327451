/-
Module: DataVault.Payments.FreeAccess
Layer: Proof
Purpose: What a reconciliation leaves a Free company with. A company that Stripe never managed passes the gate;
  one with a Stripe subscription passes it exactly when the committed snapshot is that of an ended subscription,
  since a subscription that lives leaves the plan Free only together with a suspended access.
Imports: DataVault.Payments.CanonicalAccess, DataVault.Payments.RetryWindow
Trusted boundary: none
Main exports: Computed, CommitsComputed, free_access
-/
import DataVault.Payments.CanonicalAccess
import DataVault.Payments.RetryWindow

namespace DataVault.Payments

open DataVault.Control DataVault.Interleaving DataVault.Plans DataVault.Subscriptions

variable {config : PaymentConfig} {strict : Prop} {run : Nat} {w w' : PaymentWorld}

/-! ### Free fits everywhere -/

/-- Free is the strictest plan. -/
theorem fits_of_free {company : CompanyState} {instant : Int} {employees : Nat}
    (fits : company.fits .free instant = .ok employees) (code : PlanCode) :
    ∃ count, company.fits code instant = .ok count := by
  obtain ⟨_, passed, _⟩ := bind_ok_iff.mp fits
  obtain ⟨seats, files⟩ := planFits_ok_iff.mp passed
  refine ⟨company.employees, bind_ok_iff.mpr ⟨(), planFits_ok_iff.mpr ⟨?_, ?_⟩, rfl⟩⟩
  · intro limit capped
    have none_seated := seats 0 rfl
    omega
  · intro capped
    have few := files rfl
    cases code with
    | free => exact few
    | basic => exact Nat.le_trans few (by decide)
    | premium => cases capped

/-- A subscription's prices are never those of Free. -/
theorem remotePlan_paid {remote : RemoteSubscription} {code : PlanCode} (planned : remotePlan remote = .ok code) :
    code ≠ .free := by
  simp only [remotePlan] at planned
  split at planned
  · cases planned
    decide
  · split at planned
    · cases planned
      decide
    · cases planned

/-! ### The gate -/

/-- The gate looks at the fenced part and the issue. -/
theorem assertPaymentAccess_congr {stored doc : Subscription} (same : stored.fenced = doc.fenced)
    (issue : stored.paymentSyncIssue = doc.paymentSyncIssue) (enabled : Bool) (now : Int) :
    assertPaymentAccess stored enabled now = assertPaymentAccess doc enabled now := by
  rw [Subscription.eq_of_fenced same, issue]
  rfl

/-- What a commit settles on where the company fits Free, no usage row is unresolved and no draft is held: Free
with access where the subscription has ended, otherwise its own plan, or a suspended access. -/
theorem canonicalFields_free {company : CompanyState} {doc : Subscription} {status : StripeSubscriptionStatus}
    {remote : RemoteSubscription} {now : Int} {fields : CanonicalFields} {employees : Nat}
    (computed : canonicalFields company doc status remote false now = .ok fields)
    (fits : company.fits .free now = .ok employees) (resolved : company.unresolvedUsage = false) :
    fields.paymentSyncIssue = .none ∧
      (if remote.terminal then fields.planCode = .free ∧ fields.paymentAccess = .active
        else fields.paymentAccess = .suspended ∨ fields.planCode ≠ .free) := by
  obtain ⟨target, planned, computed⟩ := bind_ok_iff.mp computed
  dsimp only at computed
  rw [resolved] at computed
  by_cases ended : isTerminalStripeStatus remote.status = true
  · have terminal : remote.terminal := ended
    simp only [settlePlan, ended, if_true, fits] at computed
    cases computed
    rw [if_pos terminal]
    exact ⟨rfl, rfl, rfl⟩
  · have alive : ¬ remote.terminal := ended
    rw [if_neg alive]
    by_cases suspended : remoteAccess remote = .suspended
    · simp only [settlePlan, ended, suspended] at computed
      cases computed
      exact ⟨rfl, .inl rfl⟩
    · obtain ⟨count, fitsToo⟩ := fits_of_free fits target
      simp only [settlePlan, ended, ne_eq, suspended, not_false_eq_true, if_true, fitsToo] at computed
      cases computed
      refine ⟨rfl, .inr ?_⟩
      have paid := remotePlan_paid planned
      simpa [suspended] using paid

/-! ### Committed snapshots -/

/-- The document of a commit is what the callback of `applyCanonical` computed, of some stored document and from some
loaded one: with reruns of the callback these two need not be the same. -/
def Computed (commit : CanonicalCommit) : Prop :=
  ∃ (doc before : Subscription) (status : StripeSubscriptionStatus) (fields : CanonicalFields),
    canonicalFields commit.company doc status commit.remote commit.draftsHeld commit.instant = .ok fields ∧
      commit.after = (SubscriptionUpdate.canonical fields).apply before

def CommitsComputed (w : PaymentWorld) : Prop := ∀ commit ∈ w.db.canonical, Computed commit

theorem CommitsComputed.step (computed : CommitsComputed w) (step : PaymentStep config strict run w w') :
    CommitsComputed w' := by
  cases step with
  | idle | update | rotate | localPlan | queuePlan | usage | planChanged | sent | opened | subscribed =>
      exact computed
  | quiet unchanged =>
      intro commit mem
      exact computed commit (unchanged.canonical ▸ mem)
  | stored stores =>
      intro commit mem
      exact computed commit (stores.canonical ▸ mem)
  | canonical leased subscribed same retrieved result =>
      intro commit mem
      rcases List.mem_cons.mp mem with rfl | mem
      · exact ⟨_, { w.db.bumpRevision.subscription with revision := w.db.subscription.revision + 2 }, _, _, result, rfl⟩
      · exact computed commit mem

theorem CommitsComputed.drift {change : PaymentDrift} (computed : CommitsComputed w)
    (drifted : paymentDrift change w = some w') : CommitsComputed w' := by
  rcases paymentDrift_db drifted with ⟨same, _⟩ | ⟨_, _, rfl⟩
  · intro commit mem
    exact computed commit (same ▸ mem)
  · exact computed

/-- The gate on the document of a commit that left the plan Free. -/
theorem Computed.access_iff {commit : CanonicalCommit} (computed : Computed commit)
    (free : commit.after.planCode = .free) {employees : Nat}
    (fits : commit.company.fits .free commit.instant = .ok employees)
    (resolved : commit.company.unresolvedUsage = false) (drafts : commit.draftsHeld = false) {now : Int}
    (recent : now - commit.instant ≤ 24 * 60 * 60 * 1000) :
    assertPaymentAccess commit.after true now = .ok () ↔ commit.remote.terminal := by
  obtain ⟨doc, before, status, fields, computed, after⟩ := computed
  have synced : fields.stripeSyncedAt = commit.instant := by
    obtain ⟨_, _, computed⟩ := bind_ok_iff.mp computed
    cases computed
    rfl
  rw [drafts] at computed
  obtain ⟨issue, settled⟩ := canonicalFields_free computed fits resolved
  rw [after] at free ⊢
  rw [assertPaymentAccess_managed rfl]
  have planCode : fields.planCode = .free := free
  have fresh : now - fields.stripeSyncedAt ≤ 86400000 := by
    rw [synced]
    exact recent
  split at settled
  · rename_i terminal
    simp [paymentInOrder, SubscriptionUpdate.apply, issue, settled.2, fresh, terminal]
  · rename_i alive
    have suspended := settled.resolve_right (not_not.mpr planCode)
    simp [paymentInOrder, SubscriptionUpdate.apply, suspended, alive]

/-! ### After a reconciliation -/

/-- The document that a reconciliation has returned with. -/
def leftBy (s : PaymentSystem) (run : Nat) : Option Subscription :=
  match s.runs[run]?.bind Process.returned with
  | some (.ok (.reconciled left)) => left
  | _ => none

theorem returned_of_leftBy {s : PaymentSystem} {doc : Subscription} (left : leftBy s run = some doc) :
    s.runs[run]? = some (.done (.ok (.reconciled (some doc)))) := by
  unfold leftBy at left
  split at left
  · rename_i returned
    obtain ⟨process, present, ended⟩ := Option.bind_eq_some_iff.mp returned
    obtain rfl := Process.returned_eq_some.mp ended
    rw [present, left]
  · cases left

/-- In every state of every run in which a reconciliation has returned, having left a Free document that is still
stored: a company that Stripe never managed passes the gate, and one with a Stripe subscription passes it exactly
when the snapshot that the reconciliation committed, at most a day ago, is that of an ended subscription, as far
as the company fitted Free with no usage unresolved and no draft held. -/
theorem free_access {companyId : Nat} {activatedAt clock : Int} {ownerEmail : Option String}
    {s' : PaymentSystem} {events : List PaymentEvent}
    (interleaving : (paymentMachine config).Run (fun _ _ => True)
      (freshCompany companyId activatedAt clock ownerEmail) events s') {doc : Subscription}
    (returned : leftBy s' run = some doc)
    (stored : s'.world.db.subscription.fenced = doc.fenced)
    (issue : s'.world.db.subscription.paymentSyncIssue = doc.paymentSyncIssue)
    (free : doc.planCode = .free) :
    (doc.stripeManaged = false →
      assertPaymentAccess s'.world.db.subscription true s'.world.clock = .ok ()) ∧
    (doc.stripeSubscriptionId.isSome →
      ∃ commit ∈ s'.world.db.canonical, commit.run = run ∧ commit.after.fenced = doc.fenced ∧
        ((∃ employees, commit.company.fits .free commit.instant = .ok employees) →
          commit.company.unresolvedUsage = false → commit.draftsHeld = false →
          s'.world.clock - commit.instant ≤ 24 * 60 * 60 * 1000 →
          (assertPaymentAccess s'.world.db.subscription true s'.world.clock = .ok () ↔
            commit.remote.terminal))) := by
  obtain ⟨all, computed⟩ := invariant_of_transitions CommitsComputed
    (fun run w w' _ computed step => computed.step step) (fun change w w' computed drifted => computed.drift drifted)
    interleaving rfl (Consistent.of_empty rfl rfl) fun _ committed => absurd committed List.not_mem_nil
  have left : Left run doc s'.world := all.meets run _ (returned_of_leftBy returned) doc rfl
  rw [assertPaymentAccess_congr stored issue]
  constructor
  · intro unmanaged
    unfold assertPaymentAccess
    rw [if_pos ⟨free, by simp [unmanaged]⟩]
  · intro subscribed
    rcases left with unsubscribed | ⟨commit, mem, own, same, sameIssue⟩
    · rw [unsubscribed] at subscribed
      cases subscribed
    · refine ⟨commit, mem, own, same, ?_⟩
      rintro ⟨employees, fits⟩ resolved drafts recent
      rw [← assertPaymentAccess_congr same sameIssue]
      have plan : commit.after.planCode = .free :=
        (Subscription.field_of_fenced Subscription.planCode (fun _ => rfl) same).trans free
      exact (computed commit mem).access_iff plan fits resolved drafts recent

/-- A Basic subscription that Stripe has ended, and the next reconciliation. -/
def endedSubscription : List PaymentEvent :=
  purchase .basic ++ subscribe 1 .basic ++
    .drift (.subscription { activeRemote .basic with id := 30, session := 15, status := some .canceled }) ::
    .arrive .reconcileCompany :: stepping 2 9 (granting .basic)

/-- It leaves a Free company that passes. -/
theorem free_access_ended :
    ∃ s' doc, (paymentMachine testMode).play endedSubscription (freshCompany 1 0 0 (some "owner")) = some s' ∧
      leftBy s' 2 = some doc ∧ doc.planCode = .free ∧
      assertPaymentAccess s'.world.db.subscription true s'.world.clock = .ok () := by
  have plays : ((paymentMachine testMode).play endedSubscription (freshCompany 1 0 0 (some "owner"))).any
      fun s' => (leftBy s' 2).any fun doc => decide
        (s'.world.db.subscription.fenced = doc.fenced ∧
          s'.world.db.subscription.paymentSyncIssue = doc.paymentSyncIssue ∧ doc.planCode = .free ∧
          doc.stripeSubscriptionId.isSome ∧ ∀ commit ∈ s'.world.db.canonical, commit.run = 2 →
            (commit.company.fits .free commit.instant).isOk ∧ commit.company.unresolvedUsage = false ∧
              commit.draftsHeld = false ∧ s'.world.clock - commit.instant ≤ 24 * 60 * 60 * 1000 ∧
              commit.remote.terminal) := by decide +kernel
  obtain ⟨s', played, checks⟩ := (Option.any_eq_true ..).mp plays
  obtain ⟨doc, left, checked⟩ := (Option.any_eq_true ..).mp checks
  obtain ⟨stored, issue, free, subscribed, commits⟩ := of_decide_eq_true checked
  obtain ⟨commit, mem, own, _, access⟩ :=
    (free_access (Machine.run_of_play played) left stored issue free).2 subscribed
  obtain ⟨fits, resolved, drafts, recent, ended⟩ := commits commit mem own
  have fitsFree : ∃ employees, commit.company.fits .free commit.instant = .ok employees := by
    cases outcome : commit.company.fits .free commit.instant with
    | ok employees => exact ⟨employees, rfl⟩
    | error failure =>
        rw [outcome] at fits
        cases fits
  exact ⟨s', doc, played, left, free, (access fitsFree resolved drafts recent).mpr ended⟩

/-- The answer of an environment in which the first payment of the subscription does not succeed. -/
def firstPaymentFails : Choice :=
  { granting .basic with remote := { activeRemote .basic with status := some .incomplete } }

/-- A company that fits Free, with no usage row and no draft, whose first payment does not succeed: the
reconciliation returns without an error and the company is locked out. -/
theorem free_locked_out :
    ∃ s' doc, (paymentMachine testMode).play
        (purchase .basic ++ .arrive .reconcileCompany :: stepping 1 22 firstPaymentFails)
        (freshCompany 1 0 0 (some "owner")) = some s' ∧
      leftBy s' 1 = some doc ∧ s'.world.db.subscription.planCode = .free ∧
      (s'.world.db.company.fits .free s'.world.clock).isOk ∧ s'.world.db.usages.rows = [] ∧
      (∀ commit ∈ s'.world.db.canonical, commit.draftsHeld = false) ∧
      assertPaymentAccess s'.world.db.subscription true s'.world.clock ≠ .ok () := by
  have plays : ((paymentMachine testMode).play
      (purchase .basic ++ .arrive .reconcileCompany :: stepping 1 22 firstPaymentFails)
      (freshCompany 1 0 0 (some "owner"))).any fun s' => (leftBy s' 1).isSome && decide
        (s'.world.db.subscription.planCode = .free ∧
          (s'.world.db.company.fits .free s'.world.clock).isOk ∧ s'.world.db.usages.rows = [] ∧
          (∀ commit ∈ s'.world.db.canonical, commit.draftsHeld = false) ∧
          assertPaymentAccess s'.world.db.subscription true s'.world.clock ≠ .ok ()) := by decide +kernel
  obtain ⟨s', played, checks⟩ := (Option.any_eq_true ..).mp plays
  obtain ⟨left, holds⟩ := (Bool.and_eq_true ..).mp checks
  obtain ⟨doc, left⟩ := Option.isSome_iff_exists.mp left
  exact ⟨s', doc, played, left, of_decide_eq_true holds⟩

end DataVault.Payments
