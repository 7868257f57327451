/-
Module: DataVault.Files.StoredFileCapacity
Layer: Proof
Purpose: The stored files of a company fit its plan and the plan it has queued, in every interleaving of
  uploads, sanitized copies, deletions, plan changes with and without Stripe, webhooks and reconciliations.
Imports: DataVault.Payments.Reachable
Trusted boundary: none
Main exports: FilesFit, storedFiles_fit
-/
import DataVault.Payments.Reachable

namespace DataVault.Files

open DataVault.Control DataVault.Interleaving DataVault.Payments DataVault.Plans DataVault.Subscriptions

variable {config : PaymentConfig} {run : Nat}

/-- The number of stored files is allowed by the current plan, and by the queued plan where there is one. -/
structure FilesFit (db : BillingDb) : Prop where
  plan : db.subscription.planCode.fitsFiles db.files.length
  pending : ∀ code, db.subscription.pendingPlanCode = some code → code.fitsFiles db.files.length

/-- A company with the same plans and no more files. -/
theorem FilesFit.of_fewer {db db' : BillingDb} (fit : FilesFit db)
    (plan : db'.subscription.planCode = db.subscription.planCode)
    (pending : ∀ code, db'.subscription.pendingPlanCode = some code →
      db.subscription.pendingPlanCode = some code)
    (fewer : db'.files.length ≤ db.files.length) : FilesFit db' where
  plan := by
    rw [plan]
    exact PlanCode.fitsFiles_mono fewer fit.plan
  pending code queued := PlanCode.fitsFiles_mono fewer (fit.pending code (pending code queued))

/-- The single updates leave the plan alone and never queue one. -/
theorem apply_plans {change : SubscriptionUpdate} {w : PaymentWorld} {doc : Subscription}
    (allowed : change.Allowed w doc) :
    (change.apply doc).planCode = doc.planCode ∧
      ∀ code, (change.apply doc).pendingPlanCode = some code → doc.pendingPlanCode = some code := by
  cases change with
  | attemptAt field instant => cases field <;> exact ⟨rfl, fun _ queued => queued⟩
  | forgetSubscription =>
      refine ⟨rfl, fun _ queued => ?_⟩
      cases queued
  | localPlan | queuePlan | canonical | checkoutOperation => exact allowed.elim
  | _ => exact ⟨rfl, fun _ queued => queued⟩

/-- Every transition keeps the files within the plans. -/
theorem filesFit_step {w w' : PaymentWorld} (fit : FilesFit w.db)
    (step : PaymentStep config False run w w') : FilesFit w'.db := by
  cases step with
  | idle | sent | opened | subscribed => exact fit
  | usage => exact fit.of_fewer rfl (fun _ queued => queued) (Nat.le_refl _)
  | quiet unchanged =>
      refine fit.of_fewer ?_ (fun code queued => ?_) unchanged.files
      · exact Subscription.field_of_fenced (·.planCode) (fun _ => rfl) unchanged.fenced
      · exact (Subscription.field_of_fenced (·.pendingPlanCode) (fun _ => rfl) unchanged.fenced).symm.trans
          queued
  | update leased allowed =>
      obtain ⟨plan, pending⟩ := apply_plans allowed
      exact fit.of_fewer plan pending (Nat.le_refl _)
  | rotate => exact fit.of_fewer rfl (fun _ queued => queued) (Nat.le_refl _)
  | localPlan leased unsubscribed fits =>
      obtain ⟨_, fits, _⟩ := bind_ok_iff.mp fits
      exact ⟨CompanyState.fits_files fits, fit.pending⟩
  | queuePlan leased subscribed same queues =>
      obtain ⟨target, _, fits⟩ := queuePlan_fits queues
      refine ⟨fit.plan, fun code queued => ?_⟩
      cases queued
      rw [target]
      exact fits
  | canonical leased subscribed same retrieved computed =>
      have plan := Subscription.field_of_fenced (·.planCode) (fun _ => rfl) same
      constructor
      · rcases canonicalFields_fits computed with kept | fits
        · have kept : _ = _ := kept.trans plan.symm
          simp only [PaymentWorld.commit_db, BillingDb.apply, BillingDb.bumpRevision,
            SubscriptionUpdate.apply, kept]
          exact fit.plan
        · exact fits
      · intro code queued
        refine fit.pending code ?_
        simp only [PaymentWorld.commit_db, BillingDb.apply, BillingDb.bumpRevision,
          SubscriptionUpdate.apply] at queued
        split at queued
        · cases queued
        · exact queued
  | stored stores =>
      have plan := Subscription.field_of_fenced (·.planCode) (fun _ => rfl) stores.fenced
      have pending := Subscription.field_of_fenced (·.pendingPlanCode) (fun _ => rfl) stores.fenced
      refine ⟨plan ▸ stores.fits, fun code queued => ?_⟩
      have target := stores.fitsTarget
      rw [Subscription.targetPlan, pending.symm.trans queued] at target
      exact target
  | planChanged disabled changes =>
      obtain ⟨plan, pending, _, fits⟩ := changePlan_fits changes
      exact ⟨plan ▸ fits, fun code queued => fit.pending code (pending.symm.trans queued)⟩

theorem filesFit_drift {change : PaymentDrift} {w w' : PaymentWorld} (fit : FilesFit w.db)
    (drifted : paymentDrift change w = some w') : FilesFit w'.db := by
  rcases paymentDrift_db drifted with ⟨same, _⟩ | ⟨employees, pendingInvitations, rfl⟩
  · rw [same]
    exact fit
  · exact fit.of_fewer rfl (fun _ queued => queued) (Nat.le_refl _)

/-- Stored-file capacity. Whatever runs on the company's billing and files, and however the runs interleave,
a company that starts with files that fit its plans always has files that fit its plans. -/
theorem storedFiles_fit {ok : PaymentSystem → PaymentEvent → Prop} {s s' : PaymentSystem}
    {events : List PaymentEvent} (interleaving : (paymentMachine config).Run ok s events s')
    (idle : s.runs = []) (consistent : Consistent s.world) (fit : FilesFit s.world.db) :
    FilesFit s'.world.db :=
  (invariant_of_transitions (fun w => FilesFit w.db) (fun _ _ _ _ fit step => filesFit_step fit step)
    (fun _ _ _ fit drifted => filesFit_drift fit drifted) interleaving idle consistent fit).2

/-- A company that stores its first file. -/
theorem storedFiles_fit_upload :
    ∃ config s', (paymentMachine config).play (.arrive .upload :: stepping 0 2 default)
        (freshCompany 1 0 0 none) = some s' ∧
      s'.world.db.files.length = 1 ∧ FilesFit s'.world.db := by
  refine ⟨⟨true, "", "", "", 0, 0⟩, ?_⟩
  have stored : ((paymentMachine ⟨true, "", "", "", 0, 0⟩).play (.arrive .upload :: stepping 0 2 default)
      (freshCompany 1 0 0 none)).map (·.world.db.files.length) = some 1 := by decide +kernel
  obtain ⟨s', played, length⟩ := Option.map_eq_some_iff.mp stored
  exact ⟨s', played, length, storedFiles_fit (Machine.run_of_play played) rfl
    (Consistent.of_empty rfl rfl) ⟨by decide, fun _ none => by cases none⟩⟩

end DataVault.Files
