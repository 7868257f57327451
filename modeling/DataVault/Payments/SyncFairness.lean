/-
Module: DataVault.Payments.SyncFairness
Layer: Proof
Purpose: No company starves in the queue of the synchronization worker. While a due company waits, every undisturbed
  pass of any process takes twenty companies out of its way, whatever becomes of their reconciliation and whatever the
  other processes do, so it waits for fewer passes than there are companies divided by twenty.
Imports: DataVault.Interleaving.Guided, DataVault.Payments.Worker, Mathlib.Data.Finset.Card
Trusted boundary: none
Main exports: passed, Waits, fairnessContract, WaitsThrough, sync_fairness
-/
import DataVault.Interleaving.Guided
import DataVault.Payments.Worker
import Mathlib.Data.Finset.Card

namespace DataVault.Payments

open DataVault.Interleaving

variable {w w' : SyncWorld} {x : Nat} {key : Option Int} {syncInterval now : Int}

/-! ### Companies out of the way

The queue is ordered by the next synchronization. Against one waiting company the others are either out of its way,
with a later key, or not; a claim puts a company out of the way and nothing that is allowed brings it back. The
number of companies out of the way is the measure of the proof. -/

/-- The instant comes later than the key in the order of the queue. -/
def later (key next : Option Int) : Bool := !syncsBefore next key

/-- The companies whose next synchronization is later than the key. -/
def passed (key : Option Int) (w : SyncWorld) : Finset Nat :=
  ((w.rows.filter fun row => later key row.stripeNextSyncAt).map SyncRow.id).toFinset

def SyncWorld.ids (w : SyncWorld) : List Nat := w.rows.map SyncRow.id

/-- A managed company is due and has this key. -/
def Waits (x : Nat) (key : Option Int) (w : SyncWorld) : Prop :=
  ∃ row ∈ w.rows, row.id = x ∧ row.managed = true ∧ row.due w.now = true ∧ row.stripeNextSyncAt = key

theorem mem_passed {id : Nat} :
    id ∈ passed key w ↔ ∃ row ∈ w.rows, row.id = id ∧ later key row.stripeNextSyncAt = true := by
  simp only [passed, List.mem_toFinset, List.mem_map, List.mem_filter]
  constructor
  · rintro ⟨row, ⟨mem, later⟩, named⟩
    exact ⟨row, mem, named, later⟩
  · rintro ⟨row, mem, named, later⟩
    exact ⟨row, ⟨mem, later⟩, named⟩

/-- What happens to the queue while the company waits: identifiers stay, and nobody falls back behind its key. -/
structure Advances (key : Option Int) (w w' : SyncWorld) : Prop where
  clock : w.now ≤ w'.now
  ids : w.ids ⊆ w'.ids
  passed : passed key w ⊆ passed key w'

theorem Advances.refl : Advances key w w := ⟨le_refl _, fun _ mem => mem, fun _ mem => mem⟩

theorem Advances.trans {w'' : SyncWorld} (one : Advances key w w') (two : Advances key w' w'') :
    Advances key w w'' :=
  ⟨le_trans one.clock two.clock, fun _ mem => two.ids (one.ids mem), fun _ mem => two.passed (one.passed mem)⟩

@[simp] theorem ids_update {id : Nat} {change : SyncRow → SyncRow} (named : ∀ row, (change row).id = row.id) :
    (w.update id change).ids = w.ids := by
  simp only [SyncWorld.ids, SyncWorld.update, List.map_map]
  refine List.map_congr_left fun row _ => ?_
  simp only [Function.comp]
  split
  · exact named row
  · rfl

/-- An update that takes nobody back behind the key. -/
theorem advances_update {id : Nat} {change : SyncRow → SyncRow} (named : ∀ row, (change row).id = row.id)
    (onward : ∀ row, later key row.stripeNextSyncAt = true → later key (change row).stripeNextSyncAt = true) :
    Advances key w (w.update id change) := by
  refine ⟨le_refl _, by rw [ids_update named]; exact fun _ mem => mem, fun other there => ?_⟩
  obtain ⟨row, mem, same, later⟩ := mem_passed.mp there
  refine mem_passed.mpr ⟨_, List.mem_map.mpr ⟨row, mem, rfl⟩, ?_⟩
  split
  · exact ⟨(named row).trans same, onward row later⟩
  · exact ⟨same, later⟩

theorem later_of_due {row : SyncRow} {next : Int} (due : row.due now = true) (after : now < next) :
    later row.stripeNextSyncAt (some next) = true := by
  unfold SyncRow.due at due
  cases stored : row.stripeNextSyncAt with
  | none => rfl
  | some instant =>
      simp only [stored, Option.all_some, decide_eq_true_eq] at due
      simp only [later, syncsBefore, Bool.not_eq_true', decide_eq_false_iff_not]
      omega

theorem Waits.later {next : Int} (waits : Waits x key w) (after : w.now < next) : later key (some next) = true := by
  obtain ⟨row, _, _, _, due, rfl⟩ := waits
  exact later_of_due due after

/-- A claim of an instant that is still to come takes the company past the key. -/
theorem advances_claim {id : Nat} {next : Int} (waits : Waits x key w) (after : w.now < next) :
    Advances key w (w.claim id now next).2 := by
  unfold SyncWorld.claim
  split
  · refine advances_update (fun row => ?_) fun row later => ?_
    · split <;> rfl
    · split
      · exact waits.later after
      · exact later
  · exact .refl

/-- A write that fails has taken effect or not. -/
theorem written_world {α : Type} {choice : WorkerChoice} {done : α × SyncWorld} {answer : Except WorkerFailure α}
    (wrote : written choice w done = (answer, w')) :
    (answer = .ok done.1 ∧ w' = done.2) ∨ (answer = .error .unavailable ∧ (w' = done.2 ∨ w' = w)) := by
  unfold written at wrote
  split at wrote
  · cases wrote
    refine .inr ⟨rfl, ?_⟩
    split
    · exact .inl rfl
    · exact .inr rfl
  · cases wrote
    exact .inl ⟨rfl, rfl⟩

theorem Advances.of_written {α : Type} {choice : WorkerChoice} {done : α × SyncWorld}
    {answer : Except WorkerFailure α} (effect : Advances key w done.2) (wrote : written choice w done = (answer, w')) :
    Advances key w w' := by
  rcases written_world wrote with ⟨_, rfl⟩ | ⟨_, rfl | rfl⟩
  · exact effect
  · exact effect
  · exact .refl

theorem advances_exec {choice : WorkerChoice} {act : WorkerAct} {answer : act.Res} (waits : Waits x key w)
    (prompt : ∀ id now next, act = .claim id now next → w.now < next)
    (executed : workerExec choice act w = some (answer, w')) : Advances key w w' := by
  cases act with
  | date =>
      cases executed
      exact .refl
  | find now =>
      simp only [workerExec] at executed
      split at executed
      · cases executed
        exact .refl
      · split at executed
        · cases executed
          exact .refl
        · cases executed
  | claim id now next =>
      exact (advances_claim waits (prompt id now next rfl)).of_written (Option.some.inj executed)
  | reconcileCompany companyId => exact Advances.refl.of_written (Option.some.inj executed)
  | markRetry id =>
      refine Advances.of_written (advances_update (fun row => ?_) fun row later => ?_) (Option.some.inj executed)
      · split <;> rfl
      · split <;> exact later

theorem advances_drift {change : SyncDrift} (drifted : syncDrift change w = some w') : Advances key w w' := by
  cases change with
  | pass now =>
      simp only [syncDrift] at drifted
      split at drifted
      · rename_i onward
        cases drifted
        exact ⟨onward, fun _ mem => mem, fun _ mem => mem⟩
      · cases drifted
  | enroll row =>
      simp only [syncDrift] at drifted
      split at drifted
      · cases drifted
        refine ⟨le_refl _, fun id mem => ?_, fun id there => ?_⟩
        · simp only [SyncWorld.ids, List.map_append, List.mem_append]
          exact .inl mem
        · obtain ⟨other, mem, named, later⟩ := mem_passed.mp there
          exact mem_passed.mpr ⟨other, List.mem_append_left _ mem, named, later⟩
      · cases drifted
  | manage id stripeManaged hasCheckoutSession =>
      cases drifted
      exact advances_update (fun _ => rfl) fun _ later => later
  | noteIssue id issue =>
      cases drifted
      exact advances_update (fun _ => rfl) fun _ later => later

theorem ids_claim {id : Nat} {next : Int} : (w.claim id now next).2.ids = w.ids := by
  unfold SyncWorld.claim
  split
  · exact ids_update fun row => by split <;> rfl
  · rfl

theorem ids_exec {choice : WorkerChoice} {act : WorkerAct} {answer : act.Res}
    (executed : workerExec choice act w = some (answer, w')) : w'.ids = w.ids := by
  cases act with
  | date =>
      cases executed
      rfl
  | find now =>
      simp only [workerExec] at executed
      split at executed
      · cases executed
        rfl
      · split at executed
        · cases executed
          rfl
        · cases executed
  | claim id now next =>
      rcases written_world (Option.some.inj executed) with ⟨_, rfl⟩ | ⟨_, rfl | rfl⟩
      · exact ids_claim
      · exact ids_claim
      · rfl
  | reconcileCompany companyId =>
      rcases written_world (Option.some.inj executed) with ⟨_, rfl⟩ | ⟨_, rfl | rfl⟩ <;> rfl
  | markRetry id =>
      have kept : (w.markRetry id).ids = w.ids := ids_update fun row => by split <;> rfl
      rcases written_world (Option.some.inj executed) with ⟨_, rfl⟩ | ⟨_, rfl | rfl⟩
      · exact kept
      · exact kept
      · rfl

theorem nodup_drift {change : SyncDrift} (distinct : w.ids.Nodup) (drifted : syncDrift change w = some w') :
    w'.ids.Nodup := by
  have kept : ∀ id change, (∀ row : SyncRow, (change row).id = row.id) → (w.update id change).ids.Nodup := by
    intro id change named
    rw [ids_update named]
    exact distinct
  cases change with
  | pass now =>
      simp only [syncDrift] at drifted
      split at drifted
      · cases drifted
        exact distinct
      · cases drifted
  | enroll row =>
      simp only [syncDrift] at drifted
      split at drifted
      · rename_i fresh
        cases drifted
        simp only [SyncWorld.ids, List.map_append, List.map_cons, List.map_nil]
        refine List.nodup_append.mpr ⟨distinct, List.nodup_singleton _, ?_⟩
        intro id mem other same
        obtain ⟨stored, there, rfl⟩ := List.mem_map.mp mem
        rw [List.mem_singleton.mp same]
        simpa using List.all_eq_true.mp fresh stored there
      · cases drifted
  | manage id stripeManaged hasCheckoutSession =>
      cases drifted
      exact kept _ _ (fun _ => rfl)
  | noteIssue id issue =>
      cases drifted
      exact kept _ _ (fun _ => rfl)

/-! ### The list of a pass -/

theorem syncsBefore_total (first second : Option Int) : (syncsBefore first second || syncsBefore second first) = true := by
  cases first <;> cases second <;> simp [syncsBefore]
  omega

theorem syncsBefore_trans {first second third : Option Int} (one : syncsBefore first second = true)
    (two : syncsBefore second third = true) : syncsBefore first third = true := by
  cases first with
  | none => rfl
  | some a =>
      cases second with
      | none => cases one
      | some b =>
          cases third with
          | none => cases two
          | some c =>
              simp only [syncsBefore, decide_eq_true_eq] at one two ⊢
              omega

instance : Std.Total fun first second : SyncRow => inQueueOrder first second = true :=
  ⟨fun _ _ => Bool.or_eq_true_iff.mp (syncsBefore_total _ _)⟩

instance : IsTrans SyncRow fun first second => inQueueOrder first second = true :=
  ⟨fun _ _ _ => syncsBefore_trans⟩

/-- A due company is in the list, or twenty others that do not come after it are. -/
theorem listTenants_waits {order : List SyncRow} (stored : order.Perm w.rows) (waits : Waits x key w)
    (due : key.all (· ≤ now) = true) :
    x ∈ (listTenants order now).map SyncRow.id ∨
      (listTenants order now).length = 20 ∧ ∀ row ∈ listTenants order now, later key row.stripeNextSyncAt = false := by
  obtain ⟨waiting, mem, named, managed, _, keyed⟩ := waits
  have candidate : waiting ∈ order.filter fun row => row.managed && row.due now := by
    refine List.mem_filter.mpr ⟨stored.mem_iff.mpr mem, ?_⟩
    rw [managed, SyncRow.due, keyed, due]
    rfl
  have sorted := List.pairwise_insertionSort (inQueueOrder · ·) (order.filter fun row => row.managed && row.due now)
  rw [← List.mem_insertionSort (inQueueOrder · ·)] at candidate
  unfold listTenants
  generalize (order.filter fun row => row.managed && row.due now).insertionSort (inQueueOrder · ·) = queue
    at sorted candidate ⊢
  rw [← List.take_append_drop 20 queue] at sorted candidate
  rcases List.mem_append.mp candidate with listed | behind
  · exact .inl (List.mem_map.mpr ⟨waiting, listed, named⟩)
  · refine .inr ⟨?_, fun row listed => ?_⟩
    · have long := List.length_pos_of_mem behind
      rw [List.length_drop] at long
      rw [List.length_take]
      omega
    · have before : syncsBefore row.stripeNextSyncAt waiting.stripeNextSyncAt = true :=
        (List.pairwise_append.mp sorted).2.2 row listed waiting behind
      rw [keyed] at before
      rw [later, before]
      rfl

theorem listTenants_ids {order : List SyncRow} (stored : order.Perm w.rows) (distinct : w.ids.Nodup) :
    ((listTenants order now).map SyncRow.id).Nodup ∧ ∀ row ∈ listTenants order now, row ∈ w.rows := by
  have unique : (order.map SyncRow.id).Nodup := (stored.map SyncRow.id).nodup_iff.mpr distinct
  have part : List.Sublist (listTenants order now)
      ((order.filter fun row => row.managed && row.due now).insertionSort (inQueueOrder · ·)) := List.take_sublist _ _
  have same := List.perm_insertionSort (inQueueOrder · ·) (order.filter fun row => row.managed && row.due now)
  constructor
  · refine (part.map SyncRow.id).nodup ((same.map SyncRow.id).nodup_iff.mpr ?_)
    exact (List.filter_sublist.map SyncRow.id).nodup unique
  · intro row listed
    exact stored.mem_iff.mp (List.mem_of_mem_filter (same.mem_iff.mp (part.subset listed)))

/-! ### One pass

A pass takes the first twenty that are due. If the waiting company were among them, its claim would end the waiting;
so there are twenty others that do not come after it, and each of them is out of the way once it is claimed, whoever
claims it and however its reconciliation ends. -/

/-- The condition of the theorem on one action: a claim is written before the instant that it sets, and the company
waits on. -/
def Allowed (x : Nat) (key : Option Int) (_ : Nat) (choice : WorkerChoice) (act : WorkerAct) (w : SyncWorld) : Prop :=
  (∀ id now next, act = .claim id now next → w.now < next) ∧
    ∀ answer w', workerExec choice act w = some (answer, w') → Waits x key w'

def DriftAllowed (x : Nat) (key : Option Int) (change : SyncDrift) (w : SyncWorld) : Prop :=
  ∀ w', syncDrift change w = some w' → Waits x key w'

/-- The workers, as far as the company waits. -/
noncomputable abbrev waitingMachine (syncInterval : Int) (x : Nat) (key : Option Int) :=
  (workerMachine syncInterval).restrict (Allowed x key)

/-- A pass that starts after the others leaves twenty more companies out of the way when it completes. -/
def fairness (syncInterval : Int) (x : Nat) (key : Option Int) (before : Finset Nat) (others : Nat) :
    Contract (waitingMachine syncInterval x key) where
  rely _ w w' := Advances key w w'
  inv w := w.ids.Nodup ∧ Waits x key w ∧ before ⊆ passed key w
  needs _ _ _ := True
  ends run out w := others ≤ run → out = .ok () → x ∈ passed key w ∨ before.card + 20 ≤ (passed key w).card

variable {before : Finset Nat} {others run : Nat}

theorem later_of_not_due {row : SyncRow} (due : key.all (· ≤ now) = true) (undue : row.due now = false) :
    later key row.stripeNextSyncAt = true := by
  unfold SyncRow.due at undue
  cases stored : row.stripeNextSyncAt with
  | none =>
      rw [stored] at undue
      cases undue
  | some instant =>
      cases key with
      | none => rfl
      | some waiting =>
          simp only [stored, Option.all_some, decide_eq_false_iff_not, decide_eq_true_eq] at undue due
          simp only [later, syncsBefore, Bool.not_eq_true', decide_eq_false_iff_not]
          omega

/-- After its claim a tenant is out of the way, whoever has claimed it. -/
theorem claim_passes {id : Nat} {next : Int} (due : key.all (· ≤ now) = true) (waits : Waits x key w)
    (prompt : w.now < next) (stored : id ∈ w.ids) : id ∈ passed key (w.claim id now next).2 := by
  unfold SyncWorld.claim
  split
  · rename_i matched
    obtain ⟨row, mem, selected⟩ := List.any_eq_true.mp matched
    simp only [Bool.and_eq_true, decide_eq_true_eq] at selected
    refine mem_passed.mpr ⟨_, List.mem_map.mpr ⟨row, mem, rfl⟩, ?_⟩
    simp only [selected.1, selected.2, if_true]
    exact ⟨trivial, waits.later prompt⟩
  · rename_i unmatched
    obtain ⟨row, mem, named⟩ := List.mem_map.mp stored
    refine mem_passed.mpr ⟨row, mem, named, later_of_not_due due ?_⟩
    cases undue : row.due now with
    | false => rfl
    | true => exact absurd (List.any_eq_true.mpr ⟨row, mem, by simp [named, undue]⟩) unmatched

/-- What a part of a pass leaves behind: at its end every tenant of the part has passed the key, and where the pass
breaks off, nobody has fallen back behind it. -/
def Clears (key : Option Int) (tenants : List SyncRow) (w : SyncWorld) :
    Except WorkerFailure Unit → SyncWorld → Prop :=
  Ends (fun _ w' => Advances key w w' ∧ ∀ tenant ∈ tenants, tenant.id ∈ passed key w') fun _ w' => Advances key w w'

/-- Every action moves the queue on. -/
theorem advances_of_restricted {choice : WorkerChoice} {act : WorkerAct} {answer : act.Res}
    (inv : (fairness syncInterval x key before others).inv w)
    (executed : (waitingMachine syncInterval x key).exec run choice act w = some (answer, w')) :
    Advances key w w' := by
  obtain ⟨allowed, done⟩ := Machine.restrict_exec.mp executed
  exact advances_exec inv.2.1 allowed.1 done

theorem meets_reconcileTenant (tenant : SyncRow) :
    (fairness syncInterval x key before others).Meets run (Clears key [] w) (reconcileTenant tenant).run w := by
  intro w₁ relied inv
  refine ⟨trivial, fun choice answer w₂ executed => ?_⟩
  have moved := relied.trans (advances_of_restricted inv executed)
  cases answer with
  | ok done => exact ⟨moved, fun _ none => by cases none⟩
  | error failure =>
      intro w₃ relied inv
      refine ⟨trivial, fun choice answer w₄ executed => ?_⟩
      have further := moved.trans (relied.trans (advances_of_restricted inv executed))
      cases answer with
      | ok done => exact ⟨further, fun _ none => by cases none⟩
      | error failure => exact further

theorem meets_syncTenants (due : key.all (· ≤ now) = true) (tenants : List SyncRow) :
    ∀ w : SyncWorld, (∀ tenant ∈ tenants, tenant.id ∈ w.ids) →
      (fairness syncInterval x key before others).Meets run (Clears key tenants w)
        (syncTenants syncInterval now tenants).run w := by
  induction tenants with
  | nil =>
      intro w _
      exact ⟨.refl, fun _ none => by cases none⟩
  | cons tenant rest ih =>
      intro w stored w₁ relied inv
      refine ⟨trivial, fun choice instant w₂ read w₃ waited inv₃ => ⟨trivial, fun choice answer w₄ executed => ?_⟩⟩
      have moved := relied.trans ((advances_of_restricted inv read).trans waited)
      have further := moved.trans (advances_of_restricted inv₃ executed)
      cases answer with
      | error failure => exact further
      | ok matchedCount =>
          obtain ⟨allowed, done⟩ := Machine.restrict_exec.mp executed
          have known : tenant.id ∈ w₃.ids := moved.ids (stored tenant List.mem_cons_self)
          have out : tenant.id ∈ passed key w₄ := by
            rcases written_world (Option.some.inj done) with ⟨_, rfl⟩ | ⟨failed, _⟩
            · exact claim_passes due inv₃.2.1 (allowed.1 _ _ _ rfl) known
            · cases failed
          have continues : ∀ w₅, Advances key w₄ w₅ → (fairness syncInterval x key before others).Meets run
              (Clears key (tenant :: rest) w) (syncTenants syncInterval now rest).run w₅ := by
            intro w₅ onward
            have reached := further.trans onward
            refine (ih w₅ fun later mem => reached.ids (stored later (List.mem_cons_of_mem _ mem))).mono ?_
            intro outcome w₆ ended
            cases outcome with
            | error failure => exact reached.trans ended
            | ok done =>
                refine ⟨reached.trans ended.1, fun other mem => ?_⟩
                rcases List.mem_cons.mp mem with rfl | later
                · exact ended.1.passed (onward.passed out)
                · exact ended.2 other later
          change (fairness syncInterval x key before others).Meets run _
            (ExceptT.run (if matchedCount ≠ 0 then _ else _)) w₄
          by_cases claimed : matchedCount ≠ 0
          · rw [if_pos claimed]
            have reconciles : (fairness syncInterval x key before others).Meets run
                (Ends (fun _ => Advances key w₄) fun _ => Advances key w) (reconcileTenant tenant).run w₄ := by
              refine (meets_reconcileTenant tenant).mono fun outcome w₅ ended => ?_
              cases outcome with
              | ok done => exact ended.1
              | error failure => exact further.trans ended
            exact Contract.meets_bind reconciles fun _ w₅ reconciled => continues w₅ reconciled
          · rw [if_neg claimed]
            exact continues w₄ .refl

theorem due_of_waits (waits : Waits x key w) : key.all (· ≤ w.now) = true := by
  obtain ⟨row, _, _, _, due, rfl⟩ := waits
  exact due

/-- What a whole pass achieves. -/
theorem meets_runWorker (w : SyncWorld) :
    (fairness syncInterval x key before others).Meets run ((fairness syncInterval x key before others).ends run)
      (runWorker syncInterval) w := by
  intro w₁ _ inv₁
  refine ⟨trivial, fun choice now w₂ read w₃ _ inv₃ => ⟨trivial, fun choice answer w₄ found => ?_⟩⟩
  have due : key.all (· ≤ now) = true := by
    obtain ⟨_, done⟩ := Machine.restrict_exec.mp read
    cases done
    exact due_of_waits inv₁.2.1
  obtain ⟨_, done⟩ := Machine.restrict_exec.mp found
  simp only [workerMachine, workerExec] at done
  split at done
  · cases done
    intro _ failed
    cases failed
  · split at done
    · rename_i permuted
      cases done
      have stored : choice.order.Perm w₃.rows := List.isPerm_iff.mp permuted
      obtain ⟨distinct, listed⟩ := @listTenants_ids w₃ now choice.order stored inv₃.1
      have known : ∀ tenant ∈ listTenants choice.order now, tenant.id ∈ w₃.ids := fun tenant mem =>
        List.mem_map.mpr ⟨tenant, listed tenant mem, rfl⟩
      refine (meets_syncTenants due _ w₃ known).mono fun outcome w₅ ended _ completed => ?_
      subst completed
      rcases listTenants_waits stored inv₃.2.1 due with waiting | ⟨twenty, ahead⟩
      · obtain ⟨tenant, mem, rfl⟩ := List.mem_map.mp waiting
        exact .inl (ended.2 tenant mem)
      · refine .inr ?_
        have apart : Disjoint before ((listTenants choice.order now).map SyncRow.id).toFinset := by
          rw [Finset.disjoint_right]
          intro id mem out
          obtain ⟨tenant, there, rfl⟩ := List.mem_map.mp (List.mem_toFinset.mp mem)
          obtain ⟨row, same, named, after⟩ := mem_passed.mp (inv₃.2.2 out)
          cases List.inj_on_of_nodup_map inv₃.1 same (listed tenant there) named
          rw [ahead tenant there] at after
          cases after
        have twentyIds : ((listTenants choice.order now).map SyncRow.id).toFinset.card = 20 := by
          rw [List.toFinset_card_of_nodup distinct, List.length_map, twenty]
        rw [← twentyIds, ← Finset.card_union_of_disjoint apart]
        refine Finset.card_le_card (Finset.union_subset (fun id out => ?_) fun id mem => ?_)
        · exact ended.1.passed (inv₃.2.2 out)
        · obtain ⟨tenant, there, rfl⟩ := List.mem_map.mp (List.mem_toFinset.mp mem)
          exact ended.2 tenant there
    · cases done

theorem fairness_sound : (fairness syncInterval x key before others).Sound (Allowed x key) (DriftAllowed x key) where
  refl _ _ := .refl
  trans := .trans
  step inv _ _ executed _ _ := advances_of_restricted inv executed
  keeps inv _ allowed executed := by
    have moved := advances_of_restricted inv executed
    obtain ⟨_, done⟩ := Machine.restrict_exec.mp executed
    exact ⟨ids_exec done ▸ inv.1, allowed.2 _ _ done, inv.2.2.trans moved.passed⟩
  drift _ _ drifted _ := advances_drift drifted
  driftKeeps inv allowed drifted :=
    ⟨nodup_drift inv.1 drifted, allowed _ drifted, inv.2.2.trans (advances_drift drifted).passed⟩
  handler _ _ w := meets_runWorker w
  ended ends onward later completed := by
    rcases ends later completed with out | more
    · exact .inl (onward.passed out)
    · exact .inr (more.trans (Finset.card_le_card onward.passed))

/-! ### Passes one after the other

Each completed pass that started after the one before has left twenty more companies out of the way than there were
when it began. The waiting company is never one of them, so the passes are bounded by the number of companies. -/

/-- Nothing that happens ends the company's waiting, and no claim is late. -/
abbrev Waiting (syncInterval : Int) (x : Nat) (key : Option Int) :=
  (workerMachine syncInterval).Run (Contract.Permits (Allowed x key) (DriftAllowed x key))

/-- While the company waits, passes complete one after the other, each begun after the one before has ended; any number
of others run at the same time. -/
inductive WaitsThrough (syncInterval : Int) (x : Nat) (key : Option Int) :
    Nat → System WorkerAct WorkerAct.Res SyncWorld (Except WorkerFailure Unit) →
      System WorkerAct WorkerAct.Res SyncWorld (Except WorkerFailure Unit) → Prop where
  | idle {s s'} {events} (waiting : Waiting syncInterval x key s events s') : WaitsThrough syncInterval x key 0 s s'
  | pass {passes : Nat} {s s₁ s₂ s' s₃} {events rest} (earlier : WaitsThrough syncInterval x key passes s s₁)
      (begins : (workerMachine syncInterval).apply s₁ (.arrive ()) = some s₂)
      (waiting : Waiting syncInterval x key s₂ events s₃)
      (completed : s₃.runs[s₁.runs.length]? = some (.done (.ok ())))
      (after : Waiting syncInterval x key s₃ rest s') : WaitsThrough syncInterval x key (passes + 1) s s'

theorem meets_others {C : Contract (waitingMachine syncInterval x key)} {post : Except WorkerFailure Unit → SyncWorld → Prop}
    (needs : ∀ act w, C.needs run act w) (ends : ∀ out w, post out w) :
    ∀ (process : Process WorkerAct WorkerAct.Res (Except WorkerFailure Unit)) (w : SyncWorld), C.Meets run post process w
  | .done out, w => ends out w
  | .await act _, _ => fun w₁ _ _ => ⟨needs act w₁, fun _ _ w₂ _ => meets_others needs ends _ w₂⟩

/-- While the company waits, every pass that has begun since `others` runs were there meets the contract. -/
theorem allMeet_of_waiting {s s' : System WorkerAct WorkerAct.Res SyncWorld (Except WorkerFailure Unit)}
    {events : List (Event WorkerChoice SyncDrift Unit)} (waiting : Waiting syncInterval x key s events s')
    (all : Contract.AllMeet (fairness syncInterval x key before others) s) :
    Contract.AllMeet (fairness syncInterval x key before others) s' :=
  (fairness_sound.invariant (fun _ => True) (fun _ _ _ _ _ _ _ _ _ _ _ => trivial) (fun _ _ _ _ _ _ _ => trivial)
    waiting.restrict all trivial).1

theorem allMeet_start {s : System WorkerAct WorkerAct.Res SyncWorld (Except WorkerFailure Unit)}
    (distinct : s.world.ids.Nodup) (waits : Waits x key s.world) :
    Contract.AllMeet (fairness syncInterval x key (passed key s.world) s.runs.length) s where
  inv := ⟨distinct, waits, fun _ out => out⟩
  meets run process present := by
    obtain ⟨inside, _⟩ := List.getElem?_eq_some_iff.mp present
    exact meets_others (fun _ _ => trivial) (fun _ _ later => absurd later (Nat.not_le_of_lt inside)) process s.world

/-- The waiting company itself is not out of the way. -/
theorem not_mem_passed (distinct : w.ids.Nodup) (waits : Waits x key w) : x ∉ passed key w := by
  intro out
  obtain ⟨waiting, mem, rfl, _, _, rfl⟩ := waits
  obtain ⟨row, there, named, after⟩ := mem_passed.mp out
  cases List.inj_on_of_nodup_map distinct there mem named
  have same := syncsBefore_total waiting.stripeNextSyncAt waiting.stripeNextSyncAt
  rw [Bool.or_self] at same
  rw [later, same] at after
  cases after

theorem waitsThrough_passed {passes : Nat} {s s' : System WorkerAct WorkerAct.Res SyncWorld (Except WorkerFailure Unit)}
    (through : WaitsThrough syncInterval x key passes s s') (distinct : s.world.ids.Nodup)
    (waits : Waits x key s.world) :
    s'.world.ids.Nodup ∧ Waits x key s'.world ∧ 20 * passes ≤ (passed key s'.world).card := by
  induction through with
  | idle waiting =>
      have ended := allMeet_of_waiting waiting (allMeet_start distinct waits)
      exact ⟨ended.inv.1, ended.inv.2.1, by omega⟩
  | @pass passes s s₁ s₂ s' s₃ events rest earlier begins waiting completed after ih =>
      obtain ⟨distinct, waits, counted⟩ := ih distinct waits
      obtain ⟨begun, same⟩ := Machine.apply_arrive begins
      have start : Contract.AllMeet (fairness syncInterval x key (passed key s₁.world) s₁.runs.length) s₂ := by
        have permitted : Contract.Permits (Allowed x key) (DriftAllowed x key) s₁
          (.arrive () : Event WorkerChoice SyncDrift Unit) := trivial
        exact fairness_sound.allMeet_apply (allMeet_start distinct waits) permitted
          ((Machine.restrict_apply permitted).trans begins)
      have ended := allMeet_of_waiting waiting start
      have later := allMeet_of_waiting after (allMeet_start ended.inv.1 ended.inv.2.1)
      refine ⟨later.inv.1, later.inv.2.1, ?_⟩
      have grown := Finset.card_le_card later.inv.2.2
      rcases ended.meets _ _ completed (le_refl _) rfl with out | more
      · exact absurd out (not_mem_passed ended.inv.1 ended.inv.2.1)
      · omega

/-- However many processes run the worker and whatever becomes of the reconciliations, a due company waits for fewer
undisturbed passes than there are companies divided by twenty. -/
theorem sync_fairness {passes : Nat} {s s' : System WorkerAct WorkerAct.Res SyncWorld (Except WorkerFailure Unit)}
    (distinct : s.world.ids.Nodup) (waits : Waits x key s.world)
    (through : WaitsThrough syncInterval x key passes s s') : 20 * passes < s'.world.rows.length := by
  obtain ⟨distinct, waits, counted⟩ := waitsThrough_passed through distinct waits
  have others : insert x (passed key s'.world) ⊆ s'.world.ids.toFinset := by
    refine Finset.insert_subset ?_ fun id out => ?_
    · obtain ⟨row, mem, named, _⟩ := waits
      exact List.mem_toFinset.mpr (List.mem_map.mpr ⟨row, mem, named⟩)
    · obtain ⟨row, mem, named, _⟩ := mem_passed.mp out
      exact List.mem_toFinset.mpr (List.mem_map.mpr ⟨row, mem, named⟩)
  have bounded := Finset.card_le_card others
  rw [Finset.card_insert_of_notMem (not_mem_passed distinct waits), List.toFinset_card_of_nodup distinct,
    SyncWorld.ids, List.length_map] at bounded
  omega

/-! Twenty-one due companies: the last one waits through one pass. -/

instance : Decidable (Waits x key w) :=
  inferInstanceAs (Decidable (∃ row ∈ w.rows,
    row.id = x ∧ row.managed = true ∧ row.due w.now = true ∧ row.stripeNextSyncAt = key))

/-- The condition on one action, as it is computed. -/
def allowed (x : Nat) (key : Option Int) (choice : WorkerChoice) (act : WorkerAct) (w : SyncWorld) : Bool :=
  (match act with
    | .claim _ _ next => w.now < next
    | _ => true) && (workerExec choice act w).all fun done => Waits x key done.2

theorem all_waits {α : Type} {results : Option (α × SyncWorld)} :
    (results.all fun done => decide (Waits x key done.2)) = true ↔
      ∀ answer w', results = some (answer, w') → Waits x key w' := by
  rw [Option.all_eq_true]
  constructor
  · intro each answer w' found
    exact of_decide_eq_true (each (answer, w') found)
  · intro each done found
    exact decide_eq_true (each done.1 done.2 found)

theorem allowed_iff {choice : WorkerChoice} {act : WorkerAct} :
    allowed x key choice act w = true ↔ Allowed x key run choice act w := by
  unfold allowed Allowed
  rw [Bool.and_eq_true, all_waits]
  refine and_congr_left fun _ => ?_
  cases act with
  | claim id now next =>
      constructor
      · intro prompt _ _ _ same
        cases same
        exact of_decide_eq_true prompt
      · intro prompt
        exact decide_eq_true (prompt id now next rfl)
  | date | find | reconcileCompany | markRetry =>
      constructor
      · intro _ _ _ _ same
        cases same
      · intro _
        rfl

instance (choice : WorkerChoice) (act : WorkerAct) : Decidable (Allowed x key run choice act w) :=
  decidable_of_iff _ allowed_iff

instance (change : SyncDrift) : Decidable (DriftAllowed x key change w) :=
  decidable_of_iff ((syncDrift change w).all fun w' => Waits x key w') (by simp [DriftAllowed, Option.all_eq_true])

def queuedRow (n : Nat) : SyncRow := ⟨n, n, true, false, some n, .none⟩

def queuedRows : List SyncRow := (List.range 21).map queuedRow

def queued : System WorkerAct WorkerAct.Res SyncWorld (Except WorkerFailure Unit) := ⟨⟨30, queuedRows⟩, []⟩

def begun : System WorkerAct WorkerAct.Res SyncWorld (Except WorkerFailure Unit) := ⟨⟨30, queuedRows⟩, [runWorker 60]⟩

/-- The first pass, in which every call succeeds. -/
def firstPass : List (Event WorkerChoice SyncDrift Unit) :=
  .step 0 {} :: .step 0 { order := queuedRows } :: List.replicate 60 (.step 0 {})

theorem sync_fairness_first : ∃ s', WaitsThrough 60 20 (some 20) 1 queued s' ∧ 20 * 1 < s'.world.rows.length := by
  have played : (((workerMachine 60).playIf (Contract.Permits (Allowed 20 (some 20)) (DriftAllowed 20 (some 20)))
      firstPass begun).any fun s => (s.runs[0]?.bind Process.returned) = some (.ok ())) = true := by decide +kernel
  obtain ⟨s', plays, returned⟩ := (Option.any_eq_true _ _).mp played
  obtain ⟨process, present, ended⟩ := Option.bind_eq_some_iff.mp (of_decide_eq_true returned)
  rw [Process.returned_eq_some] at ended
  subst ended
  have through : WaitsThrough 60 20 (some 20) 1 queued s' :=
    .pass (.idle (.nil _)) rfl (Machine.run_of_playIf plays) present (.nil _)
  exact ⟨s', through, sync_fairness (by decide +kernel) (by decide +kernel) through⟩

end DataVault.Payments
