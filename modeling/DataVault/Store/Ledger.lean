/-
Module: DataVault.Store.Ledger
Layer: Library
Purpose: Rows that are upserted by a key, and sums over a log of entries. The two meet in bookkeeping: a row
  that accumulates amounts shows the sum of the entries of its key. The module fixes no row and no entry.
Imports: Mathlib.Algebra.GroupWithZero.Nat, Mathlib.Data.List.Basic, Mathlib.Tactic.Common
Trusted boundary: none
Main exports: upsert, find_upsert_self, find_upsert_other, nodup_upsert, tally, tally_cons, tally_le, dvd_tally
-/
import Mathlib.Algebra.GroupWithZero.Nat
import Mathlib.Data.List.Basic
import Mathlib.Tactic.Common

namespace DataVault.Store

variable {α κ : Type} [DecidableEq κ]

/-! ### Rows by key -/

/-- Stores a row in place of the one with its key. -/
def upsert (key : α → κ) (row : α) (rows : List α) : List α :=
  row :: rows.filter fun old => key old ≠ key row

section Upsert

variable {key : α → κ} {row : α} {rows : List α}

theorem find_upsert_self : (upsert key row rows).find? (fun old => key old = key row) = some row := by
  simp [upsert]

/-- The rows under the other keys stay. -/
theorem find_upsert_other {k : κ} (other : k ≠ key row) :
    (upsert key row rows).find? (fun old => key old = k) = rows.find? fun old => key old = k := by
  rw [upsert, List.find?_cons_of_neg (by simpa using Ne.symm other), List.find?_filter]
  congr 1
  funext old
  by_cases same : key old = k
  · simp [same, other]
  · simp [same]

/-- One row a key. -/
theorem nodup_upsert (unique : (rows.map key).Nodup) : ((upsert key row rows).map key).Nodup := by
  rw [upsert, List.map_cons, List.nodup_cons]
  constructor
  · simp
  · exact unique.sublist (List.filter_sublist.map key)

/-- A row is the one that is found under its key. -/
theorem find_of_mem (unique : (rows.map key).Nodup) (mem : row ∈ rows) :
    rows.find? (fun old => key old = key row) = some row := by
  induction rows with
  | nil => cases mem
  | cons head rest ih =>
      obtain ⟨fresh, unique⟩ := List.nodup_cons.mp unique
      rcases List.mem_cons.mp mem with rfl | mem
      · simp
      · have other : key head ≠ key row := fun same => fresh (same ▸ List.mem_map_of_mem mem)
        rw [List.find?_cons_of_neg (by simpa using other)]
        exact ih unique mem

end Upsert

/-! ### Sums over a log -/

/-- The sum of an amount over the entries that match. -/
def tally (matching : α → Bool) (amount : α → Nat) (entries : List α) : Nat :=
  ((entries.filter matching).map amount).sum

section Tally

variable {matching : α → Bool} {amount : α → Nat} {entries : List α}

@[simp] theorem tally_nil : tally matching amount [] = 0 := rfl

@[simp] theorem tally_cons (entry : α) :
    tally matching amount (entry :: entries) =
      (if matching entry then amount entry else 0) + tally matching amount entries := by
  unfold tally
  by_cases matches_entry : matching entry
  · simp [matches_entry]
  · simp [matches_entry]

/-- An amount that is bounded entry by entry is bounded in sum. -/
theorem tally_le {bound : α → Nat} (bounded : ∀ entry ∈ entries, amount entry ≤ bound entry) :
    tally matching amount entries ≤ tally matching bound entries := by
  induction entries with
  | nil => exact Nat.le_refl _
  | cons entry rest ih =>
      have rest_le := ih fun other mem => bounded other (List.mem_cons_of_mem _ mem)
      have entry_le := bounded entry (List.mem_cons_self ..)
      rw [tally_cons, tally_cons]
      split
      · exact Nat.add_le_add entry_le rest_le
      · exact Nat.add_le_add_left rest_le 0

/-- A unit that divides every amount divides the sum. -/
theorem dvd_tally {unit : Nat} (divides : ∀ entry ∈ entries, unit ∣ amount entry) :
    unit ∣ tally matching amount entries := by
  induction entries with
  | nil => exact Nat.dvd_zero unit
  | cons entry rest ih =>
      have rest_divided := ih fun other mem => divides other (List.mem_cons_of_mem _ mem)
      have entry_divided := divides entry (List.mem_cons_self ..)
      rw [tally_cons]
      split
      · exact Nat.dvd_add entry_divided rest_divided
      · exact Nat.dvd_add (Nat.dvd_zero unit) rest_divided

theorem tally_mul (factor : Nat) :
    tally matching (fun entry => factor * amount entry) entries = factor * tally matching amount entries := by
  induction entries with
  | nil => simp
  | cons entry rest ih =>
      rw [tally_cons, tally_cons, ih, Nat.mul_add]
      split <;> simp

end Tally

end DataVault.Store
