/-
Module: DataVault.Text.CheckDigit
Layer: Library
Purpose: Sums of symbols that are weighted by their place, as check digits are made of. A word in which one symbol was
  exchanged has another sum, if the weight at each place tells the symbols apart.
Imports: Mathlib.Algebra.BigOperators.Intervals
Trusted boundary: none
Main exports: weighted, OneChanged, weighted_eq_sum, map_weighted, weighted_changed
-/
import Mathlib.Algebra.BigOperators.Intervals

namespace DataVault.Text.CheckDigit

universe u v w

variable {Symbol : Type u} {Total : Type v}

/-- The sum of a word whose first symbol stands at `place`. -/
def weighted [AddCommMonoid Total] (weight : Nat → Symbol → Total) : Nat → List Symbol → Total
  | _, [] => 0
  | place, symbol :: rest => weight place symbol + weighted weight (place + 1) rest

theorem weighted_eq_sum [AddCommMonoid Total] (weight : Nat → Symbol → Total) (absent : Symbol) (word : List Symbol)
    (start : Nat) :
    weighted weight start word =
      ∑ place ∈ Finset.range word.length, weight (start + place) (word.getD place absent) := by
  induction word generalizing start with
  | nil => rfl
  | cons symbol rest ih =>
      rw [weighted, ih, List.length_cons, Finset.sum_range_succ', add_comm]
      congr 1
      apply Finset.sum_congr rfl
      intro place _
      rw [List.getD_cons_succ, add_assoc, add_comm 1 place]

theorem map_weighted {Other : Type w} [AddCommMonoid Total] [AddCommMonoid Other] (image : Total →+ Other)
    (weight : Nat → Symbol → Total) (start : Nat) (word : List Symbol) :
    weighted (fun place symbol => image (weight place symbol)) start word = image (weighted weight start word) := by
  induction word generalizing start with
  | nil => exact (map_zero image).symm
  | cons symbol rest ih => rw [weighted, weighted, ih, map_add]

/-- The words have one length and differ at one place. -/
def OneChanged (first second : List Symbol) : Prop :=
  first.length = second.length ∧
    ∃ place : Nat, first[place]? ≠ second[place]? ∧ ∀ other : Nat, other ≠ place → first[other]? = second[other]?

/-- One symbol was exchanged for another, and what is around it was kept. -/
theorem OneChanged.parts {first second : List Symbol} (changed : OneChanged first second) :
    ∃ before after old new, old ≠ new ∧ first = before ++ old :: after ∧ second = before ++ new :: after := by
  rcases changed with ⟨length, place, differ, kept⟩
  have inside : place < first.length := by
    by_contra outside
    apply differ
    rw [List.getElem?_eq_none (by omega), List.getElem?_eq_none (by omega)]
  have inside' : place < second.length := by omega
  have before : first.take place = second.take place := by
    apply List.ext_getElem?
    intro other
    rw [List.getElem?_take, List.getElem?_take]
    split
    case isTrue earlier => exact kept other (by omega)
    case isFalse => rfl
  have after : first.drop (place + 1) = second.drop (place + 1) := by
    apply List.ext_getElem?
    intro other
    rw [List.getElem?_drop, List.getElem?_drop]
    exact kept _ (by omega)
  have split (word : List Symbol) (there : place < word.length) :
      word = word.take place ++ word[place] :: word.drop (place + 1) := by
    rw [← List.drop_eq_getElem_cons there, List.take_append_drop]
  refine ⟨first.take place, first.drop (place + 1), first[place], second[place], ?_, split first inside, ?_⟩
  · intro same
    apply differ
    rw [List.getElem?_eq_getElem inside, List.getElem?_eq_getElem inside', same]
  · rw [before, after]
    exact split second inside'

theorem OneChanged.reverse {first second : List Symbol} (changed : OneChanged first second) :
    ∃ before after old new, old ≠ new ∧ first.reverse = before ++ old :: after ∧
      second.reverse = before ++ new :: after := by
  rcases changed.parts with ⟨before, after, old, new, differ, rfl, rfl⟩
  exact ⟨after.reverse, before.reverse, old, new, differ, by simp, by simp⟩

theorem weighted_append [AddCommMonoid Total] (weight : Nat → Symbol → Total) (before after : List Symbol)
    (start : Nat) :
    weighted weight start (before ++ after) =
      weighted weight start before + weighted weight (start + before.length) after := by
  induction before generalizing start with
  | nil => simp [weighted]
  | cons symbol rest ih =>
      rw [List.cons_append, weighted, weighted, ih, List.length_cons, add_assoc, add_assoc, add_comm 1]

/-- An exchange is seen in the sum, if the weight at its place tells the two symbols apart. -/
theorem weighted_changed [AddCommGroup Total] {weight : Nat → Symbol → Total} {before : List Symbol}
    (after : List Symbol) {old new : Symbol} {start : Nat}
    (apart : weight (start + before.length) old ≠ weight (start + before.length) new) :
    weighted weight start (before ++ old :: after) ≠ weighted weight start (before ++ new :: after) := by
  intro same
  apply apart
  rw [weighted_append, weighted_append, weighted, weighted] at same
  exact add_right_cancel (add_left_cancel same)

end DataVault.Text.CheckDigit
