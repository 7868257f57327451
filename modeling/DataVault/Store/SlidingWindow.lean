/-
Module: DataVault.Store.SlidingWindow
Layer: Library
Purpose: A limit on how many of the instants of a growing list lie in any window of a given width. It suffices that
  each new instant is compared with those that lie at most one width before it when it is added; the clock that is
  read for the comparison may run behind the one that stamps the instant, and the list need not be in order.
Imports: Mathlib.Data.List.Basic
Trusted boundary: none
Main exports: Limited, Limited.nil, Limited.append
-/
import Mathlib.Data.List.Basic
import Mathlib.Tactic.Common

namespace DataVault.Store

/-- The instants of a window, both ends included. -/
def inWindow (width start instant : Int) : Bool := start ≤ instant && instant ≤ start + width

/-- No window holds more than `limit` of the instants. -/
def Limited (width : Int) (limit : Nat) (instants : List Int) : Prop :=
  ∀ start, instants.countP (inWindow width start) ≤ limit

theorem Limited.nil (width : Int) (limit : Nat) : Limited width limit [] :=
  fun _ => Nat.zero_le limit

/-- A window that holds the new instant reaches back no further than the comparison did. -/
theorem Limited.append {width : Int} {limit : Nat} {instants : List Int} (limited : Limited width limit instants)
    {now added : Int} (few : instants.countP (fun instant => now - width ≤ instant) < limit) (late : now ≤ added) :
    Limited width limit (instants ++ [added]) := by
  intro start
  rw [List.countP_append, List.countP_singleton]
  by_cases inside : inWindow width start added = true
  · have reaches : instants.countP (inWindow width start) ≤ instants.countP (fun instant => now - width ≤ instant) := by
      refine List.countP_mono_left fun instant _ counted => ?_
      simp only [inWindow, Bool.and_eq_true, decide_eq_true_eq] at counted inside ⊢
      omega
    rw [if_pos inside]
    omega
  · rw [if_neg inside]
    exact limited start

end DataVault.Store
