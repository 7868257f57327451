/-
Module: DataVault.Store.History
Layer: Library
Purpose: Histories of a record, newest state first, and values that stay with a key: once a state has shown a
  value under a key, every later state with that key shows it. The module fixes no record.
Imports: Mathlib.Data.List.Pairwise
Trusted boundary: none
Main exports: Persists, Persists.cons, Persists.cons_keyed, Persists.unique
-/
import Mathlib.Data.List.Pairwise

namespace DataVault.Store

variable {α κ β : Type}

/-- A state with the key of an older state still shows the value that the older one showed. -/
def Persists (key : α → Option κ) (value : α → Option β) (history : List α) : Prop :=
  history.Pairwise fun newer older =>
    ∀ k, key older = some k → key newer = some k → ∀ v, value older = some v → value newer = some v

namespace Persists

variable {key : α → Option κ} {value : α → Option β} {new head : α} {rest : List α}

theorem singleton (only : α) : Persists key value [only] := List.pairwise_singleton ..

/-- A new state either has a key that no earlier state had, or it takes over key and value of the newest
one. -/
theorem cons (persists : Persists key value (head :: rest))
    (next : ∀ k, key new = some k →
      (key head = some k ∧ ∀ v, value head = some v → value new = some v) ∨
        ∀ old ∈ head :: rest, key old ≠ some k) :
    Persists key value (new :: head :: rest) := by
  refine List.pairwise_cons.mpr ⟨?_, persists⟩
  intro old mem k oldKey newKey v shown
  rcases next k newKey with ⟨headKey, kept⟩ | fresh
  · rcases List.mem_cons.mp mem with rfl | later
    · exact kept v shown
    · exact kept v ((List.pairwise_cons.mp persists).1 old later k oldKey headKey v shown)
  · exact absurd oldKey (fresh old mem)

/-- A new state that shows the newest one's key and value, or no key at all. -/
theorem cons_same (persists : Persists key value (head :: rest))
    (next : key new = none ∨ key new = key head ∧ ∀ v, value head = some v → value new = some v) :
    Persists key value (new :: head :: rest) := by
  refine persists.cons fun k newKey => ?_
  rcases next with gone | ⟨sameKey, kept⟩
  · rw [gone] at newKey
    cases newKey
  · exact .inl ⟨sameKey.symm.trans newKey, kept⟩

/-- Where every key that is not taken over is one that no earlier state had, only a value that is reset under
an old key can break the history. -/
theorem cons_keyed {fresh : κ} (persists : Persists key value (head :: rest))
    (unused : ∀ old ∈ head :: rest, key old ≠ some fresh)
    (keyed : key new = none ∨ key new = key head ∨ key new = some fresh)
    (kept : key new ≠ none → key new ≠ some fresh → ∀ v, value head = some v → value new = some v) :
    Persists key value (new :: head :: rest) := by
  rcases keyed with gone | same | new_key
  · exact persists.cons_same (.inl gone)
  · by_cases gone : key new = none
    · exact persists.cons_same (.inl gone)
    · refine persists.cons_same (.inr ⟨same, kept gone ?_⟩)
      rw [same]
      exact unused head (List.mem_cons_self ..)
  · refine persists.cons fun k newKey => .inr ?_
    cases new_key.symm.trans newKey
    exact unused

/-- One key has one value. -/
theorem unique {history : List α} (persists : Persists key value history) {first second : α}
    (mem : first ∈ history) (mem' : second ∈ history) {k : κ} (firstKey : key first = some k)
    (secondKey : key second = some k) {v v' : β} (shown : value first = some v)
    (shown' : value second = some v') : v = v' := by
  induction history with
  | nil => cases mem
  | cons newest rest ih =>
      obtain ⟨later, persists⟩ := List.pairwise_cons.mp persists
      rcases List.mem_cons.mp mem with first_newest | first_older
      · rcases List.mem_cons.mp mem' with second_newest | second_older
        · rw [first_newest] at shown
          rw [second_newest] at shown'
          exact Option.some.inj (shown.symm.trans shown')
        · rw [first_newest] at firstKey shown
          have kept := later second second_older k secondKey firstKey v' shown'
          exact Option.some.inj (shown.symm.trans kept)
      · rcases List.mem_cons.mp mem' with second_newest | second_older
        · rw [second_newest] at secondKey shown'
          have kept := later first first_older k firstKey secondKey v shown
          exact Option.some.inj (kept.symm.trans shown')
        · exact ih persists first_older second_older

end Persists

end DataVault.Store
