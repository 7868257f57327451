/-
Module: DataVault.Control.Fallible
Layer: Library
Purpose: Taking a fallible computation apart: what must have succeeded, and with what, when a sequence of
  `Except` steps has succeeded.
Imports: Mathlib.Tactic.Common
Trusted boundary: none
Main exports: bind_ok_iff, bind_error, bind_ne_error, require, require_ok_iff, require_ne_error, orFail, orFail_ok_iff,
  orFail_ne_error, mapM_ok, forM_ok_iff, foldlM_ok_induction, foldlM_ok_keeps,
  mapError_ok_iff
-/
import Mathlib.Tactic.Common

namespace DataVault.Control

variable {ε α β : Type}

theorem bind_ok_iff {first : Except ε α} {next : α → Except ε β} {result : β} :
    (first >>= next) = .ok result ↔ ∃ value, first = .ok value ∧ next value = .ok result := by
  cases first with
  | error failure =>
      constructor
      · intro succeeded
        cases succeeded
      · rintro ⟨_, failed, _⟩
        cases failed
  | ok value =>
      constructor
      · intro succeeded
        exact ⟨value, rfl, succeeded⟩
      · rintro ⟨_, same, succeeded⟩
        cases same
        exact succeeded

/-- A failure of the first part is the failure of the whole. -/
theorem bind_error {first : Except ε α} {next : α → Except ε β} {failure : ε} (failed : first = .error failure) :
    (first >>= next) = .error failure := by
  rw [failed]
  rfl

/-- A failure that neither part raises is not raised. -/
theorem bind_ne_error {first : Except ε α} {next : α → Except ε β} {failure : ε}
    (early : first ≠ .error failure) (late : ∀ value, first = .ok value → next value ≠ .error failure) :
    (first >>= next) ≠ .error failure := by
  cases first with
  | error other =>
      intro failed
      cases failed
      exact early rfl
  | ok value => exact late value rfl

/-- Fails unless a condition holds. -/
def require (condition : Bool) (failure : ε) : Except ε Unit :=
  if condition then .ok () else .error failure

@[simp] theorem require_ok_iff {condition : Bool} {failure : ε} {result : Unit} :
    require condition failure = .ok result ↔ condition = true := by
  cases condition <;> simp [require]

theorem require_ne_error {condition : Bool} {failure other : ε} (differs : failure ≠ other) :
    require condition failure ≠ .error other := by
  cases condition <;> simp [require, differs]

/-- Fails where there is no value. -/
def orFail (found : Option α) (failure : ε) : Except ε α :=
  match found with
  | none => .error failure
  | some value => .ok value

@[simp] theorem orFail_ok_iff {found : Option α} {failure : ε} {value : α} :
    orFail found failure = .ok value ↔ found = some value := by
  cases found <;> simp [orFail]

theorem orFail_ne_error {found : Option α} {failure other : ε} (differs : failure ≠ other) :
    orFail found failure ≠ .error other := by
  cases found <;> simp [orFail, differs]

theorem mapM_cons_ok_iff {step : α → Except ε β} {first : α} {rest : List α} {results : List β} :
    (first :: rest).mapM step = .ok results ↔
      ∃ result others, step first = .ok result ∧ rest.mapM step = .ok others ∧ results = result :: others := by
  rw [List.mapM_cons, bind_ok_iff]
  constructor
  · rintro ⟨result, here, there⟩
    obtain ⟨others, there, done⟩ := bind_ok_iff.mp there
    exact ⟨result, others, here, there, (Except.ok.inj done).symm⟩
  · rintro ⟨result, others, here, there, rfl⟩
    exact ⟨result, here, bind_ok_iff.mpr ⟨others, there, rfl⟩⟩

/-- A loop that only checks succeeds where every item passes. -/
theorem forM_ok_iff {step : α → Except ε Unit} {items : List α} :
    items.forM step = .ok () ↔ ∀ item ∈ items, step item = .ok () := by
  induction items with
  | nil => simp [pure, Except.pure]
  | cons first rest ih =>
      rw [List.forM, bind_ok_iff, List.forall_mem_cons, ← ih]
      constructor
      · rintro ⟨_, here, there⟩
        exact ⟨here, there⟩
      · rintro ⟨here, there⟩
        exact ⟨(), here, there⟩

/-- What holds of the items passed and the state after them holds at the end of a loop that has succeeded. -/
theorem foldlM_ok_induction {motive : List α → β → Prop} {step : β → α → Except ε β}
    (steps : ∀ done item before after, motive done before → step before item = .ok after →
      motive (done ++ [item]) after) :
    ∀ {items done : List α} {before after : β}, motive done before → items.foldlM step before = .ok after →
      motive (done ++ items) after
  | [], done, before, after, start, succeeded => by
      cases succeeded
      rw [List.append_nil]
      exact start
  | item :: rest, done, before, after, start, succeeded => by
      rw [List.foldlM_cons] at succeeded
      rcases bind_ok_iff.mp succeeded with ⟨between, here, there⟩
      have after := foldlM_ok_induction steps (steps done item before between start here) there
      rwa [List.append_assoc] at after

/-- What no item breaks holds at the end of a loop that has succeeded. -/
theorem foldlM_ok_keeps {P : β → Prop} {step : β → α → Except ε β} :
    ∀ {items : List α} {before after : β},
      (∀ item ∈ items, ∀ before after, P before → step before item = .ok after → P after) → P before →
      items.foldlM step before = .ok after → P after
  | [], before, after, _, start, succeeded => by
      cases succeeded
      exact start
  | item :: rest, before, after, keeps, start, succeeded => by
      rw [List.foldlM_cons] at succeeded
      rcases bind_ok_iff.mp succeeded with ⟨between, here, there⟩
      have middle := keeps item (.head _) before between start here
      exact foldlM_ok_keeps (fun other mem => keeps other (.tail _ mem)) middle there

theorem mapError_ok_iff {ε' : Type} {computed : Except ε α} {translate : ε → ε'} {value : α} :
    computed.mapError translate = .ok value ↔ computed = .ok value := by
  cases computed with
  | error failure =>
      constructor
      · intro succeeded
        cases succeeded
      · intro succeeded
        cases succeeded
  | ok other =>
      constructor
      · intro succeeded
        cases succeeded
        rfl
      · intro succeeded
        cases succeeded
        rfl

end DataVault.Control
