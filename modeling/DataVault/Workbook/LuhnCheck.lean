/-
Module: DataVault.Workbook.LuhnCheck
Layer: Proofs
Purpose: The check of card numbers is the Luhn check: its loop sums the digits by their places from the right, and no
  number that passes it passes it again with one digit changed.
Imports: DataVault.Text.CheckDigit, DataVault.Workbook.Detectors
Trusted boundary: human-reviewed spec
Main exports: LuhnCheck, luhn_eq_check, luhn_check
-/
import DataVault.Text.CheckDigit
import DataVault.Workbook.Detectors
import Mathlib.Data.ZMod.Basic

namespace DataVault.Workbook

open DataVault.Text.CheckDigit

/-! ### The check -/

def digitOf (c : Char) : Nat := c.toNat - 48

/-- What the digit at a place from the right adds: at every second place it is doubled, and the digits of its double
are added. -/
def luhnWeight (place digit : Nat) : Nat :=
  if place % 2 = 0 then digit else digit * 2 / 10 + digit * 2 % 10

/-- The digit at a place from the right, the last one at place zero. -/
def digitFromRight (value : List Char) (place : Nat) : Nat := digitOf (value.getD (value.length - 1 - place) '0')

/-- The Luhn check of a number of 13 to 19 digits that are not all the same. -/
structure LuhnCheck (value : List Char) : Prop where
  digits : ∀ c ∈ value, isDigit c
  length : 13 ≤ value.length ∧ value.length ≤ 19
  unequal : ∃ first ∈ value, ∃ second ∈ value, first ≠ second
  total : 10 ∣ ∑ place ∈ Finset.range value.length, luhnWeight place (digitFromRight value place)

/-! ### The loop -/

theorem digitOf_lt {c : Char} (digit : isDigit c = true) : digitOf c < 10 := by
  simp only [isDigit, Bool.and_eq_true, decide_eq_true_eq, Char.le_def, UInt32.le_iff_toNat_le] at digit
  have last : c.toNat ≤ 57 := digit.2
  unfold digitOf
  omega

/-- Where a digit is doubled, nine is taken off instead of adding the digits. -/
theorem luhnWeight_eq {digit : Nat} (small : digit < 10) (place : Nat) :
    (let value := if decide (place % 2 = 1) = true then digit * 2 else digit
     if value > 9 then value - 9 else value) = luhnWeight place digit := by
  unfold luhnWeight
  rcases Nat.mod_two_eq_zero_or_one place with even | odd
  · simp only [even]
    simp
    omega
  · simp only [odd]
    simp
    split <;> omega

/-- The loop's flag is set where the place is odd. -/
theorem luhnSum_eq_weighted {word : List Char} (digits : ∀ c ∈ word, isDigit c) (place : Nat) :
    luhnSum (place % 2 = 1) word = weighted (fun place c => luhnWeight place (digitOf c)) place word := by
  induction word generalizing place with
  | nil => rfl
  | cons c rest ih =>
      have small := digitOf_lt (digits c List.mem_cons_self)
      have tail := ih (fun other mem => digits other (List.mem_cons_of_mem _ mem)) (place + 1)
      have flag : (!decide (place % 2 = 1)) = decide ((place + 1) % 2 = 1) := by
        rcases Nat.mod_two_eq_zero_or_one place with even | odd
        · simp [even, Nat.add_mod]
        · simp [odd, Nat.add_mod]
      rw [luhnSum, weighted, flag, tail]
      congr 1
      exact luhnWeight_eq small place

theorem reverse_getD {value : List Char} {place : Nat} (inside : place < value.length) :
    digitOf (value.reverse.getD place '0') = digitFromRight value place := by
  unfold digitFromRight
  rw [List.getD_eq_getElem?_getD, List.getD_eq_getElem?_getD, List.getElem?_reverse inside]

theorem luhnSum_eq_sum {value : List Char} (digits : ∀ c ∈ value, isDigit c) :
    luhnSum false value.reverse =
      ∑ place ∈ Finset.range value.length, luhnWeight place (digitFromRight value place) := by
  have loop := luhnSum_eq_weighted (fun c mem => digits c (List.mem_reverse.mp mem)) 0
  rw [weighted_eq_sum _ '0', List.length_reverse] at loop
  refine loop.trans (Finset.sum_congr rfl ?_)
  intro place inside
  rw [Nat.zero_add, reverse_getD (Finset.mem_range.mp inside)]

/-- The expression `(\d)\1+` takes the texts whose characters are all like the first. -/
theorem unequal_iff {value : List Char} :
    value.all (fun c => some c = value.head?) = false ↔ ∃ first ∈ value, ∃ second ∈ value, first ≠ second := by
  cases value with
  | nil => simp
  | cons head rest =>
      rw [List.all_eq_false]
      constructor
      · rintro ⟨c, mem, other⟩
        exact ⟨c, mem, head, List.mem_cons_self, by simpa using other⟩
      · rintro ⟨first, mem, second, mem', differ⟩
        by_cases same : first = head
        · exact ⟨second, mem', by simpa [← same] using differ.symm⟩
        · exact ⟨first, mem, by simpa using same⟩

theorem luhn_eq_check (value : List Char) : luhn value = true ↔ LuhnCheck value := by
  unfold luhn
  simp only [Bool.and_eq_true, decide_eq_true_eq, Bool.not_eq_true', List.all_eq_true]
  constructor
  · rintro ⟨⟨⟨⟨digits, least⟩, most⟩, unequal⟩, total⟩
    constructor
    case digits => exact digits
    case length => exact ⟨least, most⟩
    case unequal => exact unequal_iff.mp unequal
    case total =>
      rw [← luhnSum_eq_sum digits]
      exact Nat.dvd_of_mod_eq_zero total
  · intro check
    have total := check.total
    rw [← luhnSum_eq_sum check.digits] at total
    exact ⟨⟨⟨⟨check.digits, check.length.1⟩, check.length.2⟩, unequal_iff.mpr check.unequal⟩,
      Nat.mod_eq_zero_of_dvd total⟩

/-! ### Detection of errors -/

/-- The weights of the check, by their remainders. -/
def luhnResidue (place : Nat) (c : Char) : ZMod 10 := luhnWeight place (digitOf c)

theorem luhnWeight_injective (place : Nat) {first second : Nat} (small : first < 10) (small' : second < 10)
    (same : (luhnWeight place first : ZMod 10) = luhnWeight place second) : first = second := by
  have even : ∀ first < 10, ∀ second < 10, (luhnWeight 0 first : ZMod 10) = luhnWeight 0 second → first = second := by
    decide
  have odd : ∀ first < 10, ∀ second < 10, (luhnWeight 1 first : ZMod 10) = luhnWeight 1 second → first = second := by
    decide
  rcases Nat.mod_two_eq_zero_or_one place with parity | parity
  · have weight (digit : Nat) : luhnWeight place digit = luhnWeight 0 digit := by simp [luhnWeight, parity]
    rw [weight, weight] at same
    exact even first small second small' same
  · have weight (digit : Nat) : luhnWeight place digit = luhnWeight 1 digit := by simp [luhnWeight, parity]
    rw [weight, weight] at same
    exact odd first small second small' same

theorem digitOf_injective {first second : Char} (digit : isDigit first = true) (digit' : isDigit second = true)
    (same : digitOf first = digitOf second) : first = second := by
  simp only [isDigit, Bool.and_eq_true, decide_eq_true_eq, Char.le_def, UInt32.le_iff_toNat_le] at digit digit'
  have least : 48 ≤ first.toNat := digit.1
  have least' : 48 ≤ second.toNat := digit'.1
  unfold digitOf at same
  exact Char.toNat_inj.mp (by omega)

/-- A number that passes has the remainder zero. -/
theorem residue_of_luhn {value : List Char} (passed : luhn value = true) :
    weighted luhnResidue 0 value.reverse = 0 := by
  have check := (luhn_eq_check value).mp passed
  have total := check.total
  rw [← luhnSum_eq_sum check.digits] at total
  have loop := luhnSum_eq_weighted (fun c mem => check.digits c (List.mem_reverse.mp mem)) 0
  have residue := map_weighted (Nat.castAddMonoidHom (ZMod 10)) (fun place c => luhnWeight place (digitOf c)) 0
    value.reverse
  rw [← loop] at residue
  exact residue.trans ((ZMod.natCast_eq_zero_iff _ _).mpr total)

theorem luhn_changed {first second : List Char} (passed : luhn first = true) (changed : OneChanged first second) :
    luhn second = false := by
  by_contra again
  have passed' : luhn second = true := by simpa using again
  have digits := ((luhn_eq_check first).mp passed).digits
  have digits' := ((luhn_eq_check second).mp passed').digits
  rcases changed.reverse with ⟨before, after, old, new, differ, one, two⟩
  have oldDigit : isDigit old = true := digits old (List.mem_reverse.mp (one ▸ by simp))
  have newDigit : isDigit new = true := digits' new (List.mem_reverse.mp (two ▸ by simp))
  have apart : luhnResidue (0 + before.length) old ≠ luhnResidue (0 + before.length) new := by
    intro same
    apply differ
    apply digitOf_injective oldDigit newDigit
    exact luhnWeight_injective _ (digitOf_lt oldDigit) (digitOf_lt newDigit) same
  have sums := weighted_changed after apart
  rw [← one, ← two, residue_of_luhn passed, residue_of_luhn passed'] at sums
  exact sums rfl

/-- `luhn` is the Luhn check, and it notices every change of one digit. The doubled digits 0 to 9 have ten different
contributions, so one changed digit changes the sum modulo ten. -/
theorem luhn_check (value : List Char) :
    (luhn value = true ↔ LuhnCheck value) ∧
      (luhn value = true → ∀ other, OneChanged value other → luhn other = false) := by
  constructor
  · exact luhn_eq_check value
  · intro passed other changed
    exact luhn_changed passed changed

/-- Two card numbers that differ in their last digit. -/
theorem luhn_check_last :
    luhn "4242424242424242".toList = true ∧ luhn "4242424242424243".toList = false := by
  have passed : luhn "4242424242424242".toList = true := by decide +kernel
  have changed : OneChanged "4242424242424242".toList "4242424242424243".toList := by
    constructor
    · decide
    · exists 15
      constructor
      · decide
      · intro other differ
        by_cases inside : other < 16
        · have all : ∀ other < 16, other ≠ 15 →
              "4242424242424242".toList[other]? = "4242424242424243".toList[other]? := by decide
          exact all other inside differ
        · rw [List.getElem?_eq_none (by simpa using inside), List.getElem?_eq_none (by simpa using inside)]
  exact ⟨passed, (luhn_check _).2 passed _ changed⟩

end DataVault.Workbook
