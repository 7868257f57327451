/-
Module: DataVault.Number.Double
Layer: Library
Purpose: Numbers of 64-bit floating point by their values: rounding to the nearest one, ties to even, and the operations
  that are exact on integers of at most 53 bits. A sum that is such an integer has not been rounded. The two zeros are
  one value.
Imports: Mathlib.Data.Int.Log, Mathlib.Data.Rat.Floor
Trusted boundary: human-reviewed spec
Main exports: Double, roundHalfEven, toDouble, Double.add, Double.mul, Double.round, Double.safeInteger,
  toDouble_safe, toDouble_nonneg
-/
import Mathlib.Data.Int.Log
import Mathlib.Data.Rat.Floor
import Mathlib.Tactic.Linarith
import Mathlib.Tactic.Positivity
import Mathlib.Tactic.Ring

namespace DataVault.Number

inductive Double where
  | nan
  | infinite (negative : Bool)
  | finite (value : ℚ)
deriving DecidableEq

/-! ### Rounding -/

/-- The exponent of the last of the 53 digits of a number; that of the smallest numbers is bounded. -/
def lastExponent (value : ℚ) : Int := max (Int.log 2 |value| - 52) (-1074)

/-- The nearest integer, the even one of two. -/
def roundHalfEven (value : ℚ) : Int :=
  if value - ⌊value⌋ < 1 / 2 then ⌊value⌋
  else if 1 / 2 < value - ⌊value⌋ then ⌊value⌋ + 1
  else if ⌊value⌋ % 2 = 0 then ⌊value⌋
  else ⌊value⌋ + 1

/-- A number in units of its last digit, rounded. -/
def roundDigits (value : ℚ) : ℚ :=
  roundHalfEven (value / 2 ^ lastExponent value) * 2 ^ lastExponent value

/-- The nearest number of 64 bits. -/
def toDouble (value : ℚ) : Double :=
  if 2 ^ 1024 ≤ |roundDigits value| then .infinite (roundDigits value < 0) else .finite (roundDigits value)

namespace Double

/-! ### Operations -/

/-- `left + right` -/
def add : Double → Double → Double
  | .finite left, .finite right => toDouble (left + right)
  | .nan, _ | _, .nan => .nan
  | .infinite left, .infinite right => if left = right then .infinite left else .nan
  | .infinite left, _ => .infinite left
  | _, .infinite right => .infinite right

/-- `left * right` -/
def mul : Double → Double → Double
  | .finite left, .finite right => toDouble (left * right)
  | .nan, _ | _, .nan => .nan
  | .infinite left, .infinite right => .infinite (left != right)
  | .infinite left, .finite right => if right = 0 then .nan else .infinite (left != decide (right < 0))
  | .finite left, .infinite right => if left = 0 then .nan else .infinite (decide (left < 0) != right)

/-- `Math.round` -/
def round : Double → Double
  | .finite value => .finite ⌊value + 1 / 2⌋
  | other => other

/-- `Number.MAX_SAFE_INTEGER` -/
def maxSafeInteger : Int := 2 ^ 53 - 1

/-- The integer, if `Number.isSafeInteger` holds. -/
def safeInteger : Double → Option Int
  | .finite value => if value.den = 1 ∧ |value.num| ≤ maxSafeInteger then some value.num else none
  | _ => none

theorem safeInteger_eq_some {number : Double} {value : Int} :
    number.safeInteger = some value ↔ number = .finite value ∧ |value| ≤ maxSafeInteger := by
  cases number with
  | nan => simp [safeInteger]
  | infinite negative => simp [safeInteger]
  | finite rational =>
      simp only [safeInteger, finite.injEq]
      constructor
      · intro safe
        split at safe
        case isTrue bounded =>
          cases safe
          exact ⟨((Rat.den_eq_one_iff rational).mp bounded.1).symm, bounded.2⟩
        case isFalse => cases safe
      · rintro ⟨rfl, bounded⟩
        simp [bounded]

end Double

/-! ### Laws of rounding -/

theorem unit_pos (exponent : Int) : (0 : ℚ) < 2 ^ exponent := zpow_pos (by norm_num) exponent

theorem floor_le_roundHalfEven (value : ℚ) : ⌊value⌋ ≤ roundHalfEven value := by
  unfold roundHalfEven
  split
  case isTrue => exact le_refl _
  case isFalse =>
    split
    case isTrue => omega
    case isFalse => split <;> omega

theorem roundHalfEven_intCast (value : Int) : roundHalfEven value = value := by
  simp [roundHalfEven]

theorem roundDigits_nonneg {value : ℚ} (nonneg : 0 ≤ value) : 0 ≤ roundDigits value := by
  have unit := unit_pos (lastExponent value)
  have digits : 0 ≤ roundHalfEven (value / 2 ^ lastExponent value) :=
    le_trans (Int.floor_nonneg.mpr (div_nonneg nonneg unit.le)) (floor_le_roundHalfEven _)
  have cast : (0 : ℚ) ≤ roundHalfEven (value / 2 ^ lastExponent value) := by exact_mod_cast digits
  exact mul_nonneg cast unit.le

/-- A number that is whole in units of its last digit is not rounded. -/
theorem roundDigits_eq {value : ℚ} (digits : Int) (whole : value / 2 ^ lastExponent value = digits) :
    roundDigits value = value := by
  have unit := unit_pos (lastExponent value)
  rw [roundDigits, whole, roundHalfEven_intCast, ← whole, div_mul_cancel₀ _ unit.ne']

theorem log_natCast (value : Nat) : Int.log 2 |((value : Int) : ℚ)| = Nat.log 2 value := by
  have cast : |((value : Int) : ℚ)| = (value : ℚ) := by simp
  rw [cast, Int.log_natCast]

/-- An integer of at most 53 bits is not rounded. -/
theorem roundDigits_small {value : Nat} (small : value < 2 ^ 53) : roundDigits ((value : Int) : ℚ) = (value : Int) := by
  rcases Nat.eq_zero_or_pos value with rfl | positive
  · apply roundDigits_eq 0
    simp
  · have log : Nat.log 2 value < 53 := Nat.log_lt_of_lt_pow (by omega) small
    have exponent : lastExponent ((value : Int) : ℚ) = -((52 - Nat.log 2 value : Nat) : Int) := by
      rw [lastExponent, log_natCast]
      omega
    apply roundDigits_eq (value * 2 ^ (52 - Nat.log 2 value))
    rw [exponent, zpow_neg, zpow_natCast, div_inv_eq_mul]
    push_cast
    ring

/-- An integer of more bits stays one of more bits. -/
theorem roundDigits_large {value : Nat} (large : 2 ^ 53 ≤ value) : (2 : ℚ) ^ 53 ≤ roundDigits ((value : Int) : ℚ) := by
  have log : 53 ≤ Nat.log 2 value := Nat.le_log_of_pow_le (by decide) large
  have exponent : lastExponent ((value : Int) : ℚ) = ((Nat.log 2 value - 52 : Nat) : Int) := by
    rw [lastExponent, log_natCast]
    omega
  have power : 2 ^ Nat.log 2 value ≤ value := Nat.pow_log_le_self 2 (by omega)
  rw [roundDigits, exponent, zpow_natCast]
  have unit : (0 : ℚ) < 2 ^ (Nat.log 2 value - 52) := by positivity
  have split : 2 ^ Nat.log 2 value = 2 ^ 52 * 2 ^ (Nat.log 2 value - 52) := by
    rw [← Nat.pow_add]
    congr 1
    omega
  have digits : (2 ^ 52 : Int) ≤ ⌊((value : Int) : ℚ) / 2 ^ (Nat.log 2 value - 52)⌋ := by
    apply Int.le_floor.mpr
    rw [le_div_iff₀ unit]
    rw [split] at power
    exact_mod_cast power
  have rounded := le_trans digits (floor_le_roundHalfEven _)
  have two : (2 : ℚ) ≤ 2 ^ (Nat.log 2 value - 52) := by
    have one : 1 ≤ Nat.log 2 value - 52 := by omega
    calc (2 : ℚ) = 2 ^ 1 := (pow_one 2).symm
      _ ≤ 2 ^ (Nat.log 2 value - 52) := pow_le_pow_right₀ (by norm_num) one
  have cast : ((2 : ℚ) ^ 52) ≤ roundHalfEven (((value : Int) : ℚ) / 2 ^ (Nat.log 2 value - 52)) := by
    exact_mod_cast rounded
  calc (2 : ℚ) ^ 53 = 2 ^ 52 * 2 := by norm_num
    _ ≤ (roundHalfEven (((value : Int) : ℚ) / 2 ^ (Nat.log 2 value - 52)) : ℚ) * 2 ^ (Nat.log 2 value - 52) :=
        mul_le_mul cast two (by norm_num) (le_trans (by norm_num) cast)

/-- Of the numbers that integers are rounded to, the safe ones are the integers themselves. -/
theorem toDouble_safe {value : Int} (nonneg : 0 ≤ value) :
    (toDouble value).safeInteger = if value ≤ Double.maxSafeInteger then some value else none := by
  obtain ⟨natural, rfl⟩ := Int.eq_ofNat_of_zero_le nonneg
  split
  case isTrue small =>
    have fits : natural < 2 ^ 53 := by
      unfold Double.maxSafeInteger at small
      omega
    have bounded : |(natural : Int)| ≤ Double.maxSafeInteger := by
      rw [abs_of_nonneg nonneg]
      exact small
    apply Double.safeInteger_eq_some.mpr
    refine ⟨?_, bounded⟩
    rw [toDouble, roundDigits_small fits, if_neg]
    have below : |((natural : Int) : ℚ)| < 2 ^ 53 := by
      have cast : |((natural : Int) : ℚ)| = natural := by simp
      rw [cast]
      exact_mod_cast fits
    have power : (2 : ℚ) ^ 53 ≤ 2 ^ 1024 := pow_le_pow_right₀ (by norm_num) (by norm_num)
    exact not_le.mpr (lt_of_lt_of_le below power)
  case isFalse large =>
    have fits : 2 ^ 53 ≤ natural := by
      unfold Double.maxSafeInteger at large
      omega
    have bound := roundDigits_large fits
    cases safe : (toDouble ((natural : Int) : ℚ)).safeInteger with
    | none => rfl
    | some result =>
        rcases Double.safeInteger_eq_some.mp safe with ⟨same, bounded⟩
        unfold toDouble at same
        split at same
        case isTrue => cases same
        case isFalse =>
          have value : roundDigits ((natural : Int) : ℚ) = result := Double.finite.inj same
          rw [value] at bound
          have below : result ≤ 2 ^ 53 - 1 := le_trans (le_abs_self _) bounded
          have above : (2 ^ 53 : Int) ≤ result := by exact_mod_cast bound
          omega

/-- What is not negative is not rounded to a negative number. -/
theorem toDouble_nonneg {value rounded : ℚ} (nonneg : 0 ≤ value) (finite : toDouble value = .finite rounded) :
    0 ≤ rounded := by
  unfold toDouble at finite
  split at finite
  case isTrue => cases finite
  case isFalse =>
    cases finite
    exact roundDigits_nonneg nonneg

namespace Double

/-- A sum of safe integers is exact where it is safe. -/
theorem safeInteger_add {left right : Int} (nonneg : 0 ≤ left) (nonneg' : 0 ≤ right) :
    (add (.finite left) (.finite right)).safeInteger =
      if left + right ≤ maxSafeInteger then some (left + right) else none := by
  have cast : (left : ℚ) + right = ((left + right : Int) : ℚ) := by push_cast; rfl
  rw [add, cast]
  exact toDouble_safe (by omega)

end Double

end DataVault.Number
