/-
Module: DataVault.Text.Hex
Layer: Library
Purpose: Numbers as hexadecimal digits of a fixed width, as object ids and digests are written.
Imports: DataVault.Text.Percent
Trusted boundary: none
Main exports: lowerDigit, toHex, fromHex, toHex_length, fromHex_toHex
-/
import DataVault.Text.Percent

namespace DataVault.Text.Hex

open DataVault.Text.Percent

/-- The digits of `toString(16)`. -/
def lowerDigit (value : Nat) : Char :=
  ['0', '1', '2', '3', '4', '5', '6', '7', '8', '9', 'a', 'b', 'c', 'd', 'e', 'f'].getD value '0'

/-- The digits of a number, the most significant first. -/
def toHex : Nat → Nat → List Char
  | 0, _ => []
  | width + 1, value => toHex width (value / 16) ++ [lowerDigit (value % 16)]

/-- The number that digits stand for; both cases are read. -/
def fromHex (digits : List Char) : Option Nat :=
  digits.foldlM (fun value c => (hexValue c).map (16 * value + ·)) 0

@[simp] theorem toHex_length (width value : Nat) : (toHex width value).length = width := by
  induction width generalizing value with
  | zero => rfl
  | succ width ih => rw [toHex, List.length_append, ih, List.length_singleton]

theorem hexValue_lowerDigit {value : Nat} (digit : value < 16) : hexValue (lowerDigit value) = some value := by
  have all : ∀ value < 16, hexValue (lowerDigit value) = some value := by decide
  exact all value digit

theorem fromHex_toHex {width value : Nat} (fits : value < 16 ^ width) : fromHex (toHex width value) = some value := by
  induction width generalizing value with
  | zero =>
      rw [Nat.lt_one_iff.mp fits]
      rfl
  | succ width ih =>
      have high : value / 16 < 16 ^ width := by
        apply Nat.div_lt_of_lt_mul
        rwa [Nat.mul_comm, ← Nat.pow_succ]
      have front : fromHex (toHex width (value / 16)) = some (value / 16) := ih high
      unfold fromHex at front ⊢
      rw [toHex, List.foldlM_append, front]
      simp only [List.foldlM_cons, List.foldlM_nil, hexValue_lowerDigit (Nat.mod_lt value (by decide)), Option.map_some]
      exact congrArg some (Nat.div_add_mod value 16)

end DataVault.Text.Hex
