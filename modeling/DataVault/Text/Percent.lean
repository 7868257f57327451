/-
Module: DataVault.Text.Percent
Layer: Library
Purpose: Percent-encoding of octets, and the characters that an extended header parameter may hold (`value-chars` of
  RFC 5987). What is encoded is decoded again.
Imports: Mathlib.Algebra.GroupWithZero.Nat, DataVault.Text.Utf8
Trusted boundary: none
Main exports: percentEncode, percentDecode, attrChar, ValueChars, percentDecode_encode, ValueChars.append
-/
import Mathlib.Algebra.GroupWithZero.Nat
import DataVault.Text.Utf8

namespace DataVault.Text.Percent

/-- The digits of `toString(16).toUpperCase()`. -/
def hexDigit (value : Nat) : Char :=
  ['0', '1', '2', '3', '4', '5', '6', '7', '8', '9', 'A', 'B', 'C', 'D', 'E', 'F'].getD value '0'

def hexValue (c : Char) : Option Nat :=
  if '0' ≤ c ∧ c ≤ '9' then some (c.toNat - 48)
  else if 'A' ≤ c ∧ c ≤ 'F' then some (c.toNat - 55)
  else if 'a' ≤ c ∧ c ≤ 'f' then some (c.toNat - 87)
  else none

/-- One octet. -/
def encodeByte (byte : UInt8) : List Char := ['%', hexDigit (byte.toNat / 16), hexDigit (byte.toNat % 16)]

def percentEncode (bytes : List UInt8) : List Char := bytes.flatMap encodeByte

/-- The octets of an encoded text; other characters than `%` stand for themselves. -/
def percentDecode : List Char → List UInt8
  | '%' :: high :: low :: rest =>
      match hexValue high, hexValue low with
      | some high, some low => .ofNat (16 * high + low) :: percentDecode rest
      | _, _ => .ofNat '%'.toNat :: percentDecode (high :: low :: rest)
  | c :: rest => .ofNat c.toNat :: percentDecode rest
  | [] => []

theorem hexValue_hexDigit {value : Nat} (digit : value < 16) : hexValue (hexDigit value) = some value := by
  have all : ∀ value < 16, hexValue (hexDigit value) = some value := by decide
  exact all value digit

theorem percentDecode_encodeByte (byte : UInt8) (rest : List Char) :
    percentDecode (encodeByte byte ++ rest) = byte :: percentDecode rest := by
  have bound := byte.toNat_lt
  have value : 16 * (byte.toNat / 16) + byte.toNat % 16 = byte.toNat := Nat.div_add_mod _ _
  simp only [encodeByte, List.cons_append, List.nil_append, percentDecode,
    hexValue_hexDigit (show byte.toNat / 16 < 16 by omega), hexValue_hexDigit (Nat.mod_lt _ (by decide)), value]
  rw [UInt8.ofNat_toNat]

theorem percentDecode_encode (bytes : List UInt8) (rest : List Char) :
    percentDecode (percentEncode bytes ++ rest) = bytes ++ percentDecode rest := by
  induction bytes with
  | nil => rfl
  | cons byte bytes ih =>
      rw [percentEncode, List.flatMap_cons, List.append_assoc, percentDecode_encodeByte]
      exact congrArg (byte :: ·) ih

theorem percentDecode_cons {c : Char} (plain : c ≠ '%') (rest : List Char) :
    percentDecode (c :: rest) = .ofNat c.toNat :: percentDecode rest := by
  rw [percentDecode]
  intro high low more same
  exact absurd same plain

/-! ### Extended parameters -/

/-- `attr-char` -/
def attrChar (c : Char) : Bool := c.isAlphanum || "!#$&+-.^_`|~".toList.contains c

/-- `value-chars`: octets that are encoded, and characters that need not be. -/
inductive ValueChars : List Char → Prop where
  | nil : ValueChars []
  | attr {c : Char} {rest : List Char} (allowed : attrChar c) (tail : ValueChars rest) : ValueChars (c :: rest)
  | octet {high low : Char} {rest : List Char} (first : (hexValue high).isSome) (second : (hexValue low).isSome)
      (tail : ValueChars rest) : ValueChars ('%' :: high :: low :: rest)

theorem ValueChars.append {first second : List Char} (one : ValueChars first) (two : ValueChars second) :
    ValueChars (first ++ second) := by
  induction one with
  | nil => exact two
  | attr allowed _ ih => exact .attr allowed ih
  | octet high low _ ih => exact .octet high low ih

theorem valueChars_encode (bytes : List UInt8) : ValueChars (percentEncode bytes) := by
  induction bytes with
  | nil => exact .nil
  | cons byte bytes ih =>
      have bound := byte.toNat_lt
      apply ValueChars.octet
      · rw [hexValue_hexDigit (by omega)]
        rfl
      · rw [hexValue_hexDigit (by omega)]
        rfl
      · exact ih

/-- A character that is neither allowed nor part of an octet stands nowhere. -/
theorem ValueChars.absent {c : Char} (plain : attrChar c = false) (octet : c ≠ '%') (digit : hexValue c = none)
    {text : List Char} (chars : ValueChars text) : c ∉ text := by
  induction chars with
  | nil => exact List.not_mem_nil
  | attr allowed _ ih =>
      intro mem
      rcases List.mem_cons.mp mem with rfl | later
      · rw [plain] at allowed
        cases allowed
      · exact ih later
  | octet first second _ ih =>
      intro mem
      simp only [List.mem_cons] at mem
      rcases mem with same | rfl | rfl | later
      · exact octet same
      · rw [digit] at first
        cases first
      · rw [digit] at second
        cases second
      · exact ih later

end DataVault.Text.Percent
