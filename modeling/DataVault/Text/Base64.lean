/-
Module: DataVault.Text.Base64
Layer: Library
Purpose: Base64 as the platform writes and reads it: six bits a character, padded when written; reading stops at the
  padding and skips what is no digit. What is written is read back.
Imports: Mathlib.Tactic.Common
Trusted boundary: none
Main exports: Base64.encode, Base64.decode, Base64.isBase64, Base64.decode_encode, Base64.isBase64_encode,
  Base64.length_encode
-/
import Mathlib.Tactic.Common

namespace DataVault.Text.Base64

def alphabet : List Char :=
  ['A', 'B', 'C', 'D', 'E', 'F', 'G', 'H', 'I', 'J', 'K', 'L', 'M', 'N', 'O', 'P', 'Q', 'R', 'S', 'T', 'U', 'V', 'W',
    'X', 'Y', 'Z', 'a', 'b', 'c', 'd', 'e', 'f', 'g', 'h', 'i', 'j', 'k', 'l', 'm', 'n', 'o', 'p', 'q', 'r', 's', 't',
    'u', 'v', 'w', 'x', 'y', 'z', '0', '1', '2', '3', '4', '5', '6', '7', '8', '9', '+', '/']

def digit (value : Nat) : Char := alphabet.getD value 'A'

def digitValue (c : Char) : Option Nat := alphabet.findIdx? fun other => other = c

/-- The digits of bytes. -/
def sextets : List UInt8 → List Nat
  | a :: b :: c :: rest =>
      a.toNat / 4 :: (a.toNat % 4 * 16 + b.toNat / 16) :: (b.toNat % 16 * 4 + c.toNat / 64) :: c.toNat % 64 ::
        sextets rest
  | [a, b] => [a.toNat / 4, a.toNat % 4 * 16 + b.toNat / 16, b.toNat % 16 * 4]
  | [a] => [a.toNat / 4, a.toNat % 4 * 16]
  | [] => []

/-- The bytes of digits; bits that make no byte are dropped. -/
def bytesOf : List Nat → List UInt8
  | a :: b :: c :: d :: rest =>
      .ofNat (a * 4 + b / 16) :: .ofNat (b % 16 * 16 + c / 4) :: .ofNat (c % 4 * 64 + d) :: bytesOf rest
  | [a, b, c] => [.ofNat (a * 4 + b / 16), .ofNat (b % 16 * 16 + c / 4)]
  | [a, b] => [.ofNat (a * 4 + b / 16)]
  | _ => []

/-- `toString('base64')` -/
def encode (bytes : List UInt8) : List Char :=
  (sextets bytes).map digit ++ List.replicate ((3 - bytes.length % 3) % 3) '='

/-- `Buffer.from(text, 'base64')` -/
def decode (text : List Char) : List UInt8 := bytesOf ((text.takeWhile (· ≠ '=')).filterMap digitValue)

/-- `/^[A-Za-z0-9+/]*={0,2}$/` -/
def isBase64 (text : List Char) : Bool :=
  let padding := text.dropWhile fun c => (digitValue c).isSome
  padding.length ≤ 2 && padding.all (· = '=')

/-! ### Digits -/

theorem digitValue_digit : ∀ value < 64, digitValue (digit value) = some value := by decide

theorem digit_plain : ∀ value < 64, digit value ≠ '=' ∧ 32 ≤ (digit value).toNat ∧ (digit value).toNat < 128 ∧
    digit value ≠ '"' ∧ digit value ≠ '\\' := by
  decide

theorem sextets_lt (bytes : List UInt8) : ∀ value ∈ sextets bytes, value < 64 := by
  induction bytes using sextets.induct with
  | case1 a b c rest ih =>
      have := a.toNat_lt
      have := b.toNat_lt
      have := c.toNat_lt
      intro value mem
      simp only [sextets, List.mem_cons] at mem
      rcases mem with rfl | rfl | rfl | rfl | mem
      · omega
      · omega
      · omega
      · omega
      · exact ih value mem
  | case2 a b =>
      have := a.toNat_lt
      have := b.toNat_lt
      intro value mem
      simp only [sextets, List.mem_cons, List.not_mem_nil, or_false] at mem
      rcases mem with rfl | rfl | rfl <;> omega
  | case3 a =>
      have := a.toNat_lt
      intro value mem
      simp only [sextets, List.mem_cons, List.not_mem_nil, or_false] at mem
      rcases mem with rfl | rfl <;> omega
  | case4 =>
      intro value mem
      cases mem

/-! ### Reading back -/

theorem ofNat_eq {value : Nat} {byte : UInt8} (same : value = byte.toNat) : UInt8.ofNat value = byte := by
  rw [same, UInt8.ofNat_toNat]

theorem bytesOf_sextets (bytes : List UInt8) : bytesOf (sextets bytes) = bytes := by
  induction bytes using sextets.induct with
  | case1 a b c rest ih =>
      have := a.toNat_lt
      have := b.toNat_lt
      have := c.toNat_lt
      rw [sextets, bytesOf, ih, ofNat_eq (show _ = a.toNat by omega), ofNat_eq (show _ = b.toNat by omega),
        ofNat_eq (show _ = c.toNat by omega)]
  | case2 a b =>
      have := a.toNat_lt
      have := b.toNat_lt
      rw [sextets, bytesOf, ofNat_eq (show _ = a.toNat by omega), ofNat_eq (show _ = b.toNat by omega)]
  | case3 a =>
      have := a.toNat_lt
      rw [sextets, bytesOf, ofNat_eq (show _ = a.toNat by omega)]
  | case4 => rfl

theorem filterMap_digits {values : List Nat} (small : ∀ value ∈ values, value < 64) :
    (values.map digit).filterMap digitValue = values := by
  induction values with
  | nil => rfl
  | cons value values ih =>
      rw [List.map_cons, List.filterMap_cons, digitValue_digit value (small value (.head _)),
        ih fun other mem => small other (.tail _ mem)]

theorem decode_encode (bytes : List UInt8) : decode (encode bytes) = bytes := by
  have small := sextets_lt bytes
  have digits : ∀ c ∈ (sextets bytes).map digit, (c ≠ '=') = true := by
    intro c mem
    rcases List.mem_map.mp mem with ⟨value, held, rfl⟩
    simpa using (digit_plain value (small value held)).1
  have padding : (List.replicate ((3 - bytes.length % 3) % 3) '=').takeWhile (fun c => decide (c ≠ '=')) = [] := by
    simp
  rw [decode, encode, List.takeWhile_append_of_pos (by simpa using digits), padding, List.append_nil,
    filterMap_digits small, bytesOf_sextets]

theorem isBase64_encode (bytes : List UInt8) : isBase64 (encode bytes) = true := by
  have digits : ∀ c ∈ (sextets bytes).map digit, (digitValue c).isSome = true := by
    intro c mem
    rcases List.mem_map.mp mem with ⟨value, held, rfl⟩
    rw [digitValue_digit value (sextets_lt bytes value held)]
    rfl
  have stops : digitValue '=' = none := by decide
  have padding : (List.replicate ((3 - bytes.length % 3) % 3) '=').dropWhile (fun c => (digitValue c).isSome) =
      List.replicate ((3 - bytes.length % 3) % 3) '=' := by
    simp [stops]
  rw [isBase64, encode, List.dropWhile_append_of_pos digits, padding]
  simp
  omega

theorem length_sextets (bytes : List UInt8) :
    (sextets bytes).length + (3 - bytes.length % 3) % 3 = 4 * ((bytes.length + 2) / 3) := by
  induction bytes using sextets.induct with
  | case1 a b c rest ih =>
      simp only [sextets, List.length_cons]
      omega
  | case2 a b => simp only [sextets, List.length_cons, List.length_nil]
  | case3 a => simp only [sextets, List.length_cons, List.length_nil]
  | case4 => rfl

theorem length_encode (bytes : List UInt8) : (encode bytes).length = 4 * ((bytes.length + 2) / 3) := by
  rw [encode, List.length_append, List.length_map, List.length_replicate, length_sextets]

/-- The characters of a text are visible ASCII, and none is a quote or a backslash. -/
theorem encode_plain {bytes : List UInt8} {c : Char} (mem : c ∈ encode bytes) :
    32 ≤ c.toNat ∧ c.toNat < 128 ∧ c ≠ '"' ∧ c ≠ '\\' := by
  rcases List.mem_append.mp mem with held | held
  · rcases List.mem_map.mp held with ⟨value, digits, rfl⟩
    exact (digit_plain value (sextets_lt bytes value digits)).2
  · rw [List.eq_of_mem_replicate held]
    decide

end DataVault.Text.Base64
