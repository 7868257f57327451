/-
Module: DataVault.Text.Utf8
Layer: Library
Purpose: Decoding of UTF-8 that arrives in pieces: bytes of an incomplete character are kept until the rest of it is
  there (`StringDecoder`). However a text is cut, it is read back.
Imports: Mathlib.Algebra.GroupWithZero.Nat, Mathlib.Tactic.Common
Trusted boundary: none
Main exports: StringDecoder, StringDecoder.write, encode, utf16Length, write_append, write_encode
-/
import Mathlib.Algebra.GroupWithZero.Nat
import Mathlib.Tactic.Common

namespace DataVault.Text.Utf8

/-- The bytes of a text. -/
def encode (text : List Char) : List UInt8 := text.flatMap String.utf8EncodeChar

/-- `text.length`, in UTF-16 units. -/
def utf16Length (text : List Char) : Nat := (text.map fun c => if c.toNat < 65536 then 1 else 2).sum

@[simp] theorem utf16Length_append (first second : List Char) :
    utf16Length (first ++ second) = utf16Length first + utf16Length second := by
  simp [utf16Length]

/-- How many bytes a character has that starts with this one. -/
def sequenceLength (first : UInt8) : Nat :=
  if first.toNat < 0xC0 then 1 else if first.toNat < 0xE0 then 2 else if first.toNat < 0xF0 then 3
    else if first.toNat < 0xF8 then 4 else 1

/-- The decoder keeps the bytes of a character that is not complete. -/
abbrev StringDecoder := List UInt8

namespace StringDecoder

/-- One more byte: the character that it completes, if any. What is no character is replaced. -/
def next (decoder : StringDecoder) (byte : UInt8) : List Char × StringDecoder :=
  let bytes := decoder ++ [byte]
  if bytes.length < sequenceLength (bytes.headD 0) then ([], bytes)
  else ([(bytes.toByteArray.utf8DecodeChar? 0).getD (Char.ofNat 0xFFFD)], [])

/-- The characters that a chunk completes, and what is kept. -/
def write (decoder : StringDecoder) : List UInt8 → List Char × StringDecoder
  | [] => ([], decoder)
  | byte :: rest =>
      let (characters, decoder) := decoder.next byte
      let (others, decoder) := write decoder rest
      (characters ++ others, decoder)

variable {decoder : StringDecoder}

/-- A chunk may be cut anywhere. -/
theorem write_append (first second : List UInt8) :
    decoder.write (first ++ second) =
      ((decoder.write first).1 ++ ((decoder.write first).2.write second).1, ((decoder.write first).2.write second).2) := by
  induction first generalizing decoder with
  | nil => simp [write]
  | cons byte rest ih => simp [write, ih, List.append_assoc]

theorem sequenceLength_ofNat {n : Nat} (small : n < 256) :
    sequenceLength (UInt8.ofNat n) =
      if n < 0xC0 then 1 else if n < 0xE0 then 2 else if n < 0xF0 then 3 else if n < 0xF8 then 4 else 1 := by
  have value : (UInt8.ofNat n).toNat = n := by simp [Nat.mod_eq_of_lt small]
  simp only [sequenceLength, value]

/-- The first byte of a character tells how many there are. -/
theorem length_utf8EncodeChar (c : Char) :
    (String.utf8EncodeChar c).length = sequenceLength ((String.utf8EncodeChar c).headD 0) := by
  have valid : c.val.toNat < 0x110000 := by
    rcases c.valid with low | ⟨_, high⟩
    · exact Nat.lt_trans low (by decide)
    · exact high
  unfold String.utf8EncodeChar
  dsimp only
  split
  case isTrue =>
    simp only [List.length_cons, List.length_nil, List.headD_cons]
    rw [sequenceLength_ofNat (by omega), if_pos (by omega)]
  case isFalse =>
    split
    case isTrue =>
      simp only [List.length_cons, List.length_nil, List.headD_cons]
      rw [sequenceLength_ofNat (by omega), if_neg (by omega), if_pos (by omega)]
    case isFalse =>
      split
      case isTrue =>
        simp only [List.length_cons, List.length_nil, List.headD_cons]
        rw [sequenceLength_ofNat (by omega), if_neg (by omega), if_neg (by omega), if_pos (by omega)]
      case isFalse =>
        simp only [List.length_cons, List.length_nil, List.headD_cons]
        rw [sequenceLength_ofNat (by omega), if_neg (by omega), if_neg (by omega), if_neg (by omega), if_pos (by omega)]

/-- The rest of the bytes of a character completes it. -/
theorem write_rest {c : Char} : ∀ {rest : List UInt8} {decoder : StringDecoder},
    decoder ++ rest = String.utf8EncodeChar c → rest ≠ [] → decoder.write rest = ([c], [])
  | [], _, _, nonempty => absurd rfl nonempty
  | byte :: rest, decoder, split, _ => by
      have counted := length_utf8EncodeChar c
      rw [← split] at counted
      have head : (decoder ++ byte :: rest).headD 0 = (decoder ++ [byte]).headD 0 := by
        cases decoder <;> rfl
      rw [head] at counted
      simp only [write, next]
      cases rest with
      | nil =>
          have decodes := ByteArray.utf8DecodeChar?_utf8EncodeChar_append (b := ByteArray.empty) (c := c)
          rw [ByteArray.append_empty, ← split] at decodes
          rw [if_neg (by omega), decodes]
          rfl
      | cons other more =>
          have short : (decoder ++ [byte]).length < sequenceLength ((decoder ++ [byte]).headD 0) := by
            rw [← counted]
            simp
          rw [if_pos short]
          have tail := @write_rest c (other :: more) (decoder ++ [byte]) (by simpa using split) (by simp)
          rw [tail]
          rfl

/-- The bytes of a text give it back. -/
theorem write_encode (text : List Char) : write [] (encode text) = (text, []) := by
  induction text with
  | nil => rfl
  | cons c rest ih =>
      have first : write [] (String.utf8EncodeChar c) = ([c], []) :=
        @write_rest c _ [] rfl (by
          intro empty
          have counted := String.length_utf8EncodeChar c
          rw [empty] at counted
          have positive := c.utf8Size_pos
          simp at counted
          omega)
      have split : encode (c :: rest) = String.utf8EncodeChar c ++ encode rest := rfl
      rw [split, write_append, first, ih]
      rfl

end StringDecoder

end DataVault.Text.Utf8
