/-
Module: DataVault.Workbook.Buffers
Layer: Proof
Purpose: What the reads of a buffer answer: the number at an offset where there are enough bytes for it, and the place
  of the last occurrence of a signature; and what is read where given bytes stand.
Imports: DataVault.Workbook.Runtime
Trusted boundary: none
Main exports: littleEndian, wordAt, readUInt16LE_ok_iff, readUInt32LE_ok_iff, lastIndexOf_eq_some_iff, le16, le32,
  Stands, Stands.word
-/
import DataVault.Workbook.Runtime

namespace DataVault.Workbook

open DataVault.Guard DataVault.Text

/-! ### Numbers -/

/-- The number that bytes stand for, the least significant one first. -/
def littleEndian : Bytes → Nat
  | [] => 0
  | byte :: rest => byte.toNat + 256 * littleEndian rest

/-- The number in the bytes at an offset. -/
def wordAt (width : Nat) (buffer : Bytes) (offset : Nat) : Nat := littleEndian ((buffer.drop offset).take width)

variable {buffer : Bytes} {offset value : Nat}

theorem readUInt16LE_ok_iff :
    readUInt16LE buffer offset = .ok value ↔ offset + 2 ≤ buffer.length ∧ value = wordAt 2 buffer offset := by
  have length : (buffer.drop offset).length = buffer.length - offset := List.length_drop
  unfold readUInt16LE wordAt
  match rest : buffer.drop offset with
  | [] | [_] =>
      rw [rest] at length
      simp only [List.length_cons, List.length_nil] at length
      simp only [reduceCtorEq, false_iff]
      omega
  | b₀ :: b₁ :: _ =>
      rw [rest] at length
      simp only [List.length_cons] at length
      simp only [Except.ok.injEq, List.take_succ_cons, List.take_zero, littleEndian, Nat.mul_zero, Nat.add_zero]
      omega

theorem readUInt32LE_ok_iff :
    readUInt32LE buffer offset = .ok value ↔ offset + 4 ≤ buffer.length ∧ value = wordAt 4 buffer offset := by
  have length : (buffer.drop offset).length = buffer.length - offset := List.length_drop
  unfold readUInt32LE wordAt
  match rest : buffer.drop offset with
  | [] | [_] | [_, _] | [_, _, _] =>
      rw [rest] at length
      simp only [List.length_cons, List.length_nil] at length
      simp only [reduceCtorEq, false_iff]
      omega
  | b₀ :: b₁ :: b₂ :: b₃ :: _ =>
      rw [rest] at length
      simp only [List.length_cons] at length
      simp only [Except.ok.injEq, List.take_succ_cons, List.take_zero, littleEndian, Nat.mul_zero, Nat.add_zero]
      omega

theorem readUInt16LE_ok (room : offset + 2 ≤ buffer.length) :
    readUInt16LE buffer offset = .ok (wordAt 2 buffer offset) :=
  readUInt16LE_ok_iff.mpr ⟨room, rfl⟩

theorem readUInt32LE_ok (room : offset + 4 ≤ buffer.length) :
    readUInt32LE buffer offset = .ok (wordAt 4 buffer offset) :=
  readUInt32LE_ok_iff.mpr ⟨room, rfl⟩

/-! ### Signatures -/

/-- A needle stands at a place of a buffer and at no later one. -/
structure LastAt (needle buffer : Bytes) (place : Nat) : Prop where
  here : needle <+: buffer.drop place
  last : ∀ later, place < later → ¬needle <+: buffer.drop later

namespace LastAt

variable {needle : Bytes} {place other : Nat} {byte : UInt8} {rest : Bytes}

theorem unique (one : LastAt needle buffer place) (two : LastAt needle buffer other) : place = other := by
  rcases Nat.lt_trichotomy place other with before | same | after
  · exact absurd two.here (one.last other before)
  · exact same
  · exact absurd one.here (two.last place after)

theorem cons (found : LastAt needle rest place) : LastAt needle (byte :: rest) (place + 1) where
  here := found.here
  last later after := by
    obtain ⟨later, rfl⟩ : ∃ before, later = before + 1 := ⟨later - 1, by omega⟩
    exact found.last later (by omega)

theorem first (here : needle <+: byte :: rest) (absent : ∀ place, ¬needle <+: rest.drop place) :
    LastAt needle (byte :: rest) 0 where
  here := here
  last later after := by
    obtain ⟨later, rfl⟩ : ∃ before, later = before + 1 := ⟨later - 1, by omega⟩
    exact absent later

end LastAt

theorem lastIndexOf_finds {needle : Bytes} (signature : needle ≠ []) :
    ∀ buffer : Bytes, (∀ place, lastIndexOf needle buffer = some place → LastAt needle buffer place) ∧
      (lastIndexOf needle buffer = none → ∀ place, ¬needle <+: buffer.drop place)
  | [] => by
      constructor
      · intro place found
        simp [lastIndexOf, signature] at found
      · intro _ place
        rw [List.drop_nil, List.prefix_nil]
        exact signature
  | byte :: rest => by
      obtain ⟨finds, absent⟩ := lastIndexOf_finds signature rest
      unfold lastIndexOf
      cases tail : lastIndexOf needle rest with
      | some later =>
          constructor
          · intro place found
            cases found
            exact (finds later tail).cons
          · intro none
            cases none
      | none =>
          by_cases here : needle.isPrefixOf (byte :: rest) = true
          · simp only [here, if_true]
            constructor
            · intro place found
              cases found
              exact .first (List.isPrefixOf_iff_prefix.mp here) (absent tail)
            · intro none
              cases none
          · simp only [here]
            constructor
            · intro place found
              cases found
            · intro _ place
              cases place with
              | zero => exact fun starts => here (List.isPrefixOf_iff_prefix.mpr starts)
              | succ place => exact absent tail place

theorem lastIndexOf_eq_some_iff {needle : Bytes} (signature : needle ≠ []) {place : Nat} :
    lastIndexOf needle buffer = some place ↔ LastAt needle buffer place := by
  obtain ⟨finds, absent⟩ := lastIndexOf_finds signature buffer
  constructor
  · exact finds place
  · intro found
    cases result : lastIndexOf needle buffer with
    | some other => rw [(finds other result).unique found]
    | none => exact absurd found.here (absent result place)

/-! ### Text -/

theorem toList_loop_eq (bytes : ByteArray) (place : Nat) (read : List UInt8) :
    ByteArray.toList.loop bytes place read = read.reverse ++ bytes.data.toList.drop place := by
  induction place, read using ByteArray.toList.loop.induct bytes with
  | case1 place read inside ih =>
      have within : place < bytes.data.toList.length := by simpa using inside
      have here : bytes.get! place = bytes.data.toList[place] := by
        rw [ByteArray.get!, Array.getElem_toList]
        exact getElem!_pos bytes.data place inside
      rw [ByteArray.toList.loop, if_pos inside, ih, List.drop_eq_getElem_cons within, here]
      simp
  | case2 place read outside =>
      have beyond : bytes.data.toList.length ≤ place := by simpa using outside
      rw [ByteArray.toList.loop, if_neg outside, List.drop_eq_nil_of_le beyond, List.append_nil]

theorem utf8_eq (text : String) : utf8 text = text.toUTF8.data.toList := by
  rw [utf8, ByteArray.toList, toList_loop_eq]
  simp

/-! ### Bytes at an offset -/

/-- The two bytes of a number, the least significant one first. -/
def le16 (value : Nat) : Bytes := [.ofNat value, .ofNat (value / 256)]

def le32 (value : Nat) : Bytes :=
  [.ofNat value, .ofNat (value / 256), .ofNat (value / 65536), .ofNat (value / 16777216)]

theorem littleEndian_le16 (fits : value < 2 ^ 16) : littleEndian (le16 value) = value := by
  simp only [le16, littleEndian, UInt8.toNat_ofNat']
  omega

theorem littleEndian_le32 (fits : value < 2 ^ 32) : littleEndian (le32 value) = value := by
  simp only [le32, littleEndian, UInt8.toNat_ofNat']
  omega

/-- Bytes stand at an offset of a buffer. -/
def Stands (buffer : Bytes) (offset : Nat) (bytes : Bytes) : Prop := bytes <+: buffer.drop offset

namespace Stands

variable {bytes more : Bytes}

theorem append (stands : Stands buffer offset (bytes ++ more)) :
    Stands buffer offset bytes ∧ Stands buffer (offset + bytes.length) more := by
  rcases stands with ⟨rest, whole⟩
  constructor
  · exact ⟨more ++ rest, by rw [← List.append_assoc, whole]⟩
  · refine ⟨rest, ?_⟩
    rw [← List.drop_drop, ← whole, List.append_assoc, List.drop_left]

theorem room (stands : Stands buffer offset bytes) (filled : bytes ≠ []) : offset + bytes.length ≤ buffer.length := by
  have shorter := stands.length_le
  have positive := List.length_pos_iff.mpr filled
  rw [List.length_drop] at shorter
  omega

theorem take (stands : Stands buffer offset bytes) : (buffer.drop offset).take bytes.length = bytes :=
  (List.prefix_iff_eq_take.mp stands).symm

/-- The number within bytes that stand at an offset. -/
theorem word (stands : Stands buffer offset bytes) {width place : Nat} (within : place + width ≤ bytes.length) :
    wordAt width buffer (offset + place) = littleEndian ((bytes.drop place).take width) := by
  rcases stands with ⟨rest, whole⟩
  rw [wordAt, ← List.drop_drop, ← whole, List.drop_append_of_le_length (by omega),
    List.take_append_of_le_length (by rw [List.length_drop]; omega)]

end Stands

end DataVault.Workbook
