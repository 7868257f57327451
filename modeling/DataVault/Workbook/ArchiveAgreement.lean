/-
Module: DataVault.Workbook.ArchiveAgreement
Layer: Proof
Purpose: What the archive writer writes is read back: by the engine, as the lower-cased names with the bytes of the
  bodies, and by the check of uploaded files. Every read is taken from the record that stands at its offset.
Imports: DataVault.Files.Validation, DataVault.Workbook.PreflightBounds, Mathlib.Tactic.IntervalCases
Trusted boundary: none
Main exports: localRecord, centralRecord, endRecord, Written, writeXlsx_ok, writeXlsx_fits, archive_agreement
-/
import DataVault.Files.Validation
import DataVault.Workbook.PreflightBounds
import Mathlib.Tactic.IntervalCases

namespace DataVault.Workbook

open DataVault.Control DataVault.Files DataVault.Guard DataVault.Text

/-! ### The layout of an archive -/

/-- A local header with its name and its body. -/
def localRecord (part : String × String) : Bytes :=
  [0x50, 0x4b, 0x03, 0x04, 20, 0] ++ List.replicate 8 0 ++ le32 (crc32 (utf8 part.2) 0) ++
    le32 (utf8 part.2).length ++ le32 (utf8 part.2).length ++ le16 (utf8 part.1).length ++ [0, 0] ++
    utf8 part.1 ++ utf8 part.2

/-- The record of a part whose local header stands at `place`. -/
def centralRecord (place : Nat) (part : String × String) : Bytes :=
  [0x50, 0x4b, 0x01, 0x02, 20, 0, 20, 0] ++ List.replicate 8 0 ++ le32 (crc32 (utf8 part.2) 0) ++
    le32 (utf8 part.2).length ++ le32 (utf8 part.2).length ++ le16 (utf8 part.1).length ++ List.replicate 12 0 ++
    le32 place ++ utf8 part.1

def localRecords (parts : List (String × String)) : Bytes := parts.flatMap localRecord

/-- The directory of parts whose local headers start at `place`. -/
def directory : Nat → List (String × String) → Bytes
  | _, [] => []
  | place, part :: parts => centralRecord place part ++ directory (place + (localRecord part).length) parts

def endRecord (count size offset : Nat) : Bytes :=
  [0x50, 0x4b, 0x05, 0x06, 0, 0, 0, 0] ++ le16 count ++ le16 count ++ le32 size ++ le32 offset ++ [0, 0]

/-- The whole archive. -/
def layout (parts : List (String × String)) : Bytes :=
  localRecords parts ++ directory 0 parts ++
    endRecord parts.length (directory 0 parts).length (localRecords parts).length

theorem localRecord_length (part : String × String) :
    (localRecord part).length = 30 + (utf8 part.1).length + (utf8 part.2).length := by
  simp only [localRecord, List.length_append, List.length_replicate, le32, le16, List.length_cons, List.length_nil]

theorem centralRecord_length (place : Nat) (part : String × String) :
    (centralRecord place part).length = 46 + (utf8 part.1).length := by
  simp only [centralRecord, List.length_append, List.length_replicate, le32, le16, List.length_cons, List.length_nil]

theorem localRecords_cons (part : String × String) (parts : List (String × String)) :
    localRecords (part :: parts) = localRecord part ++ localRecords parts := List.flatMap_cons

theorem localRecords_append (front back : List (String × String)) :
    localRecords (front ++ back) = localRecords front ++ localRecords back := List.flatMap_append

theorem directory_append (place : Nat) (front back : List (String × String)) :
    directory place (front ++ back) = directory place front ++ directory (place + (localRecords front).length) back := by
  induction front generalizing place with
  | nil => rfl
  | cons part front ih =>
      rw [List.cons_append, directory, directory, ih, localRecords_cons, List.length_append, List.append_assoc,
        Nat.add_assoc]

theorem layout_length (parts : List (String × String)) :
    (layout parts).length = (localRecords parts).length + (directory 0 parts).length + 22 := by
  simp only [layout, endRecord, List.length_append, le16, le32, List.length_cons, List.length_nil]

theorem directory_length (place : Nat) (parts : List (String × String)) :
    (directory place parts).length = (parts.map fun part => 46 + (utf8 part.1).length).sum := by
  induction parts generalizing place with
  | nil => rfl
  | cons part parts ih => rw [directory, List.length_append, centralRecord_length, ih, List.map_cons, List.sum_cons]

theorem localRecords_length (parts : List (String × String)) :
    (localRecords parts).length = (parts.map fun part => 30 + (utf8 part.1).length + (utf8 part.2).length).sum := by
  induction parts with
  | nil => rfl
  | cons part parts ih =>
      rw [localRecords_cons, List.length_append, localRecord_length, ih, List.map_cons, List.sum_cons]

/-! ### The writer -/

/-- The numbers of a part fit into the fields of its headers. -/
structure Fits (part : String × String) : Prop where
  name : (utf8 part.1).length < 2 ^ 16
  crc : crc32 (utf8 part.2) 0 < 2 ^ 32

theorem writeUInt16LE_ok_iff {value : Nat} {bytes : Bytes} :
    writeUInt16LE value = .ok bytes ↔ value < 2 ^ 16 ∧ bytes = le16 value := by
  unfold writeUInt16LE
  split
  case isTrue fits =>
      constructor
      · intro written
        exact ⟨fits, (Except.ok.inj written).symm⟩
      · rintro ⟨_, rfl⟩
        rfl
  case isFalse large =>
      constructor
      · intro written
        cases written
      · rintro ⟨fits, _⟩
        exact absurd fits large

theorem writeUInt32LE_ok_iff {value : Nat} {bytes : Bytes} :
    writeUInt32LE value = .ok bytes ↔ value < 2 ^ 32 ∧ bytes = le32 value := by
  unfold writeUInt32LE
  split
  case isTrue fits =>
      constructor
      · intro written
        exact ⟨fits, (Except.ok.inj written).symm⟩
      · rintro ⟨_, rfl⟩
        rfl
  case isFalse large =>
      constructor
      · intro written
        cases written
      · rintro ⟨fits, _⟩
        exact absurd fits large

/-- What the loop over the parts has written: the two buffers are those of `localRecords` and `directory`, and every
number fits its field, since the writer throws where one does not. -/
structure PartsWritten (parts : List (String × String)) (s : WriteState) : Prop where
  locals : s.locals = localRecords parts
  central : s.central = directory 0 parts
  fits : ∀ part ∈ parts, Fits part

theorem writePart_ok {maxBytes : Nat} {parts : List (String × String)} {s s' : WriteState} {part : String × String}
    (written : PartsWritten parts s) (step : writePart maxBytes s part = .ok s') :
    PartsWritten (parts ++ [part]) s' := by
  simp only [writePart, bind_ok_iff, writeUInt16LE_ok_iff, writeUInt32LE_ok_iff] at step
  rcases step with ⟨_, _, _, ⟨crc, rfl⟩, _, ⟨_, rfl⟩, _, ⟨name, rfl⟩, _, ⟨_, rfl⟩, done⟩
  cases done
  constructor
  case locals =>
    have single : localRecords [part] = localRecord part := List.append_nil _
    simp only [localRecords_append, single, localRecord, written.locals, List.append_assoc]
  case central =>
    simp only [directory_append, directory, List.append_nil, centralRecord, written.central, written.locals,
      List.append_assoc, Nat.zero_add]
  case fits =>
    intro other mem
    rcases List.mem_append.mp mem with earlier | here
    · exact written.fits other earlier
    · cases List.mem_singleton.mp here
      exact ⟨name, crc⟩

/-- An archive that the writer has returned. -/
structure Written (parts : List (String × String)) (maxBytes : Nat) (archive : Bytes) : Prop where
  bytes : archive = layout parts
  length : archive.length ≤ maxBytes
  fits : ∀ part ∈ parts, Fits part

theorem Written.mono {parts : List (String × String)} {maxBytes wider : Nat} {archive : Bytes}
    (written : Written parts maxBytes archive) (within : maxBytes ≤ wider) : Written parts wider archive :=
  { written with length := written.length.trans within }

theorem writeXlsx_ok {parts : List (String × String)} {maxBytes : Nat} {archive : Bytes}
    (returned : writeXlsx parts maxBytes = .ok archive) : Written parts maxBytes archive := by
  simp only [writeXlsx, bind_ok_iff, writeUInt16LE_ok_iff, writeUInt32LE_ok_iff, require_ok_iff,
    decide_eq_true_eq] at returned
  rcases returned with ⟨s, loop, _, ⟨_, rfl⟩, _, ⟨_, rfl⟩, _, ⟨_, rfl⟩, _, room, done⟩
  cases done
  have start : PartsWritten [] {} :=
    { locals := rfl
      central := rfl
      fits := by
        intro part mem
        cases mem }
  have written : PartsWritten ([] ++ parts) s :=
    foldlM_ok_induction (fun done part before after held step => writePart_ok held step) start loop
  rw [List.nil_append] at written
  constructor
  case bytes => simp only [layout, endRecord, written.locals, written.central, List.append_assoc]
  case length =>
    simp only [List.length_append, le16, le32, List.length_cons, List.length_nil]
    omega
  case fits => exact written.fits

/-! ### What the writer refuses is too large

The writer fails only where a number does not fit into its field or the archive is larger than the limit. For parts
within the limits neither happens, so it returns an archive for all of them. -/

theorem crcBit_lt {remainder : Nat} (bound : remainder < 2 ^ 32) : crcBit remainder < 2 ^ 32 := by
  unfold crcBit
  split
  · exact Nat.xor_lt_two_pow (by omega) (by decide)
  · omega

theorem crcByte_lt {remainder : Nat} (bound : remainder < 2 ^ 32) (byte : UInt8) : crcByte remainder byte < 2 ^ 32 := by
  have start : Nat.xor remainder byte.toNat < 2 ^ 32 :=
    Nat.xor_lt_two_pow bound (byte.toNat_lt.trans (by decide))
  exact crcBit_lt (crcBit_lt (crcBit_lt (crcBit_lt (crcBit_lt (crcBit_lt (crcBit_lt (crcBit_lt start)))))))

/-- A checksum has 32 bits. -/
theorem crc32_lt (data : Bytes) : crc32 data 0 < 2 ^ 32 := by
  have kept : ∀ remainder < 2 ^ 32, data.foldl crcByte remainder < 2 ^ 32 := by
    induction data with
    | nil => exact fun _ bound => bound
    | cons byte rest ih => exact fun _ bound => ih _ (crcByte_lt bound byte)
  exact Nat.xor_lt_two_pow (kept _ (by decide)) (by decide)

theorem writePart_fits {maxBytes : Nat} {s : WriteState} {part : String × String} (small : maxBytes < 2 ^ 32)
    (name : (utf8 part.1).length < 2 ^ 16) (room : s.locals.length + (localRecord part).length ≤ maxBytes) :
    ∃ s', writePart maxBytes s part = .ok s' ∧ s'.locals = s.locals ++ localRecord part := by
  rw [localRecord_length] at room
  have crc := writeUInt32LE_ok_iff.mpr ⟨crc32_lt (utf8 part.2), rfl⟩
  have size := writeUInt32LE_ok_iff.mpr ⟨(show (utf8 part.2).length < 2 ^ 32 by omega), rfl⟩
  have nameLength := writeUInt16LE_ok_iff.mpr ⟨name, rfl⟩
  have place := writeUInt32LE_ok_iff.mpr ⟨(show s.locals.length < 2 ^ 32 by omega), rfl⟩
  have checked : require (s.locals.length + (utf8 part.1).length + (utf8 part.2).length + 30 ≤ maxBytes) limitExceeded =
      .ok () := require_ok_iff.mpr (decide_eq_true (by omega))
  simp only [writePart, checked, crc, size, nameLength, place, bind, Except.bind, pure, Except.pure]
  exact ⟨_, rfl, by simp only [localRecord, List.append_assoc]⟩

theorem writeParts_fits {maxBytes : Nat} {s : WriteState} {parts : List (String × String)} (small : maxBytes < 2 ^ 32)
    (names : ∀ part ∈ parts, (utf8 part.1).length < 2 ^ 16)
    (room : s.locals.length + (localRecords parts).length ≤ maxBytes) :
    ∃ s', parts.foldlM (writePart maxBytes) s = .ok s' := by
  induction parts generalizing s with
  | nil => exact ⟨s, rfl⟩
  | cons part parts ih =>
      rw [localRecords_cons, List.length_append] at room
      have first : s.locals.length + (localRecord part).length ≤ maxBytes := by omega
      rcases writePart_fits small (names part List.mem_cons_self) first with ⟨s₁, step, locals⟩
      have further : s₁.locals.length + (localRecords parts).length ≤ maxBytes := by
        rw [locals, List.length_append]
        omega
      rcases ih (fun other mem => names other (List.mem_cons_of_mem _ mem)) further with ⟨s₂, rest⟩
      exact ⟨s₂, by rw [List.foldlM_cons, step]; exact rest⟩

/-- The writer returns every archive that fits. -/
theorem writeXlsx_fits {parts : List (String × String)} {maxBytes : Nat} (small : maxBytes < 2 ^ 32)
    (few : parts.length < 2 ^ 16) (names : ∀ part ∈ parts, (utf8 part.1).length < 2 ^ 16)
    (room : (layout parts).length ≤ maxBytes) : writeXlsx parts maxBytes = .ok (layout parts) := by
  have size := layout_length parts
  rcases writeParts_fits (s := {}) small names (by simpa using (by omega : (localRecords parts).length ≤ maxBytes)) with
    ⟨s, loop⟩
  have start : PartsWritten [] {} :=
    { locals := rfl
      central := rfl
      fits := by
        intro part mem
        cases mem }
  have written : PartsWritten ([] ++ parts) s :=
    foldlM_ok_induction (fun done part before after held step => writePart_ok held step) start loop
  rw [List.nil_append] at written
  have locals := congrArg List.length written.locals
  have central := congrArg List.length written.central
  have returned : ∃ archive, writeXlsx parts maxBytes = .ok archive := by
    simp only [writeXlsx, bind_ok_iff, writeUInt16LE_ok_iff, writeUInt32LE_ok_iff, require_ok_iff, decide_eq_true_eq]
    exact ⟨_, s, loop, _, ⟨few, rfl⟩, _, ⟨by omega, rfl⟩, _, ⟨by omega, rfl⟩, (), by omega, rfl⟩
  rcases returned with ⟨archive, returned⟩
  rw [returned, (writeXlsx_ok returned).bytes]

/-! ### The records where they stand

Every reader takes numbers from offsets. The words of the two kinds of records are computed once, relative to where
the record stands; after that a reader is given the offset of a record and never the bytes around it. -/

section Records

theorem littleEndian_zeros : littleEndian [0, 0] = 0 := rfl

theorem littleEndian_localSignature : littleEndian [0x50, 0x4b, 0x03, 0x04] = 0x04034b50 := by decide

theorem littleEndian_centralSignature : littleEndian [0x50, 0x4b, 0x01, 0x02] = 0x02014b50 := by decide

variable {input : Bytes} {place offset : Nat} {part : String × String} {parts : List (String × String)}

/-- What the local header of a part says, word by word at the offsets of the format, with the name and the body behind
it. -/
structure LocalWords (input : Bytes) (place : Nat) (part : String × String) : Prop where
  room : place + 30 ≤ input.length
  signature : wordAt 4 input place = 0x04034b50
  flag : wordAt 2 input (place + 6) = 0
  method : wordAt 2 input (place + 8) = 0
  crc : wordAt 4 input (place + 14) = crc32 (utf8 part.2) 0
  compressed : wordAt 4 input (place + 18) = (utf8 part.2).length
  uncompressed : wordAt 4 input (place + 22) = (utf8 part.2).length
  nameLength : wordAt 2 input (place + 26) = (utf8 part.1).length
  extraLength : wordAt 2 input (place + 28) = 0
  name : (input.drop (place + 30)).take (utf8 part.1).length = utf8 part.1
  body : (input.drop (place + 30 + (utf8 part.1).length)).take (utf8 part.2).length = utf8 part.2

theorem localRecord_words (stands : Stands input place (localRecord part)) (fits : Fits part)
    (small : input.length < 2 ^ 32) : LocalWords input place part := by
  have length := localRecord_length part
  have filled : localRecord part ≠ [] := by
    intro empty
    rw [empty] at length
    simp at length
    omega
  have room := stands.room filled
  have body : (utf8 part.2).length < 2 ^ 32 := by omega
  have first : wordAt 4 input (place + 0) = 0x04034b50 :=
    (stands.word (by omega)).trans littleEndian_localSignature
  have named := stands.append.1.append.2
  have carried := stands.append.2
  rw [List.length_append, ← Nat.add_assoc] at carried
  constructor
  case room => omega
  case signature => exact first
  case flag => exact (stands.word (by omega)).trans littleEndian_zeros
  case method => exact (stands.word (by omega)).trans littleEndian_zeros
  case crc => exact (stands.word (by omega)).trans (littleEndian_le32 fits.crc)
  case compressed => exact (stands.word (by omega)).trans (littleEndian_le32 body)
  case uncompressed => exact (stands.word (by omega)).trans (littleEndian_le32 body)
  case nameLength => exact (stands.word (by omega)).trans (littleEndian_le16 fits.name)
  case extraLength => exact (stands.word (by omega)).trans littleEndian_zeros
  case name => exact named.take
  case body => exact carried.take

/-- What the record of a part in the directory says, word by word at the offsets of the format. -/
structure CentralWords (input : Bytes) (offset place : Nat) (part : String × String) : Prop where
  room : recordEnd input offset ≤ input.length
  next : recordEnd input offset = offset + (centralRecord place part).length
  signature : wordAt 4 input offset = 0x02014b50
  flag : wordAt 2 input (offset + 8) = 0
  method : wordAt 2 input (offset + 10) = 0
  crc : wordAt 4 input (offset + 16) = crc32 (utf8 part.2) 0
  compressed : wordAt 4 input (offset + 20) = (utf8 part.2).length
  uncompressed : wordAt 4 input (offset + 24) = (utf8 part.2).length
  nameLength : wordAt 2 input (offset + 28) = (utf8 part.1).length
  extraLength : wordAt 2 input (offset + 30) = 0
  commentLength : wordAt 2 input (offset + 32) = 0
  attributes : wordAt 4 input (offset + 38) = 0
  place : wordAt 4 input (offset + 42) = place
  name : (input.drop (offset + 46)).take (utf8 part.1).length = utf8 part.1

theorem centralRecord_words (stands : Stands input offset (centralRecord place part)) (fits : Fits part)
    (body : (utf8 part.2).length < 2 ^ 32) (reach : place < 2 ^ 32) : CentralWords input offset place part := by
  have length := centralRecord_length place part
  have filled : centralRecord place part ≠ [] := by
    intro empty
    rw [empty] at length
    simp at length
    omega
  have room := stands.room filled
  have first : wordAt 4 input (offset + 0) = 0x02014b50 :=
    (stands.word (by omega)).trans littleEndian_centralSignature
  have nameLength : wordAt 2 input (offset + 28) = (utf8 part.1).length :=
    (stands.word (by omega)).trans (littleEndian_le16 fits.name)
  have extraLength : wordAt 2 input (offset + 30) = 0 := (stands.word (by omega)).trans littleEndian_zeros
  have commentLength : wordAt 2 input (offset + 32) = 0 := (stands.word (by omega)).trans littleEndian_zeros
  have next : recordEnd input offset = offset + (centralRecord place part).length := by
    rw [recordEnd, nameLength, extraLength, commentLength, length]
    omega
  have named := stands.append.2
  constructor
  case room => rw [next]; exact room
  case next => exact next
  case signature => exact first
  case flag => exact (stands.word (by omega)).trans littleEndian_zeros
  case method => exact (stands.word (by omega)).trans littleEndian_zeros
  case crc => exact (stands.word (by omega)).trans (littleEndian_le32 fits.crc)
  case compressed => exact (stands.word (by omega)).trans (littleEndian_le32 body)
  case uncompressed => exact (stands.word (by omega)).trans (littleEndian_le32 body)
  case nameLength => exact nameLength
  case extraLength => exact extraLength
  case commentLength => exact commentLength
  case attributes => exact (stands.word (by omega)).trans (littleEndian_le32 (by decide : 0 < 2 ^ 32))
  case place => exact (stands.word (by omega)).trans (littleEndian_le32 reach)
  case name => exact named.take

/-- A part and the bytes of its body. -/
def encoded (part : String × String) : String × Bytes := (part.1, utf8 part.2)

theorem CentralWords.stored (central : CentralWords input offset place part) (header : LocalWords input place part)
    (named : isPartName part.1 = true) : StoredRecord input offset (encoded part) where
  room := central.room
  signature := central.signature
  flag := central.flag
  method := central.method
  compressed := central.compressed
  uncompressed := central.uncompressed
  named := named
  name := by
    rw [central.nameLength]
    exact central.name
  extra := central.extraLength
  comment := central.commentLength
  within := by
    rw [central.place]
    exact header.room
  header := by
    rw [central.place]
    exact header.signature
  data := by
    rintro _ rfl
    rw [central.place, header.nameLength, header.extraLength]
    exact header.body

/-- The records of parts and their local headers stand in an archive. -/
structure PartsStand (input : Bytes) (offset place : Nat) (parts : List (String × String)) : Prop where
  locals : Stands input place (localRecords parts)
  central : Stands input offset (directory place parts)
  fits : ∀ part ∈ parts, Fits part
  named : ∀ part ∈ parts, isPartName part.1 = true

/-- The first of them and the others. -/
theorem PartsStand.uncons (stand : PartsStand input offset place (part :: parts)) (small : input.length < 2 ^ 32) :
    CentralWords input offset place part ∧ LocalWords input place part ∧
      PartsStand input (recordEnd input offset) (place + (localRecord part).length) parts := by
  rcases (localRecords_cons part parts ▸ stand.locals).append with ⟨localHere, localRest⟩
  rcases stand.central.append with ⟨centralHere, centralRest⟩
  have fits := stand.fits part (.head _)
  have header := localRecord_words localHere fits small
  have room := header.room
  have body : (utf8 part.2).length < 2 ^ 32 := by
    have length := congrArg List.length header.body
    rw [List.length_take, List.length_drop] at length
    omega
  have central := centralRecord_words centralHere fits body (by omega)
  refine ⟨central, header, ?_⟩
  constructor
  case locals => exact localRest
  case central =>
    rw [central.next]
    exact centralRest
  case fits => exact fun other mem => stand.fits other (.tail _ mem)
  case named => exact fun other mem => stand.named other (.tail _ mem)

theorem PartsStand.stored (small : input.length < 2 ^ 32) (stand : PartsStand input offset place parts) :
    StoredDirectory input offset (parts.map encoded) := by
  induction parts generalizing offset place with
  | nil => exact .nil offset
  | cons part parts ih =>
      rcases stand.uncons small with ⟨central, header, rest⟩
      exact .cons (central.stored header (stand.named part (.head _))) (ih rest)

end Records

/-! ### The end record

Readers look for the last place that carries the signature of the end record. That no later place does is a fact
about the bytes behind it: the count of entries, the size and the offset of the directory leave no room for a second
signature. -/

/-- No later place of an end record carries the signature: a count up to 500 has no such second byte, and the size and
the offset of a directory below 16 MiB end with a zero. -/
theorem endRecord_last {count size offset later : Nat} (few : count ≤ 500) (short : size < 2 ^ 24)
    (near : offset < 2 ^ 24) (after : 0 < later) : ¬endSignature <+: (endRecord count size offset).drop later := by
  have second : (UInt8.ofNat (count / 256)) = 0 ∨ (UInt8.ofNat (count / 256)) = 1 := by
    have : count / 256 = 0 ∨ count / 256 = 1 := by omega
    rcases this with zero | one
    · simp [zero]
    · simp [one]
  have sizeEnd : size / 16777216 = 0 := by omega
  have offsetEnd : offset / 16777216 = 0 := by omega
  intro starts
  have shorter := starts.length_le
  have within : later < 19 := by
    simp [endSignature, endRecord, le16, le32] at shorter
    omega
  simp only [endRecord, le16, le32, sizeEnd, offsetEnd, endSignature] at starts
  interval_cases later <;> simp at starts
  -- what is left are the places at which the count would hold the second byte of the signature
  all_goals rcases second with zero | one
  all_goals simp_all

section Written

variable {parts : List (String × String)} {maxBytes : Nat} {archive : Bytes}

/-- The place of the end record. -/
def endPlace (parts : List (String × String)) : Nat := (localRecords parts).length + (directory 0 parts).length

theorem Written.tail (written : Written parts maxBytes archive) :
    archive.drop (endPlace parts) =
      endRecord parts.length (directory 0 parts).length (localRecords parts).length := by
  rw [written.bytes, layout, endPlace, ← List.length_append, List.drop_left]

theorem Written.length_eq (written : Written parts maxBytes archive) : archive.length = endPlace parts + 22 := by
  have last := congrArg List.length written.tail
  have total : archive.length = endPlace parts + (endRecord parts.length (directory 0 parts).length
      (localRecords parts).length).length := by
    rw [written.bytes, layout, List.length_append, endPlace, List.length_append]
  rw [total]
  rfl

theorem Written.stands (written : Written parts maxBytes archive) :
    Stands archive (endPlace parts)
      (endRecord parts.length (directory 0 parts).length (localRecords parts).length) := by
  simp only [Stands, written.tail, List.prefix_rfl]

theorem Written.partsStand (written : Written parts maxBytes archive)
    (named : ∀ part ∈ parts, isPartName part.1 = true) : PartsStand archive (localRecords parts).length 0 parts := by
  have whole : Stands archive 0 (localRecords parts ++ directory 0 parts) :=
    ⟨_, written.bytes.symm⟩
  constructor
  case locals => exact whole.append.1
  case central =>
    have after := whole.append.2
    rwa [Nat.zero_add] at after
  case fits => exact written.fits
  case named => exact named

theorem Written.found (written : Written parts maxBytes archive) (few : parts.length ≤ 500)
    (small : archive.length < 2 ^ 24) : LastAt endSignature archive (endPlace parts) := by
  have length := written.length_eq
  constructor
  case here =>
    rw [written.tail]
    exact ⟨_, rfl⟩
  case last =>
    intro later after
    rcases Nat.exists_eq_add_of_lt after with ⟨between, rfl⟩
    rw [Nat.add_assoc, ← List.drop_drop, written.tail]
    apply endRecord_last few _ _ (Nat.succ_pos between)
    · unfold endPlace at length
      omega
    · unfold endPlace at length
      omega

/-- The words of the end record. -/
structure EndWords (parts : List (String × String)) (archive : Bytes) : Prop where
  disk : wordAt 2 archive (endPlace parts + 4) = 0
  start : wordAt 2 archive (endPlace parts + 6) = 0
  here : wordAt 2 archive (endPlace parts + 8) = parts.length
  total : wordAt 2 archive (endPlace parts + 10) = parts.length
  size : wordAt 4 archive (endPlace parts + 12) = (directory 0 parts).length
  offset : wordAt 4 archive (endPlace parts + 16) = (localRecords parts).length
  comment : wordAt 2 archive (endPlace parts + 20) = 0

theorem Written.endWords (written : Written parts maxBytes archive) (few : parts.length ≤ 500)
    (small : archive.length < 2 ^ 24) : EndWords parts archive := by
  have stands := written.stands
  have length := written.length_eq
  have wide : (endRecord parts.length (directory 0 parts).length (localRecords parts).length).length = 22 := rfl
  have count : parts.length < 2 ^ 16 := by omega
  unfold endPlace at length
  constructor
  case disk => exact (stands.word (by omega)).trans littleEndian_zeros
  case start => exact (stands.word (by omega)).trans littleEndian_zeros
  case here => exact (stands.word (by omega)).trans (littleEndian_le16 count)
  case total => exact (stands.word (by omega)).trans (littleEndian_le16 count)
  case size => exact (stands.word (by omega)).trans (littleEndian_le32 (by omega))
  case offset => exact (stands.word (by omega)).trans (littleEndian_le32 (by omega))
  case comment => exact (stands.word (by omega)).trans littleEndian_zeros

theorem Written.stored (written : Written parts maxBytes archive) (few : parts.length ≤ 500)
    (small : archive.length < 2 ^ 24) (named : ∀ part ∈ parts, isPartName part.1 = true) :
    StoredArchive archive (endPlace parts) (parts.map encoded) := by
  have words := written.endWords few small
  have length := written.length_eq
  have offset : offsetField archive (endPlace parts) = (localRecords parts).length := words.offset
  constructor
  case found => exact written.found few small
  case room => exact length.ge
  case disk => exact words.disk
  case start => exact words.start
  case here => rw [List.length_map, words.here]
  case total => rw [List.length_map, words.total]
  case few =>
    rw [List.length_map]
    omega
  case size => rw [offset, words.size, endPlace]
  case small =>
    rw [offset, zip64Marker]
    unfold endPlace at length
    omega
  case comment => rw [words.comment, length]
  case directory =>
    rw [offset]
    exact (written.partsStand named).stored (by omega)

end Written

/-! ### The engine reads the archive

The loop of the engine is run on the records one by one. `Ahead` carries what the checks of the next entry ask of
the entries before it: names that differ, lengths within what is left of the budgets, ranges that do not overlap. -/

theorem readChunks_total {limits : GuardLimits} {entry : ZipEntry} {chunks : List Bytes} {s : BodyState}
    (small : s.size + chunks.flatten.length ≤ limits.entryBytes)
    (bounded : s.expanded + chunks.flatten.length ≤ limits.expandedBytes)
    (ratio : s.size + chunks.flatten.length ≤ max entry.compressedSize 1 * limits.ratio) :
    chunks.foldlM (readChunk limits entry) s =
      .ok ⟨s.size + chunks.flatten.length, s.expanded + chunks.flatten.length, crc32 chunks.flatten s.crc,
        s.body ++ chunks.flatten⟩ := by
  induction chunks generalizing s with
  | nil =>
      simp only [List.flatten_nil, List.length_nil, Nat.add_zero, crc32_nil, List.append_nil]
      rfl
  | cons value chunks ih =>
      rw [List.flatten_cons, List.length_append] at small bounded ratio
      have step : readChunk limits entry s value =
          .ok ⟨s.size + value.length, s.expanded + value.length, crc32 value s.crc, s.body ++ value⟩ := by
        simp only [readChunk, bind_ok_iff, require_ok_iff, Bool.and_eq_true, decide_eq_true_eq]
        exact ⟨(), ⟨⟨by omega, by omega⟩, by omega⟩, rfl⟩
      rw [List.foldlM_cons, step]
      refine (ih (by simp only; omega) (by simp only; omega) (by simp only; omega)).trans ?_
      rw [List.flatten_cons, List.length_append, crc32_append, List.append_assoc, Nat.add_assoc, Nat.add_assoc]

/-- The loop over the entries can go on with parts whose local headers start at `place`. -/
structure Ahead (limits : GuardLimits) (place : Nat) (parts : List (String × String)) (s : PreflightState) : Prop where
  count : s.count + parts.length ≤ limits.entries
  expanded : s.expanded + (parts.map fun part => (utf8 part.2).length).sum ≤ limits.expandedBytes
  bodies : ∀ part ∈ parts, (utf8 part.2).length ≤ limits.entryBytes
  distinct : (s.result.map (·.1) ++ parts.map fun part => asciiLower part.1).Nodup
  before : ∀ interval ∈ s.intervals, interval.2 ≤ place

/-- The state behind a part. -/
def readPart (place : Nat) (part : String × String) (s : PreflightState) : PreflightState where
  result := s.result ++ [(asciiLower part.1, utf8 part.2)]
  expanded := s.expanded + (utf8 part.2).length
  count := s.count + 1
  intervals := s.intervals ++ [(place, place + (localRecord part).length)]

section Reading

variable {runtime : WorkbookRuntime} {input : Bytes} {limits : GuardLimits} {central place offset : Nat}
  {part : String × String} {parts : List (String × String)} {item : ZipItem} {items : List ZipItem}
  {s : PreflightState}

theorem Ahead.next (ahead : Ahead limits place (part :: parts) s) :
    Ahead limits (place + (localRecord part).length) parts (readPart place part s) := by
  have count := ahead.count
  have expanded := ahead.expanded
  rw [List.length_cons] at count
  rw [List.map_cons, List.sum_cons] at expanded
  constructor
  case count =>
    simp only [readPart]
    omega
  case expanded =>
    simp only [readPart]
    omega
  case bodies => exact fun other mem => ahead.bodies other (.tail _ mem)
  case distinct =>
    have distinct := ahead.distinct
    simpa [readPart] using distinct
  case before =>
    intro interval mem
    rcases List.mem_append.mp mem with earlier | here
    · exact (ahead.before interval earlier).trans (Nat.le_add_right _ _)
    · cases List.mem_singleton.mp here
      exact Nat.le_refl _

/-- What is reported of the entry of a part. -/
structure PartEntry (entry : ZipEntry) (place : Nat) (part : String × String) : Prop where
  name : entry.fileName = part.1
  flag : entry.generalPurposeBitFlag = 0
  method : entry.compressionMethod = 0
  crc : entry.crc32 = crc32 (utf8 part.2) 0
  compressed : entry.compressedSize = (utf8 part.2).length
  uncompressed : entry.uncompressedSize = (utf8 part.2).length
  plain : entry.extraFieldIds = []
  attributes : entry.externalFileAttributes = 0
  place : entry.relativeOffsetOfLocalHeader = place

theorem CentralWords.entry (words : CentralWords input offset place part)
    (record : CentralRecord input offset item.entry) (name : item.entry.fileName = part.1)
    (plain : item.entry.extraFieldIds = []) : PartEntry item.entry place part := by
  have once : 1 ∉ item.entry.extraFieldIds := by
    rw [plain]
    exact List.not_mem_nil
  exact
    { name := name
      flag := record.flag.trans words.flag
      method := record.method.trans words.method
      crc := record.crc.trans words.crc
      compressed := (record.compressed once).trans words.compressed
      uncompressed := (record.uncompressed once).trans words.uncompressed
      plain := plain
      attributes := record.attributes.trans words.attributes
      place := (record.place once).trans words.place }

theorem checkLocalHeader_written (entry : PartEntry item.entry place part) (header : LocalWords input place part)
    (ahead : Ahead limits place (part :: parts) s) (ends : place + (localRecord part).length ≤ central) :
    checkLocalHeader input central s.intervals item.entry = .ok (place, place + (localRecord part).length) := by
  have room := header.room
  have stop : place + 30 + (utf8 part.1).length + 0 + (utf8 part.2).length = place + (localRecord part).length := by
    rw [localRecord_length]
    omega
  have disjoint : ∀ interval ∈ s.intervals,
      ¬(place < interval.2 ∧ interval.1 < place + (localRecord part).length) := by
    intro interval mem
    have earlier := ahead.before interval mem
    omega
  have masked : Nat.land 0 8 = 0 := rfl
  simp only [checkLocalHeader, entry.place, entry.flag, entry.method, entry.crc, entry.compressed, entry.uncompressed,
    entry.name, masked, if_true, bind_ok_iff, require_ok_iff, readUInt16LE_ok_iff, readUInt32LE_ok_iff,
    Bool.and_eq_true, decide_eq_true_eq, Bool.not_eq_true', List.any_eq_false]
  refine ⟨(), room, _, ⟨by omega, header.signature.symm⟩, _, ⟨by omega, header.flag.symm⟩, _,
    ⟨by omega, header.method.symm⟩, (), ⟨⟨rfl, rfl⟩, rfl⟩, _, ⟨by omega, header.nameLength.symm⟩, _,
    ⟨by omega, header.extraLength.symm⟩, (), ⟨⟨header.name, ?_⟩, ?_⟩, _, ⟨by omega, header.crc.symm⟩, _,
    ⟨by omega, header.compressed.symm⟩, _, ⟨by omega, header.uncompressed.symm⟩, (), ⟨⟨rfl, rfl⟩, rfl⟩, ?_⟩
  · rw [stop]
    exact ends
  · rw [stop]
    exact disjoint
  · rw [stop]
    rfl

theorem preflightEntry_written (lowers : LowersAscii runtime.toLowerCase) (wide : 1 ≤ limits.ratio)
    (entry : PartEntry item.entry place part) (header : LocalWords input place part)
    (named : isPartName part.1 = true) {stream : ZipStream} (opened : item.stream = some stream)
    (complete : stream.complete = true) (data : stream.chunks.flatten = utf8 part.2)
    (ahead : Ahead limits place (part :: parts) s) (ends : place + (localRecord part).length ≤ central) :
    preflightEntry runtime input limits central s item = .ok (readPart place part s) := by
  have count := ahead.count
  have expanded := ahead.expanded
  have small := ahead.bodies part (.head _)
  rw [List.length_cons] at count
  rw [List.map_cons, List.sum_cons] at expanded
  have ratio : (utf8 part.2).length ≤ max (utf8 part.2).length 1 * limits.ratio :=
    (Nat.le_max_left _ _).trans (Nat.le_mul_of_pos_right _ wide)
  have fresh : s.result.has (asciiLower part.1) = false := by
    apply Parts.has_eq_false_iff.mpr
    intro earlier
    exact List.disjoint_of_nodup_append ahead.distinct earlier (.head _)
  have body : stream.chunks.foldlM (readChunk limits item.entry) { expanded := s.expanded } =
      .ok ⟨(utf8 part.2).length, s.expanded + (utf8 part.2).length, crc32 (utf8 part.2) 0, utf8 part.2⟩ := by
    rw [← data] at small expanded ratio ⊢
    rw [readChunks_total (by simpa using small) (by simp only; omega) (by rw [entry.compressed, ← data]; simpa using ratio)]
    simp
  simp only [preflightEntry, entry.name, lowers _ named, bind_ok_iff, require_ok_iff, orFail_ok_iff, entry.flag,
    entry.method, entry.crc, entry.compressed, entry.uncompressed, entry.plain, entry.attributes, Bool.and_eq_true,
    decide_eq_true_eq, Bool.not_eq_true']
  refine ⟨(), ⟨⟨⟨by omega, small⟩, by omega⟩, ratio⟩, (), ⟨⟨⟨⟨⟨named, fresh⟩, rfl⟩, rfl⟩, rfl⟩, by decide⟩, _,
    checkLocalHeader_written entry header ahead ends, stream, opened, _, body, (), complete, (), ⟨rfl, rfl⟩, rfl⟩

/-- What the engine reads of a part. -/
def lowered (part : String × String) : String × Bytes := (asciiLower part.1, utf8 part.2)

theorem preflightEntries_written (lowers : LowersAscii runtime.toLowerCase) (wide : 1 ≤ limits.ratio)
    (small : input.length < 2 ^ 32) (stand : PartsStand input offset place parts)
    (reported : ItemsRead input offset (parts.map encoded) items) (ahead : Ahead limits place parts s)
    (ends : place + (localRecords parts).length ≤ central) :
    ∃ s', items.foldlM (preflightEntry runtime input limits central) s = .ok s' ∧
      s'.result = s.result ++ parts.map lowered := by
  induction parts generalizing offset place s items with
  | nil =>
      cases reported
      exact ⟨s, rfl, (List.append_nil _).symm⟩
  | cons part parts ih =>
      have named := stand.named part (.head _)
      rcases stand.uncons small with ⟨words, header, further⟩
      rw [localRecords_cons, List.length_append] at ends
      cases reported with
      | @cons _ _ _ item items stream record name plain opened complete data rest =>
          have step : preflightEntry runtime input limits central s item = .ok (readPart place part s) :=
            preflightEntry_written lowers wide (words.entry record name plain) header named opened complete data ahead
              (by omega)
          rcases ih further rest ahead.next (by omega) with ⟨s', read, result⟩
          refine ⟨s', ?_, ?_⟩
          · rw [List.foldlM_cons, step]
            exact read
          · rw [result, readPart, List.append_assoc]
            rfl

end Reading

/-! ### The agreement -/

/-- The conditions on the parts: as many as an archive may have, names of parts that differ also without their case,
the three parts that every workbook has, and bodies within the limit of an entry. -/
structure WorkbookParts (limits : GuardLimits) (parts : List (String × String)) : Prop where
  few : parts.length ≤ limits.entries
  named : ∀ part ∈ parts, isPartName part.1 = true
  distinct : (parts.map fun part => asciiLower part.1).Nodup
  contentTypes : "[Content_Types].xml" ∈ parts.map (·.1)
  workbook : "xl/workbook.xml" ∈ parts.map (·.1)
  relationships : "xl/_rels/workbook.xml.rels" ∈ parts.map (·.1)
  bodies : ∀ part ∈ parts, (utf8 part.2).length ≤ limits.entryBytes

section Agreement

variable {parts : List (String × String)} {archive : Bytes}

theorem has_lowered {name lower : String} (mem : name ∈ parts.map (·.1)) (same : asciiLower name = lower) :
    Parts.has (parts.map lowered) lower = true := by
  by_contra missing
  rw [Bool.not_eq_true, Parts.has_eq_false_iff] at missing
  apply missing
  subst same
  rcases List.mem_map.mp mem with ⟨part, held, rfl⟩
  rw [List.map_map]
  exact List.mem_map.mpr ⟨part, held, rfl⟩

/-- The bodies are part of the archive. -/
theorem bodies_le (parts : List (String × String)) :
    (parts.map fun part => (utf8 part.2).length).sum ≤ (localRecords parts).length := by
  induction parts with
  | nil => exact Nat.zero_le _
  | cons part parts ih =>
      rw [List.map_cons, List.sum_cons, localRecords_cons, List.length_append, localRecord_length]
      omega

theorem Written.small (written : Written parts ({} : GuardLimits).compressedBytes archive) :
    archive.length < 2 ^ 24 := written.length.trans_lt (by decide)

theorem preflight_written {runtime : WorkbookRuntime} (reads : ReadsStored runtime.yauzl)
    (lowers : LowersAscii runtime.toLowerCase) (admitted : WorkbookParts {} parts)
    (written : Written parts ({} : GuardLimits).compressedBytes archive) :
    preflight runtime archive {} = .ok (parts.map lowered) := by
  have small := written.small
  have few := admitted.few
  have length := written.length_eq
  have words := written.endWords few small
  have stored := written.stored few small admitted.named
  have offset : offsetField archive (endPlace parts) = (localRecords parts).length := words.offset
  have place : lastIndexOf [0x50, 0x4b, 0x05, 0x06] archive = some (endPlace parts) :=
    (lastIndexOf_eq_some_iff (by decide)).mpr (written.found few small)
  rcases reads archive (endPlace parts) _ stored with ⟨zip, opened, complete, reported⟩
  rw [offset] at reported
  have ahead : Ahead {} 0 parts {} :=
    { count := (Nat.zero_add _).trans_le few
      expanded := by
        have bodies := bodies_le parts
        unfold endPlace at length
        have budget : 2 ^ 24 ≤ ({} : GuardLimits).expandedBytes := by decide
        simp only [Nat.zero_add]
        omega
      bodies := admitted.bodies
      distinct := admitted.distinct
      before := by
        intro interval mem
        cases mem }
  rcases preflightEntries_written lowers (by decide) (by omega) (written.partsStand admitted.named) reported ahead
    (Nat.zero_add _).le with ⟨s, read, result⟩
  simp only [preflight, preflightEntries, bind_ok_iff, require_ok_iff, orFail_ok_iff, mapError_ok_iff,
    readUInt16LE_ok_iff, readUInt32LE_ok_iff, Bool.and_eq_true, decide_eq_true_eq]
  refine ⟨(), written.length, endPlace parts, place, (), length.ge, _, ⟨by omega, words.disk.symm⟩, _,
    ⟨by omega, words.start.symm⟩, _, ⟨by omega, words.here.symm⟩, _, ⟨by omega, words.total.symm⟩, _,
    ⟨by omega, words.offset.symm⟩, _, ⟨by omega, words.comment.symm⟩, (), ⟨⟨⟨⟨rfl, rfl⟩, rfl⟩, length.symm⟩, ?_⟩,
    zip, opened, parts.map lowered, ⟨s, read, (), complete, ?_⟩, (), ⟨⟨?_, ?_⟩, ?_⟩, rfl⟩
  · have bound : ({} : GuardLimits).entries = 500 := rfl
    omega
  · rw [result]
    rfl
  · exact has_lowered admitted.contentTypes (by decide +kernel)
  · exact has_lowered admitted.workbook (by decide +kernel)
  · exact has_lowered admitted.relationships (by decide +kernel)

/-! ### The check of uploads accepts the archive -/

theorem PartsStand.walk {files : FileRuntime} (decodes : ∀ text, files.toString (utf8 text) = text)
    {offset place eocdOffset : Nat} (small : archive.length < 2 ^ 32) (stand : PartsStand archive offset place parts)
    (before : offset + (directory place parts).length ≤ eocdOffset) :
    CentralWalk files archive eocdOffset parts.length offset (offset + (directory place parts).length)
      (parts.map (·.1)) := by
  induction parts generalizing offset place with
  | nil => exact .nil offset
  | cons part parts ih =>
      rcases stand.uncons small with ⟨words, _, further⟩
      rw [directory, List.length_append] at before ⊢
      have next := words.next
      have length := centralRecord_length place part
      have name : files.toString ((archive.drop (offset + 46)).take (wordAt 2 archive (offset + 28))) = part.1 := by
        rw [words.nameLength, words.name, decodes]
      have rest := ih further (by omega)
      rw [next, Nat.add_assoc] at rest
      rw [List.map_cons, ← name]
      exact .cons (by omega) words.signature (next.symm.trans rfl) (by omega) rest

theorem two_parts {one two : String} (first : one ∈ parts.map (·.1)) (second : two ∈ parts.map (·.1))
    (differ : one ≠ two) : 2 ≤ parts.length := by
  match parts with
  | [] => cases first
  | [part] =>
      rw [List.map_singleton, List.mem_singleton] at first second
      exact absurd (first.trans second.symm) differ
  | _ :: _ :: _ => exact Nat.le_add_left 2 _

theorem validateXlsx_written {files : FileRuntime} (decodes : ∀ text, files.toString (utf8 text) = text)
    (admitted : WorkbookParts {} parts) (written : Written parts ({} : GuardLimits).compressedBytes archive) :
    validateXlsx files archive = .ok () := by
  have small := written.small
  have length := written.length_eq
  have words := written.endWords admitted.few small
  have stand := written.partsStand admitted.named
  apply validateXlsx_ok_iff.mpr
  refine ⟨endPlace parts, parts.map (·.1), ?_⟩
  constructor
  case starts =>
    rcases List.mem_map.mp admitted.contentTypes with ⟨part, mem, _⟩
    rw [written.bytes]
    cases parts with
    | nil => cases mem
    | cons first rest => rfl
  case found => exact written.found admitted.few small
  case near => omega
  case room => exact length.ge
  case entries =>
    rw [words.total]
    exact two_parts admitted.contentTypes admitted.workbook (by decide)
  case inside =>
    rw [words.offset]
    unfold endPlace at length
    omega
  case before => rw [words.offset, words.size, endPlace]
  case walk =>
    rw [words.offset, words.size, words.total]
    exact stand.walk decodes (by omega) (Nat.le_refl _)
  case contentTypes => exact admitted.contentTypes
  case workbook => exact admitted.workbook

end Agreement

/-- Whatever the parts of a workbook within the default limits: an archive that the writer returns under a limit up to
the one of the engine is read by the engine as the lower-cased names with the bytes of the bodies, and accepted as an
upload. -/
theorem archive_agreement {runtime : WorkbookRuntime} {files : FileRuntime} (reads : ReadsStored runtime.yauzl)
    (lowers : LowersAscii runtime.toLowerCase) (decodes : ∀ text, files.toString (utf8 text) = text)
    {parts : List (String × String)} {archive : Bytes} {maxBytes : Nat} (admitted : WorkbookParts {} parts)
    (within : maxBytes ≤ ({} : GuardLimits).compressedBytes) (returned : writeXlsx parts maxBytes = .ok archive) :
    preflight runtime archive {} = .ok (parts.map fun part => (asciiLower part.1, utf8 part.2)) ∧
      validateXlsx files archive = .ok () := by
  have written := (writeXlsx_ok returned).mono within
  constructor
  · exact preflight_written reads lowers admitted written
  · exact validateXlsx_written decodes admitted written

/-- `toString` of a buffer on a platform whose other text operations are not used. -/
def plainFiles : FileRuntime where
  normalizeNFC := id
  toLowerCase := asciiLower
  toString := textOf
  decodeUtf8 bytes := String.fromUTF8? ⟨bytes.toArray⟩

/-- The smallest workbook. -/
theorem archive_agreement_small :
    preflight archiveRuntime smallArchive {} =
        .ok (smallParts.map fun part => (asciiLower part.1, utf8 part.2)) ∧
      validateXlsx plainFiles smallArchive = .ok () := by
  have admitted : WorkbookParts {} smallParts :=
    { few := by decide
      named := by decide +kernel
      distinct := by decide +kernel
      contentTypes := by decide
      workbook := by decide
      relationships := by decide
      bodies := by decide +kernel }
  have runtime : ReadsStored archiveRuntime.yauzl := storedReader_reads
  have returned : writeXlsx smallParts 1000 = .ok smallArchive := by decide +kernel
  exact archive_agreement runtime asciiLower_lowers textOf_utf8 admitted (by decide) returned

end DataVault.Workbook
