/-
Module: DataVault.Workbook.ZipReader
Layer: Abstract
Purpose: What the engine relies on of the ZIP reader: it reports the records of the central directory that it finds
  where the end record, or the ZIP64 end record, says, and it reads the archives that conform. A reader of stored
  archives that does so stands beside it, for runs on concrete archives.
Imports: DataVault.Workbook.Preflight, DataVault.Workbook.Buffers
Trusted boundary: human-reviewed spec
Main exports: endSignature, directoryOffset, CentralRecord, DirectoryWalk, ReportsDirectory, StoredArchive, ItemsRead,
  ReadsStored, LowersAscii, storedReader, storedReader_reports, storedReader_reads, archiveRuntime
-/
import DataVault.Workbook.Preflight
import DataVault.Workbook.Buffers

namespace DataVault.Workbook

open DataVault.Control DataVault.Guard DataVault.Text

/-! ### The central directory -/

/-- The signature of the end record. -/
def endSignature : Bytes := [0x50, 0x4b, 0x05, 0x06]

/-- The offset field of the end record at `tail`. -/
def offsetField (input : Bytes) (tail : Nat) : Nat := wordAt 4 input (tail + 16)

/-- The field stands for the one of the ZIP64 end record. -/
def zip64Marker : Nat := 0xffffffff

/-- The place of the ZIP64 end record, from the locator in front of the end record at `tail`. -/
def zip64End (input : Bytes) (tail : Nat) : Nat := wordAt 8 input (tail - 12)

/-- Where the central directory is read. -/
def directoryOffset (input : Bytes) (tail : Nat) : Nat :=
  if offsetField input tail = zip64Marker then wordAt 8 input (zip64End input tail + 48) else offsetField input tail

/-- The number of records that are read. -/
def directoryCount (input : Bytes) (tail : Nat) : Nat :=
  if offsetField input tail = zip64Marker then wordAt 8 input (zip64End input tail + 32)
  else wordAt 2 input (tail + 10)

/-- Where the record at `offset` ends: behind its name, its extra field and its comment. -/
def recordEnd (input : Bytes) (offset : Nat) : Nat :=
  offset + 46 + wordAt 2 input (offset + 28) + wordAt 2 input (offset + 30) + wordAt 2 input (offset + 32)

/-- An entry is what the record at `offset` says; a ZIP64 extra field (id 1) may replace its sizes and its offset. -/
structure CentralRecord (input : Bytes) (offset : Nat) (entry : ZipEntry) : Prop where
  signature : wordAt 4 input offset = 0x02014b50
  flag : entry.generalPurposeBitFlag = wordAt 2 input (offset + 8)
  method : entry.compressionMethod = wordAt 2 input (offset + 10)
  crc : entry.crc32 = wordAt 4 input (offset + 16)
  attributes : entry.externalFileAttributes = wordAt 4 input (offset + 38)
  compressed : 1 ∉ entry.extraFieldIds → entry.compressedSize = wordAt 4 input (offset + 20)
  uncompressed : 1 ∉ entry.extraFieldIds → entry.uncompressedSize = wordAt 4 input (offset + 24)
  place : 1 ∉ entry.extraFieldIds → entry.relativeOffsetOfLocalHeader = wordAt 4 input (offset + 42)

/-- Entries are the records that follow one another from an offset on. -/
inductive DirectoryWalk (input : Bytes) : Nat → List ZipEntry → Prop where
  | nil (offset : Nat) : DirectoryWalk input offset []
  | cons {offset : Nat} {entry : ZipEntry} {entries : List ZipEntry} (room : recordEnd input offset ≤ input.length)
      (record : CentralRecord input offset entry) (rest : DirectoryWalk input (recordEnd input offset) entries) :
      DirectoryWalk input offset (entry :: entries)

theorem DirectoryWalk.room {input : Bytes} {offset : Nat} {entries : List ZipEntry} {entry : ZipEntry}
    (walk : DirectoryWalk input offset entries) (mem : entry ∈ entries) : offset + 46 ≤ input.length := by
  cases walk with
  | nil => cases mem
  | cons room record rest =>
      unfold recordEnd at room
      omega

/-- The reader reports the central directory faithfully, where the last signature of an end record is followed by
room for one. -/
def ReportsDirectory (yauzl : Bytes → Option ZipArchive) : Prop :=
  ∀ input archive tail, yauzl input = some archive → LastAt endSignature input tail → tail + 22 ≤ input.length →
    DirectoryWalk input (directoryOffset input tail) (archive.items.map (·.entry))

/-! ### Archives of stored parts -/

/-- The record at `offset` and the local entry that it points to are those of a stored part, without an extra field
and without a comment. -/
structure StoredRecord (input : Bytes) (offset : Nat) (part : String × Bytes) : Prop where
  room : recordEnd input offset ≤ input.length
  signature : wordAt 4 input offset = 0x02014b50
  flag : wordAt 2 input (offset + 8) = 0
  method : wordAt 2 input (offset + 10) = 0
  compressed : wordAt 4 input (offset + 20) = part.2.length
  uncompressed : wordAt 4 input (offset + 24) = part.2.length
  named : isPartName part.1 = true
  name : (input.drop (offset + 46)).take (wordAt 2 input (offset + 28)) = utf8 part.1
  extra : wordAt 2 input (offset + 30) = 0
  comment : wordAt 2 input (offset + 32) = 0
  within : wordAt 4 input (offset + 42) + 30 ≤ input.length
  header : wordAt 4 input (wordAt 4 input (offset + 42)) = 0x04034b50
  data : ∀ place, place = wordAt 4 input (offset + 42) →
    (input.drop (place + 30 + wordAt 2 input (place + 26) + wordAt 2 input (place + 28))).take part.2.length = part.2

inductive StoredDirectory (input : Bytes) : Nat → List (String × Bytes) → Prop where
  | nil (offset : Nat) : StoredDirectory input offset []
  | cons {offset : Nat} {part : String × Bytes} {parts : List (String × Bytes)}
      (record : StoredRecord input offset part) (rest : StoredDirectory input (recordEnd input offset) parts) :
      StoredDirectory input offset (part :: parts)

/-- An archive with its end record at `tail`, its directory right in front of that, and nothing of ZIP64. -/
structure StoredArchive (input : Bytes) (tail : Nat) (parts : List (String × Bytes)) : Prop where
  found : LastAt endSignature input tail
  room : tail + 22 ≤ input.length
  disk : wordAt 2 input (tail + 4) = 0
  start : wordAt 2 input (tail + 6) = 0
  here : wordAt 2 input (tail + 8) = parts.length
  total : wordAt 2 input (tail + 10) = parts.length
  few : parts.length < 0xffff
  size : offsetField input tail + wordAt 4 input (tail + 12) = tail
  small : offsetField input tail < zip64Marker
  comment : tail + 22 + wordAt 2 input (tail + 20) = input.length
  directory : StoredDirectory input (offsetField input tail) parts

/-- What is reported of the parts of such an archive, from the record at an offset on. -/
inductive ItemsRead (input : Bytes) : Nat → List (String × Bytes) → List ZipItem → Prop where
  | nil (offset : Nat) : ItemsRead input offset [] []
  | cons {offset : Nat} {part : String × Bytes} {parts : List (String × Bytes)} {item : ZipItem} {items : List ZipItem}
      {stream : ZipStream} (record : CentralRecord input offset item.entry) (name : item.entry.fileName = part.1)
      (plain : item.entry.extraFieldIds = []) (opened : item.stream = some stream) (complete : stream.complete = true)
      (data : stream.chunks.flatten = part.2) (rest : ItemsRead input (recordEnd input offset) parts items) :
      ItemsRead input offset (part :: parts) (item :: items)

/-- The reader reads the archives of stored parts. -/
def ReadsStored (yauzl : Bytes → Option ZipArchive) : Prop :=
  ∀ input tail parts, StoredArchive input tail parts →
    ∃ archive, yauzl input = some archive ∧ archive.complete = true ∧
      ItemsRead input (offsetField input tail) parts archive.items

/-! ### Names -/

/-- The lower case of ASCII text. -/
def asciiLower (name : String) : String := String.ofList (name.toList.map Char.toLower)

/-- `toLowerCase` on the names of parts, which are ASCII. -/
def LowersAscii (toLowerCase : String → String) : Prop :=
  ∀ name, isPartName name = true → toLowerCase name = asciiLower name

/-! ### A reader of stored archives -/

/-- The text of UTF-8 bytes. -/
def textOf (bytes : Bytes) : String := (String.fromUTF8? ⟨bytes.toArray⟩).getD ""

/-- The entry that the record at `offset` describes, with its bytes in the archive. -/
def storedItem (input : Bytes) (offset : Nat) : ZipItem :=
  let place := wordAt 4 input (offset + 42)
  let start := place + 30 + wordAt 2 input (place + 26) + wordAt 2 input (place + 28)
  let size := wordAt 4 input (offset + 20)
  { entry :=
      { fileName := textOf ((input.drop (offset + 46)).take (wordAt 2 input (offset + 28)))
        generalPurposeBitFlag := wordAt 2 input (offset + 8)
        compressionMethod := wordAt 2 input (offset + 10)
        crc32 := wordAt 4 input (offset + 16)
        compressedSize := size
        uncompressedSize := wordAt 4 input (offset + 24)
        extraFieldIds := []
        externalFileAttributes := wordAt 4 input (offset + 38)
        relativeOffsetOfLocalHeader := place }
    stream := some ⟨[(input.drop start).take size], true⟩ }

/-- The records that follow one another from `offset` on; none may have an extra field. -/
def storedItems (input : Bytes) : Nat → Nat → Option (List ZipItem)
  | 0, _ => some []
  | count + 1, offset =>
      if recordEnd input offset ≤ input.length ∧ wordAt 4 input offset = 0x02014b50 ∧
          wordAt 2 input (offset + 30) = 0 then
        (storedItems input count (recordEnd input offset)).map (storedItem input offset :: ·)
      else none

def storedReader (input : Bytes) : Option ZipArchive :=
  match lastIndexOf endSignature input with
  | none => none
  | some tail => (storedItems input (directoryCount input tail) (directoryOffset input tail)).map (⟨·, true⟩)

theorem storedItem_record {input : Bytes} {offset : Nat} (signature : wordAt 4 input offset = 0x02014b50) :
    CentralRecord input offset (storedItem input offset).entry where
  signature := signature
  flag := rfl
  method := rfl
  crc := rfl
  attributes := rfl
  compressed _ := rfl
  uncompressed _ := rfl
  place _ := rfl

theorem storedItems_walk {input : Bytes} {items : List ZipItem} {count offset : Nat}
    (read : storedItems input count offset = some items) :
    DirectoryWalk input offset (items.map (·.entry)) := by
  induction count generalizing offset items with
  | zero =>
      cases read
      exact .nil offset
  | succ count ih =>
      rw [storedItems] at read
      split at read
      case isTrue holds =>
        rcases holds with ⟨room, signature, _⟩
        rcases Option.map_eq_some_iff.mp read with ⟨rest, followed, rfl⟩
        exact .cons room (storedItem_record signature) (ih followed)
      case isFalse =>
        cases read

theorem storedReader_reports : ReportsDirectory storedReader := by
  intro input archive tail read found _
  have place : lastIndexOf endSignature input = some tail :=
    (lastIndexOf_eq_some_iff (by decide)).mpr found
  rw [storedReader, place] at read
  rcases Option.map_eq_some_iff.mp read with ⟨items, followed, rfl⟩
  exact storedItems_walk followed

theorem textOf_utf8 (text : String) : textOf (utf8 text) = text := by
  have bytes : (⟨(utf8 text).toArray⟩ : ByteArray) = text.toUTF8 := by
    rw [utf8_eq, Array.toArray_toList]
  rw [textOf, bytes]
  simp only [String.fromUTF8?, String.toUTF8_eq_toByteArray, dif_pos text.isValidUTF8]
  rfl

theorem storedItems_read {input : Bytes} {offset : Nat} {parts : List (String × Bytes)}
    (directory : StoredDirectory input offset parts) :
    ∃ items, storedItems input parts.length offset = some items ∧ ItemsRead input offset parts items := by
  induction directory with
  | nil offset => exact ⟨[], rfl, .nil offset⟩
  | @cons offset part parts record rest ih =>
      rcases ih with ⟨items, read, reported⟩
      refine ⟨storedItem input offset :: items, ?_, ?_⟩
      · rw [List.length_cons, storedItems, if_pos ⟨record.room, record.signature, record.extra⟩, read, Option.map_some]
      · have name : (storedItem input offset).entry.fileName = part.1 := by
          simp only [storedItem, record.name, textOf_utf8]
        refine .cons (storedItem_record record.signature) name rfl rfl rfl ?_ reported
        rw [List.flatten_singleton, record.compressed]
        exact record.data _ rfl

theorem storedReader_reads : ReadsStored storedReader := by
  intro input tail parts archive
  have place : lastIndexOf endSignature input = some tail :=
    (lastIndexOf_eq_some_iff (by decide)).mpr archive.found
  have plain : offsetField input tail ≠ zip64Marker := Nat.ne_of_lt archive.small
  rcases storedItems_read archive.directory with ⟨items, read, reported⟩
  refine ⟨⟨items, true⟩, ?_, rfl, reported⟩
  have count : directoryCount input tail = parts.length := by
    rw [directoryCount, if_neg plain, archive.total]
  rw [storedReader, place]
  simp only [count, directoryOffset, if_neg plain, read, Option.map_some]

theorem asciiLower_lowers : LowersAscii asciiLower := fun _ _ => rfl

/-- A runtime for the archive layer alone; the parser of the parts rejects everything. -/
def archiveRuntime : WorkbookRuntime where
  yauzl := storedReader
  saxes _ := ⟨[], .rejected⟩
  isEmail _ := false
  isIP _ := false
  isIBAN _ := false
  isValidPhone _ _ := false
  isLetter := Char.isAlpha
  toLowerCase := asciiLower
  sha256 := List.length
  findingsDigest := List.length

end DataVault.Workbook
