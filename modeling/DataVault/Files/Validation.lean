/-
Module: DataVault.Files.Validation
Layer: Model
Purpose: The checks of an uploaded file (files/file-validation.ts) and what an accepted XLSX archive looks like. Every
  read of a buffer can fail with a `RangeError`; the checks in front of the reads are those of the source.
Imports: DataVault.Guard.Entities, DataVault.Payments.Constants, DataVault.Workbook.Buffers
Trusted boundary: human-reviewed spec
Main exports: FileFailure, FileRuntime, UploadedCompanyFile, ValidatedCompanyFile, safeFilename, validateXlsx,
  validateCompanyFile, CentralWalk, XlsxArchive, xlsx_validation
-/
import DataVault.Guard.Entities
import DataVault.Payments.Constants
import DataVault.Workbook.Buffers

namespace DataVault.Files

open DataVault.Control DataVault.Guard DataVault.Payments DataVault.Workbook

/-- What the file service throws: exceptions with a message, the `RangeError` of a buffer, and errors of the database
driver with their labels. -/
inductive FileFailure where
  | service (failure : Failure)
  | payloadTooLarge (message : String)
  | rangeError
  | driver (errorLabels : List String)
deriving DecidableEq, Repr

abbrev badRequest (message : String) : FileFailure := .service (.badRequest message)

/-- The operations of the platform on text: `normalize('NFC')`, `toLowerCase`, `toString('utf8')` of a buffer and the
decoder that refuses what is no UTF-8. -/
structure FileRuntime where
  normalizeNFC : String → String
  toLowerCase : String → String
  toString : Bytes → String
  decodeUtf8 : Bytes → Option String

structure UploadedCompanyFile where
  originalname : String
  mimetype : String
  size : Nat
  buffer : Option Bytes
deriving DecidableEq, Repr

structure ValidatedCompanyFile where
  originalFilename : String
  fileType : CompanyFileType
  mimeType : String
  size : Nat
  buffer : Bytes
deriving DecidableEq, Repr

/-! ### Names and types -/

/-- The values of `CompanyFileType`. -/
def fileTypeOf (extension : String) : Option CompanyFileType :=
  if extension = "csv" then some .csv
  else if extension = "xls" then some .xls
  else if extension = "xlsx" then some .xlsx
  else none

/-- `MIME_TYPES` -/
def mimeTypes : CompanyFileType → List String
  | .csv => ["text/csv", "application/csv", "text/plain", "application/vnd.ms-excel"]
  | .xls => ["application/vnd.ms-excel"]
  | .xlsx => ["application/vnd.openxmlformats-officedocument.spreadsheetml.sheet"]

/-- `CANONICAL_MIME_TYPES` -/
def canonicalMimeType : CompanyFileType → String
  | .csv => "text/csv"
  | .xls => "application/vnd.ms-excel"
  | .xlsx => "application/vnd.openxmlformats-officedocument.spreadsheetml.sheet"

theorem canonicalMimeType_mem (fileType : CompanyFileType) : canonicalMimeType fileType ∈ mimeTypes fileType := by
  cases fileType <;> decide

/-- `trim()` -/
def trim (text : List Char) : List Char := ((text.dropWhile isSpace).reverse.dropWhile isSpace).reverse

def safeFilename (runtime : FileRuntime) (input : String) : Except FileFailure String := do
  let normalized := (runtime.normalizeNFC input).toList.map fun c => if c = '\\' then '/' else c
  let leaf := (normalized.splitOn '/').getLastD []
  let filename := String.ofList (trim (leaf.filter fun c => 32 ≤ c.toNat && c.toNat ≠ 127))
  require (!filename.isEmpty && filename ≠ "." && filename ≠ "..") (badRequest "Filename is invalid")
  require ((utf8 filename).length ≤ 255) (badRequest "Filename is too long")
  pure filename

/-- `extname` of a name without a slash, less its dot: what follows the last dot that is not the first character. -/
def extensionOf (filename : String) : String :=
  let tail := (filename.toList.reverse.takeWhile (· ≠ '.')).reverse
  if tail.length + 1 < filename.toList.length then String.ofList tail else ""

/-! ### Contents -/

/-- `buffer.includes` -/
def includes (buffer needle : Bytes) : Bool := (lastIndexOf needle buffer).isSome

/-- `Buffer.from(text, 'utf16le')` of ASCII text -/
def utf16le (text : String) : Bytes := text.toList.flatMap fun c => [.ofNat c.toNat, 0]

def uint16 (buffer : Bytes) (offset : Nat) : Except FileFailure Nat :=
  (readUInt16LE buffer offset).mapError fun _ => .rangeError

def uint32 (buffer : Bytes) (offset : Nat) : Except FileFailure Nat :=
  (readUInt32LE buffer offset).mapError fun _ => .rangeError

def validateCsv (runtime : FileRuntime) (buffer : Bytes) : Except FileFailure Unit := do
  let text ← orFail (runtime.decodeUtf8 buffer) (badRequest "CSV file must be valid UTF-8 text")
  let containsInvalidControl := text.toList.any fun c =>
    c.toNat < 32 && !(c.toNat = 9 || c.toNat = 10 || c.toNat = 13) || c.toNat = 127
  require (hasText text && !containsInvalidControl) (badRequest "CSV file content is invalid")

def xlsInvalid : FileFailure := badRequest "XLS file structure is invalid"

def validateXls (buffer : Bytes) : Except FileFailure Unit := do
  require (512 ≤ buffer.length && buffer.take 8 = [0xd0, 0xcf, 0x11, 0xe0, 0xa1, 0xb1, 0x1a, 0xe1]) xlsInvalid
  let byteOrder ← uint16 buffer 28
  require (byteOrder = 0xfffe) xlsInvalid
  let sectorShift ← uint16 buffer 30
  require (sectorShift = 9 || sectorShift = 12) xlsInvalid
  require (includes buffer (utf16le "Workbook\x00") || includes buffer (utf16le "Book\x00")) xlsInvalid

def xlsxInvalid : FileFailure := badRequest "XLSX file structure is invalid"

def eocdSignature : Bytes := [0x50, 0x4b, 0x05, 0x06]

/-- The loop over the central directory: where it ends and the names it has seen. -/
def centralNames (runtime : FileRuntime) (buffer : Bytes) (eocdOffset : Nat) :
    Nat → Nat → List String → Except FileFailure (Nat × List String)
  | 0, offset, names => pure (offset, names)
  | count + 1, offset, names => do
      require (offset + 46 ≤ eocdOffset) xlsxInvalid
      let signature ← uint32 buffer offset
      require (signature = 0x02014b50) xlsxInvalid
      let nameLength ← uint16 buffer (offset + 28)
      let extraLength ← uint16 buffer (offset + 30)
      let commentLength ← uint16 buffer (offset + 32)
      let nextOffset := offset + 46 + nameLength + extraLength + commentLength
      require (nextOffset ≤ eocdOffset) xlsxInvalid
      let name := runtime.toString ((buffer.drop (offset + 46)).take nameLength)
      centralNames runtime buffer eocdOffset count nextOffset (name :: names)

def validateXlsx (runtime : FileRuntime) (buffer : Bytes) : Except FileFailure Unit := do
  require (22 ≤ buffer.length && buffer.take 4 = [0x50, 0x4b, 0x03, 0x04]) xlsxInvalid
  let eocdOffset ← orFail (lastIndexOf eocdSignature buffer) xlsxInvalid
  require (buffer.length - 65557 ≤ eocdOffset && eocdOffset + 22 ≤ buffer.length) xlsxInvalid
  let entryCount ← uint16 buffer (eocdOffset + 10)
  let centralSize ← uint32 buffer (eocdOffset + 12)
  let centralOffset ← uint32 buffer (eocdOffset + 16)
  require (2 ≤ entryCount && centralOffset + centralSize ≤ eocdOffset && centralOffset < buffer.length) xlsxInvalid
  let (offset, names) ← centralNames runtime buffer eocdOffset entryCount centralOffset []
  require (offset = centralOffset + centralSize && names.contains "[Content_Types].xml" &&
    names.contains "xl/workbook.xml") xlsxInvalid

def validateCompanyFile (runtime : FileRuntime) (file : Option UploadedCompanyFile) (maxSizeBytes : Nat) :
    Except FileFailure ValidatedCompanyFile := do
  let file ← orFail file (badRequest "A non-empty file is required")
  let buffer ← orFail file.buffer (badRequest "A non-empty file is required")
  require (1 ≤ file.size && 1 ≤ buffer.length) (badRequest "A non-empty file is required")
  require (file.size = buffer.length) (badRequest "File size is invalid")
  require (file.size ≤ maxSizeBytes) (.payloadTooLarge "File exceeds the configured size limit")
  let originalFilename ← safeFilename runtime file.originalname
  let extension := runtime.toLowerCase (extensionOf originalFilename)
  let fileType ← orFail (fileTypeOf extension) (badRequest "Only CSV, XLS, and XLSX files are allowed")
  let suppliedMime := runtime.toLowerCase (String.ofList (trim file.mimetype.toList))
  require ((mimeTypes fileType).contains suppliedMime) (badRequest "File MIME type does not match its extension")
  match fileType with
  | .csv => validateCsv runtime buffer
  | .xls => validateXls buffer
  | .xlsx => validateXlsx runtime buffer
  pure
    { originalFilename := originalFilename
      fileType := fileType
      mimeType := canonicalMimeType fileType
      size := file.size
      buffer := buffer }

/-! ### What an accepted archive looks like -/

/-- A walk over `count` records of a central directory that ends before `eocdOffset`: each carries the signature, and
the next one stands behind its name, its extra field and its comment. -/
inductive CentralWalk (runtime : FileRuntime) (buffer : Bytes) (eocdOffset : Nat) :
    (count offset stop : Nat) → List String → Prop where
  | nil (offset : Nat) : CentralWalk runtime buffer eocdOffset 0 offset offset []
  | cons {count offset nextOffset stop : Nat} {names : List String} (room : offset + 46 ≤ eocdOffset)
      (signature : wordAt 4 buffer offset = 0x02014b50)
      (next : nextOffset = offset + 46 + wordAt 2 buffer (offset + 28) + wordAt 2 buffer (offset + 30) +
        wordAt 2 buffer (offset + 32))
      (stays : nextOffset ≤ eocdOffset)
      (rest : CentralWalk runtime buffer eocdOffset count nextOffset stop names) :
      CentralWalk runtime buffer eocdOffset (count + 1) offset stop
        (runtime.toString ((buffer.drop (offset + 46)).take (wordAt 2 buffer (offset + 28))) :: names)

/-- An archive with its end record at `eocdOffset` and these names in its central directory. -/
structure XlsxArchive (runtime : FileRuntime) (buffer : Bytes) (eocdOffset : Nat) (names : List String) : Prop where
  starts : buffer.take 4 = [0x50, 0x4b, 0x03, 0x04]
  found : LastAt eocdSignature buffer eocdOffset
  near : buffer.length ≤ eocdOffset + 65557
  room : eocdOffset + 22 ≤ buffer.length
  entries : 2 ≤ wordAt 2 buffer (eocdOffset + 10)
  inside : wordAt 4 buffer (eocdOffset + 16) < buffer.length
  before : wordAt 4 buffer (eocdOffset + 16) + wordAt 4 buffer (eocdOffset + 12) ≤ eocdOffset
  walk : CentralWalk runtime buffer eocdOffset (wordAt 2 buffer (eocdOffset + 10)) (wordAt 4 buffer (eocdOffset + 16))
    (wordAt 4 buffer (eocdOffset + 16) + wordAt 4 buffer (eocdOffset + 12)) names
  contentTypes : "[Content_Types].xml" ∈ names
  workbook : "xl/workbook.xml" ∈ names

section Reads

variable {runtime : FileRuntime} {buffer : Bytes} {eocdOffset offset : Nat}

theorem uint16_eq (room : offset + 2 ≤ buffer.length) : uint16 buffer offset = .ok (wordAt 2 buffer offset) := by
  rw [uint16, readUInt16LE_ok room]
  rfl

theorem uint32_eq (room : offset + 4 ≤ buffer.length) : uint32 buffer offset = .ok (wordAt 4 buffer offset) := by
  rw [uint32, readUInt32LE_ok room]
  rfl

/-- The loop with its reads carried out: behind its first check they are within the buffer. -/
theorem centralNames_succ (room : eocdOffset ≤ buffer.length) {count : Nat} {names : List String} :
    centralNames runtime buffer eocdOffset (count + 1) offset names = (do
      require (offset + 46 ≤ eocdOffset) xlsxInvalid
      require (wordAt 4 buffer offset = 0x02014b50) xlsxInvalid
      let nextOffset := offset + 46 + wordAt 2 buffer (offset + 28) + wordAt 2 buffer (offset + 30) +
        wordAt 2 buffer (offset + 32)
      require (nextOffset ≤ eocdOffset) xlsxInvalid
      let name := runtime.toString ((buffer.drop (offset + 46)).take (wordAt 2 buffer (offset + 28)))
      centralNames runtime buffer eocdOffset count nextOffset (name :: names)) := by
  by_cases fits : offset + 46 ≤ eocdOffset
  · rw [centralNames, uint32_eq (by omega), uint16_eq (by omega), uint16_eq (by omega), uint16_eq (by omega)]
    rfl
  · have refused : require (decide (offset + 46 ≤ eocdOffset)) xlsxInvalid = .error xlsxInvalid := by
      simp [require, fits]
    rw [centralNames, refused]
    rfl

theorem centralNames_ok_iff (room : eocdOffset ≤ buffer.length) :
    ∀ {count offset stop : Nat} {names found : List String},
      centralNames runtime buffer eocdOffset count offset names = .ok (stop, found) ↔
        ∃ walked, CentralWalk runtime buffer eocdOffset count offset stop walked ∧ found = walked.reverse ++ names
  | 0, offset, stop, names, found => by
      constructor
      · intro done
        cases done
        exact ⟨[], .nil offset, rfl⟩
      · rintro ⟨walked, walk, rfl⟩
        cases walk
        rfl
  | count + 1, offset, stop, names, found => by
      rw [centralNames_succ room]
      simp only [bind_ok_iff, require_ok_iff, decide_eq_true_eq, centralNames_ok_iff room]
      constructor
      · rintro ⟨_, fits, _, signature, _, stays, walked, walk, rfl⟩
        exact ⟨_, .cons fits signature rfl stays walk, by simp⟩
      · rintro ⟨walked, walk, rfl⟩
        cases walk with
        | cons fits signature next stays rest =>
            subst next
            exact ⟨(), fits, (), signature, (), stays, _, rest, by simp⟩

theorem centralNames_ne_error (room : eocdOffset ≤ buffer.length) {failure : FileFailure}
    (differs : xlsxInvalid ≠ failure) :
    ∀ {count offset : Nat} {names : List String},
      centralNames runtime buffer eocdOffset count offset names ≠ .error failure
  | 0, _, _ => nofun
  | count + 1, _, _ => by
      rw [centralNames_succ room]
      refine bind_ne_error (require_ne_error differs) fun _ _ => ?_
      refine bind_ne_error (require_ne_error differs) fun _ _ => ?_
      exact bind_ne_error (require_ne_error differs) fun _ _ => centralNames_ne_error room differs

/-- What is left to check once the end record is found: its three fields are within the buffer. -/
def checkDirectory (runtime : FileRuntime) (buffer : Bytes) (eocdOffset : Nat) : Except FileFailure Unit := do
  let centralSize := wordAt 4 buffer (eocdOffset + 12)
  let centralOffset := wordAt 4 buffer (eocdOffset + 16)
  require (2 ≤ wordAt 2 buffer (eocdOffset + 10) && centralOffset + centralSize ≤ eocdOffset &&
    centralOffset < buffer.length) xlsxInvalid
  let (offset, names) ← centralNames runtime buffer eocdOffset (wordAt 2 buffer (eocdOffset + 10)) centralOffset []
  require (offset = centralOffset + centralSize && names.contains "[Content_Types].xml" &&
    names.contains "xl/workbook.xml") xlsxInvalid

theorem validateXlsx_eq :
    validateXlsx runtime buffer = (do
      require (22 ≤ buffer.length && buffer.take 4 = [0x50, 0x4b, 0x03, 0x04]) xlsxInvalid
      let eocdOffset ← orFail (lastIndexOf eocdSignature buffer) xlsxInvalid
      require (buffer.length - 65557 ≤ eocdOffset && eocdOffset + 22 ≤ buffer.length) xlsxInvalid
      checkDirectory runtime buffer eocdOffset) := by
  unfold validateXlsx
  refine bind_congr fun _ => bind_congr fun eocdOffset => ?_
  by_cases room : eocdOffset + 22 ≤ buffer.length
  · rw [uint16_eq (by omega), uint32_eq (by omega), uint32_eq (by omega)]
    rfl
  · have refused : require (decide (buffer.length - 65557 ≤ eocdOffset) && decide (eocdOffset + 22 ≤ buffer.length))
        xlsxInvalid = .error xlsxInvalid := by
      simp [require, room]
    rw [refused]
    rfl

end Reads

theorem validateXlsx_ok_iff {runtime : FileRuntime} {buffer : Bytes} :
    validateXlsx runtime buffer = .ok () ↔ ∃ eocdOffset names, XlsxArchive runtime buffer eocdOffset names := by
  rw [validateXlsx_eq]
  simp only [checkDirectory, bind_ok_iff, require_ok_iff, orFail_ok_iff, Bool.and_eq_true, decide_eq_true_eq,
    lastIndexOf_eq_some_iff (show eocdSignature ≠ [] by decide), Prod.exists]
  constructor
  · rintro ⟨_, ⟨_, starts⟩, eocdOffset, found, _, ⟨near, room⟩, _, ⟨⟨entries, before⟩, inside⟩, stop, names, walked,
      ⟨rfl, contentTypes⟩, workbook⟩
    obtain ⟨names, walk, rfl⟩ := (centralNames_ok_iff (by omega)).mp walked
    exact ⟨eocdOffset, names,
      { starts := starts
        found := found
        near := by omega
        room := room
        entries := entries
        inside := inside
        before := before
        walk := walk
        contentTypes := by simpa using contentTypes
        workbook := by simpa using workbook }⟩
  · rintro ⟨eocdOffset, names, archive⟩
    have near := archive.near
    have room := archive.room
    refine ⟨(), ⟨by omega, archive.starts⟩, eocdOffset, archive.found, (), ⟨by omega, room⟩, (),
      ⟨⟨archive.entries, archive.before⟩, archive.inside⟩, _, names.reverse,
      (centralNames_ok_iff (by omega)).mpr ⟨names, archive.walk, (List.append_nil _).symm⟩, ⟨rfl, ?_⟩, ?_⟩
    · simpa using archive.contentTypes
    · simpa using archive.workbook

/-- `validateXlsx` returns exactly for the archives of `XlsxArchive` and fails in one way: no read leaves the buffer. -/
theorem xlsx_validation (runtime : FileRuntime) (buffer : Bytes) :
    (validateXlsx runtime buffer = .ok () ↔ ∃ eocdOffset names, XlsxArchive runtime buffer eocdOffset names) ∧
      ∀ failure, validateXlsx runtime buffer = .error failure → failure = badRequest "XLSX file structure is invalid" := by
  refine ⟨validateXlsx_ok_iff, fun failure failed => ?_⟩
  by_contra other
  have differs : xlsxInvalid ≠ failure := fun same => other same.symm
  refine absurd failed ?_
  rw [validateXlsx_eq]
  refine bind_ne_error (require_ne_error differs) fun _ _ => ?_
  refine bind_ne_error (orFail_ne_error differs) fun eocdOffset _ => ?_
  refine bind_ne_error (require_ne_error differs) fun _ within => ?_
  have room : eocdOffset + 22 ≤ buffer.length := by simp at within; omega
  refine bind_ne_error (require_ne_error differs) fun _ _ => ?_
  refine bind_ne_error (centralNames_ne_error (by omega) differs) fun _ _ => ?_
  exact require_ne_error differs

end DataVault.Files
