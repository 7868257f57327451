/-
Module: DataVault.Workbook.Preflight
Layer: Model
Purpose: The archive layer of the engine: reading the parts of a workbook within the limits and writing the
  canonical archive (sensitive-data-guard/workbook/xlsx-preflight.ts, sensitive-data-guard/workbook/write-xlsx.ts).
Imports: DataVault.Workbook.Runtime
Trusted boundary: human-reviewed spec
Main exports: Parts, preflight, writeXlsx
-/
import DataVault.Workbook.Runtime

namespace DataVault.Workbook

open DataVault.Control DataVault.Guard DataVault.Text

/-- The parts of an archive by their lower-cased names, in the order of the central directory. -/
abbrev Parts := List (String × Bytes)

namespace Parts

variable (parts : Parts)

def get (name : String) : Option Bytes := parts.lookup name

def has (name : String) : Bool := (parts.get name).isSome

end Parts

/-- What is no `ScanError` becomes one of `code`. -/
def WorkbookError.orScan (code : GuardErrorCode) : WorkbookError → WorkbookError
  | .scan thrown => .scan thrown
  | .other => .scan code

/-! ### Reading -/

/-- `/^[A-Za-z0-9_\-./[\]]+$/`, without empty, `.` and `..` segments. -/
def isPartName (name : String) : Bool :=
  !name.isEmpty && name.toList.all (fun c => c.isAlphanum || c = '_' || c = '-' || c = '.' || c = '/' || c = '[' || c = ']') &&
    (name.toList.splitOn '/').all fun segment => segment ≠ ['.'] && segment ≠ ['.', '.'] && segment ≠ []

structure PreflightState where
  result : Parts := []
  expanded : Nat := 0
  count : Nat := 0
  intervals : List (Nat × Nat) := []
deriving DecidableEq, Repr

/-- The counters of the loop over the chunks of one body. -/
structure BodyState where
  size : Nat := 0
  expanded : Nat
  crc : Nat := 0
  body : Bytes := []
deriving DecidableEq, Repr

/-- The body of that loop. -/
def readChunk (limits : GuardLimits) (entry : ZipEntry) (s : BodyState) (value : Bytes) :
    Except WorkbookError BodyState := do
  let size := s.size + value.length
  let expanded := s.expanded + value.length
  require (size ≤ limits.entryBytes && expanded ≤ limits.expandedBytes &&
    size ≤ max entry.compressedSize 1 * limits.ratio) limitExceeded
  pure ⟨size, expanded, crc32 value s.crc, s.body ++ value⟩

/-- The check of a local header against its central entry: the interval of its bytes. `central` is the offset of the
central directory in the end record. -/
def checkLocalHeader (input : Bytes) (central : Nat) (intervals : List (Nat × Nat)) (entry : ZipEntry) :
    Except WorkbookError (Nat × Nat) := do
  let offset := entry.relativeOffsetOfLocalHeader
  require (offset + 30 ≤ input.length) invalidWorkbook
  let signature ← readUInt32LE input offset
  let flag ← readUInt16LE input (offset + 6)
  let method ← readUInt16LE input (offset + 8)
  require (signature = 0x04034b50 && flag = entry.generalPurposeBitFlag && method = entry.compressionMethod)
    invalidWorkbook
  let nameLength ← readUInt16LE input (offset + 26)
  let extraLength ← readUInt16LE input (offset + 28)
  let dataEnd := offset + 30 + nameLength + extraLength + entry.compressedSize
  require ((input.drop (offset + 30)).take nameLength = utf8 entry.fileName && dataEnd ≤ central &&
    !intervals.any fun interval => offset < interval.2 && interval.1 < dataEnd) invalidWorkbook
  if Nat.land entry.generalPurposeBitFlag 8 = 0 then do
    let crc ← readUInt32LE input (offset + 14)
    let compressed ← readUInt32LE input (offset + 18)
    let uncompressed ← readUInt32LE input (offset + 22)
    require (crc = entry.crc32 && compressed = entry.compressedSize && uncompressed = entry.uncompressedSize)
      invalidWorkbook
    pure (offset, dataEnd)
  else pure (offset, dataEnd)

/-- The handler of `entry`. -/
def preflightEntry (runtime : WorkbookRuntime) (input : Bytes) (limits : GuardLimits) (central : Nat)
    (s : PreflightState) (item : ZipItem) : Except WorkbookError PreflightState := do
  let entry := item.entry
  let name := runtime.toLowerCase entry.fileName
  require (s.count + 1 ≤ limits.entries && entry.uncompressedSize ≤ limits.entryBytes &&
    s.expanded + entry.uncompressedSize ≤ limits.expandedBytes &&
    entry.uncompressedSize ≤ max entry.compressedSize 1 * limits.ratio) limitExceeded
  require (isPartName entry.fileName && !s.result.has name && Nat.land entry.generalPurposeBitFlag 0x41 = 0 &&
    (entry.compressionMethod = 0 || entry.compressionMethod = 8) && !entry.extraFieldIds.contains 1 &&
    Nat.land (entry.externalFileAttributes / 65536) 0xf000 ≠ 0xa000) invalidWorkbook
  let interval ← checkLocalHeader input central s.intervals entry
  let stream ← orFail item.stream invalidWorkbook
  let read ← stream.chunks.foldlM (readChunk limits entry) { expanded := s.expanded }
  require stream.complete .other
  require (read.size = entry.uncompressedSize && read.crc = entry.crc32) invalidWorkbook
  pure
    { result := s.result ++ [(name, read.body)]
      expanded := read.expanded
      count := s.count + 1
      intervals := s.intervals ++ [interval] }

/-- The loop over the entries of an archive. -/
def preflightEntries (runtime : WorkbookRuntime) (input : Bytes) (limits : GuardLimits) (central : Nat)
    (archive : ZipArchive) : Except WorkbookError Parts := do
  let read ← archive.items.foldlM (preflightEntry runtime input limits central) {}
  require archive.complete invalidWorkbook
  pure read.result

def preflight (runtime : WorkbookRuntime) (input : Bytes) (limits : GuardLimits) : Except WorkbookError Parts := do
  require (input.length ≤ limits.compressedBytes) limitExceeded
  let tail ← orFail (lastIndexOf [0x50, 0x4b, 0x05, 0x06] input) invalidWorkbook
  require (tail + 22 ≤ input.length) invalidWorkbook
  let disk ← readUInt16LE input (tail + 4)
  let start ← readUInt16LE input (tail + 6)
  let here ← readUInt16LE input (tail + 8)
  let total ← readUInt16LE input (tail + 10)
  let central ← readUInt32LE input (tail + 16)
  let comment ← readUInt16LE input (tail + 20)
  require (disk = 0 && start = 0 && here = total && tail + 22 + comment = input.length && total ≠ 0xffff)
    invalidWorkbook
  let archive ← orFail (runtime.yauzl input) invalidWorkbook
  let parts ← (preflightEntries runtime input limits central archive).mapError (.orScan .invalidWorkbook)
  require (parts.has "[content_types].xml" && parts.has "xl/workbook.xml" && parts.has "xl/_rels/workbook.xml.rels")
    invalidWorkbook
  pure parts

/-! ### Writing -/

/-- `writeUInt16LE`; a value that does not fit is a `RangeError`. -/
def writeUInt16LE (value : Nat) : Except WorkbookError Bytes :=
  if value < 2 ^ 16 then .ok [.ofNat value, .ofNat (value / 256)] else .error .other

/-- `writeUInt32LE`. -/
def writeUInt32LE (value : Nat) : Except WorkbookError Bytes :=
  if value < 2 ^ 32 then
    .ok [.ofNat value, .ofNat (value / 256), .ofNat (value / 65536), .ofNat (value / 16777216)]
  else .error .other

structure WriteState where
  locals : Bytes := []
  central : Bytes := []
deriving DecidableEq, Repr

/-- The body of the loop over the parts; the offset of a part is the length of what stands before it. -/
def writePart (maxBytes : Nat) (s : WriteState) (part : String × String) : Except WorkbookError WriteState := do
  let filename := utf8 part.1
  let body := utf8 part.2
  let offset := s.locals.length
  require (offset + filename.length + body.length + 30 ≤ maxBytes) limitExceeded
  let crc ← writeUInt32LE (crc32 body 0)
  let size ← writeUInt32LE body.length
  let nameLength ← writeUInt16LE filename.length
  let place ← writeUInt32LE offset
  pure
    { locals := s.locals ++ [0x50, 0x4b, 0x03, 0x04, 20, 0] ++ List.replicate 8 0 ++ crc ++ size ++ size ++
        nameLength ++ [0, 0] ++ filename ++ body
      central := s.central ++ [0x50, 0x4b, 0x01, 0x02, 20, 0, 20, 0] ++ List.replicate 8 0 ++ crc ++ size ++ size ++
        nameLength ++ List.replicate 12 0 ++ place ++ filename }

/-- `writeXlsx`: a stored archive without comments, timestamps or extra fields. -/
def writeXlsx (parts : List (String × String)) (maxBytes : Nat) : Except WorkbookError Bytes := do
  let written ← parts.foldlM (writePart maxBytes) {}
  let count ← writeUInt16LE parts.length
  let size ← writeUInt32LE written.central.length
  let offset ← writeUInt32LE written.locals.length
  require (written.locals.length + written.central.length + 22 ≤ maxBytes) limitExceeded
  pure (written.locals ++ written.central ++ [0x50, 0x4b, 0x05, 0x06, 0, 0, 0, 0] ++ count ++ count ++ size ++ offset ++
    [0, 0])

end DataVault.Workbook
