/-
Module: DataVault.Runner.Protocol
Layer: Model
Purpose: The two ends of the pipe between the guard and its child process: `execute` of
  sensitive-data-guard/guard.runner.ts and `main` of sensitive-data-guard/scan-child.ts. The request is a line of JSON
  and the workbook behind it, the answer is JSON; both arrive in chunks. A field that a side leaves unchecked is read as
  what the other side writes. Timers, the abort signal and failures of the process are left out.
Imports: DataVault.Text.Base64, DataVault.Text.Hex, DataVault.Text.Json, DataVault.Text.Utf8, DataVault.Workbook.Sanitize
Trusted boundary: human-reviewed spec
Main exports: RunnerLimits, RunnerTask, frame, readOptions, child, RunnerAnswer, execute
-/
import DataVault.Text.Base64
import DataVault.Text.Hex
import DataVault.Text.Json
import DataVault.Text.Utf8
import DataVault.Workbook.Sanitize

namespace DataVault.Runner

open DataVault.Control DataVault.Guard DataVault.Text DataVault.Text.Hex DataVault.Workbook

/-! ### Constants -/

/-- `GuardLimits`, with `DEFAULT_LIMITS`. -/
structure RunnerLimits extends GuardLimits where
  durationMs : Nat := 30000
  ioMs : Nat := 15000
deriving DecidableEq, Repr

/-- `DEFAULT_LIMITS` -/
def defaultLimits : RunnerLimits := {}

/-- The keys of `DEFAULT_LIMITS`, in its order. -/
def limitFields : List (String × (RunnerLimits → Nat)) :=
  [("compressedBytes", (·.compressedBytes)), ("expandedBytes", (·.expandedBytes)), ("entryBytes", (·.entryBytes)),
    ("entries", (·.entries)), ("ratio", (·.ratio)), ("sheets", (·.sheets)), ("rows", (·.rows)),
    ("columns", (·.columns)), ("cells", (·.cells)), ("textBytes", (·.textBytes)), ("findings", (·.findings)),
    ("durationMs", (·.durationMs)), ("ioMs", (·.ioMs)), ("leaseMs", (·.leaseMs))]

/-- `CATEGORIES` -/
def categoryNames : List (String × Category) :=
  [("email", .email), ("phone", .phone), ("payment_card", .paymentCard), ("iban", .iban), ("ip", .ip)]

/-- `SAFE_ERRORS` -/
def errorNames : List (String × GuardErrorCode) :=
  [("guard_invalid_workbook", .invalidWorkbook), ("guard_limit_exceeded", .limitExceeded), ("guard_timeout", .timeout),
    ("guard_access_revoked", .accessRevoked), ("guard_storage_unavailable", .storageUnavailable),
    ("guard_worker_unavailable", .workerUnavailable), ("guard_internal_error", .internalError),
    ("guard_profile_unsupported", .profileUnsupported), ("guard_selection_invalid", .selectionInvalid),
    ("guard_source_changed", .sourceChanged), ("guard_output_verification_failed", .outputVerificationFailed),
    ("guard_quota_exceeded", .quotaExceeded)]

/-- `COMPATIBILITY_FLAGS` -/
def flagNames : List (String × CompatibilityFlag) :=
  [("cell_text_only", .cellTextOnly), ("metadata_not_scanned", .metadataNotScanned),
    ("unsupported_parts", .unsupportedParts), ("hyperlinks", .hyperlinks), ("defined_names", .definedNames),
    ("formulas", .formulas), ("unsupported_elements", .unsupportedElements), ("merged_cells", .mergedCells),
    ("unreferenced_shared_strings", .unreferencedSharedStrings)]

def evidenceNames : List (String × Evidence) :=
  [("format_valid", .formatValid), ("checksum_valid", .checksumValid)]

def coverageNames : List (String × Coverage) := [("supported", .supported), ("limited", .limited)]

section Names

variable {α : Type} [DecidableEq α]

/-- The name of a value. -/
def nameOf (names : List (String × α)) (value : α) : String :=
  ((names.find? fun entry => entry.2 = value).map (·.1)).getD ""

def nameJson (names : List (String × α)) (value : α) : Json := .string (nameOf names value)

/-- The value with a name, where `includes` holds. -/
def readName (names : List (String × α)) : Json → Option α
  | .string name => names.lookup name
  | _ => none

end Names

/-! ### Values -/

/-- A value that a condition takes for true. -/
def truthy : Json → Bool
  | .null | .bool false => false
  | .number value => value ≠ 0
  | .string text => text ≠ ""
  | _ => true

def readText : Json → Option String
  | .string text => some text
  | _ => none

def readBool : Json → Option Bool
  | .bool value => some value
  | _ => none

def readArray : Json → Option (List Json)
  | .array items => some items
  | _ => none

/-- `Number.isInteger(value)` with its bounds. -/
def readInteger (minimum maximum : Nat) : Json → Option Nat
  | .number value => if (minimum : Int) ≤ value ∧ value ≤ maximum then some value.toNat else none
  | _ => none

/-- A digest in hexadecimal digits. -/
def digestText (digest : Nat) : String := String.ofList (toHex 64 digest)

def readDigest (json : Json) : Option Nat := (readText json).bind fun text => fromHex text.toList

/-- `JSON.stringify(value)` in UTF-8 -/
def jsonBytes (value : Json) : Bytes := Utf8.encode (Json.render value)

/-- `JSON.parse(bytes.toString('utf8'))` -/
def readJson (bytes : Bytes) : Option Json := Json.parse (String.ofList (Utf8.StringDecoder.write [] bytes).1)

/-- The chunks of a stream while their length stays within a budget. -/
def readChunks (budget : Nat) (chunks : List Bytes) : Except GuardErrorCode Bytes :=
  chunks.foldlM (fun payload chunk =>
    if payload.length + chunk.length > budget then .error .limitExceeded else .ok (payload ++ chunk)) []

/-! ### Requests -/

/-- What `run` and `sanitize` are called with. -/
inductive RunnerTask where
  | scan (categories : List Category) (phoneRegion : Option String)
  | sanitize (options : SanitizationOptions)
deriving DecidableEq

namespace RunnerTask

def categories : RunnerTask → List Category
  | .scan categories _ => categories
  | .sanitize options => options.categories

def phoneRegion : RunnerTask → Option String
  | .scan _ phoneRegion => phoneRegion
  | .sanitize options => options.phoneRegion

def sanitization : RunnerTask → Option SanitizationOptions
  | .scan .. => none
  | .sanitize options => some options

end RunnerTask

def categoriesJson (categories : List Category) : Json := .array (categories.map (nameJson categoryNames))

/-- A field that `JSON.stringify` leaves out where it is `undefined`. -/
def optional (name : String) (value : Option Json) : List (String × Json) := (value.map fun value => (name, value)).toList

def limitsJson (limits : RunnerLimits) : Json :=
  .object (limitFields.map fun field => (field.1, .number (field.2 limits)))

def columnJson (column : RedactionColumn) : Json :=
  .object [("sheetIndex", .number column.sheetIndex), ("column", .number column.column),
    ("includeHeader", .bool column.includeHeader)]

def selectionJson (selection : RedactionSelection) : Json :=
  .object [("categories", categoriesJson selection.categories),
    ("columns", .array (selection.columns.map columnJson))]

def sanitizationJson (options : SanitizationOptions) : Json :=
  .object
    (("categories", categoriesJson options.categories) :: optional "phoneRegion" (options.phoneRegion.map .string) ++
      [("findingsDigest", .string (digestText options.findingsDigest)), ("selection", selectionJson options.selection)])

def requestJson (limits : RunnerLimits) (task : RunnerTask) : Json :=
  .object
    (("categories", categoriesJson task.categories) :: optional "phoneRegion" (task.phoneRegion.map .string) ++
      ("limits", limitsJson limits) :: optional "sanitization" (task.sanitization.map sanitizationJson))

/-- What is written to the child. -/
def frame (limits : RunnerLimits) (task : RunnerTask) (bytes : Bytes) : Bytes :=
  jsonBytes (requestJson limits task) ++ 10 :: bytes

/-! ### The child -/

/-- What the child goes on with. -/
structure ChildRequest where
  limits : RunnerLimits
  task : RunnerTask
  bytes : Bytes
deriving DecidableEq

/-- `Array.isArray(categories)` without a name that is not in `CATEGORIES`. -/
def readCategories (json : Json) : Option (List Category) :=
  (readArray json).bind fun items => items.mapM (readName categoryNames)

/-- One pass of the loop over `DEFAULT_LIMITS`. -/
def readLimit (json : Json) (name : String) (maximum : Nat) : Except GuardErrorCode Nat :=
  orFail ((json.field name).bind (readInteger 1 maximum)) .limitExceeded

def readLimits (json : Json) : Except GuardErrorCode RunnerLimits := do
  let compressedBytes ← readLimit json "compressedBytes" defaultLimits.compressedBytes
  let expandedBytes ← readLimit json "expandedBytes" defaultLimits.expandedBytes
  let entryBytes ← readLimit json "entryBytes" defaultLimits.entryBytes
  let entries ← readLimit json "entries" defaultLimits.entries
  let ratio ← readLimit json "ratio" defaultLimits.ratio
  let sheets ← readLimit json "sheets" defaultLimits.sheets
  let rows ← readLimit json "rows" defaultLimits.rows
  let columns ← readLimit json "columns" defaultLimits.columns
  let cells ← readLimit json "cells" defaultLimits.cells
  let textBytes ← readLimit json "textBytes" defaultLimits.textBytes
  let findings ← readLimit json "findings" defaultLimits.findings
  let durationMs ← readLimit json "durationMs" defaultLimits.durationMs
  let ioMs ← readLimit json "ioMs" defaultLimits.ioMs
  let leaseMs ← readLimit json "leaseMs" defaultLimits.leaseMs
  pure
    { compressedBytes := compressedBytes
      expandedBytes := expandedBytes
      entryBytes := entryBytes
      entries := entries
      ratio := ratio
      sheets := sheets
      rows := rows
      columns := columns
      cells := cells
      textBytes := textBytes
      findings := findings
      durationMs := durationMs
      ioMs := ioMs
      leaseMs := leaseMs }

/-- A column of a selection within the limits; `null` has no fields to check. -/
def readColumn (limits : RunnerLimits) : Json → Except GuardErrorCode RedactionColumn
  | .null => throw .invalidWorkbook
  | json => do
      let sheetIndex ← orFail ((json.field "sheetIndex").bind (readInteger 0 (limits.sheets - 1))) .selectionInvalid
      let column ← orFail ((json.field "column").bind (readInteger 1 limits.columns)) .selectionInvalid
      let includeHeader ← orFail ((json.field "includeHeader").bind readBool) .selectionInvalid
      pure ⟨sheetIndex, column, includeHeader⟩

/-- The checks of `options.sanitization.selection`. -/
def readSelection (limits : RunnerLimits) (categories : List Category) (json : Json) :
    Except GuardErrorCode RedactionSelection := do
  let selection ← orFail (json.field "selection") .selectionInvalid
  let selected ← orFail ((selection.field "categories").bind readCategories) .selectionInvalid
  require (selected.all categories.contains) .selectionInvalid
  let columns ← orFail ((selection.field "columns").bind readArray) .selectionInvalid
  require (columns.length ≤ 100) .selectionInvalid
  let columns ← columns.mapM (readColumn limits)
  pure ⟨selected, columns⟩

def readSanitization (limits : RunnerLimits) (categories : List Category) (json : Json) :
    Except GuardErrorCode SanitizationOptions := do
  let selection ← readSelection limits categories json
  let scanned ← orFail ((json.field "categories").bind readCategories) .invalidWorkbook
  let findingsDigest ← orFail ((json.field "findingsDigest").bind readDigest) .invalidWorkbook
  pure
    { selection := selection
      categories := scanned
      phoneRegion := (json.field "phoneRegion").bind readText
      findingsDigest := findingsDigest }

/-- The options in front of the workbook. -/
def readOptions (payload : Bytes) : Except GuardErrorCode ChildRequest := do
  let split ← orFail (payload.findIdx? (· = 10)) .invalidWorkbook
  require (split ≤ 16384) .invalidWorkbook
  let options ← orFail (readJson (payload.take split)) .invalidWorkbook
  let categories ← orFail ((options.field "categories").bind readCategories) .invalidWorkbook
  let limits ← orFail (options.field "limits") .invalidWorkbook
  let limits ← readLimits limits
  let task ←
    match (options.field "sanitization").filter truthy with
    | some sanitization => .sanitize <$> readSanitization limits categories sanitization
    | none => pure (.scan categories ((options.field "phoneRegion").bind readText))
  pure ⟨limits, task, payload.drop (split + 1)⟩

def findingJson (finding : SafeFinding) : Json :=
  .object [("ordinal", .number finding.ordinal), ("sheetIndex", .number finding.sheetIndex),
    ("row", .number finding.row), ("column", .number finding.column),
    ("category", nameJson categoryNames finding.category), ("evidence", nameJson evidenceNames finding.evidence),
    ("hidden", .bool finding.hidden)]

def resultJson (result : ScanResponse) : Json :=
  .object [("findings", .array (result.findings.map findingJson)), ("processedCells", .number result.processedCells),
    ("sheets", .number result.sheets),
    ("compatibilityFlags", .array (result.compatibilityFlags.map (nameJson flagNames))),
    ("coverage", nameJson coverageNames result.coverage)]

def outputJson (result : SanitizationResult) : Json :=
  .object [("outputBase64", .string (String.ofList (Base64.encode result.bytes))),
    ("redactedCells", .number result.redactedCells), ("outputDigest", .string (digestText result.outputDigest))]

/-- The code that the child reports for what it caught. -/
def errorCode : WorkbookError → GuardErrorCode
  | .scan code => code
  | .other => .invalidWorkbook

/-- The engines behind the options. -/
def answerJson (runtime : WorkbookRuntime) (request : ChildRequest) : Except GuardErrorCode Json :=
  match request.task with
  | .scan categories phoneRegion => do
      let result ← (scanWorkbook runtime request.bytes categories phoneRegion request.limits.toGuardLimits).mapError
        errorCode
      pure (.object [("result", resultJson result)])
  | .sanitize options => do
      let result ← (sanitizeWorkbook runtime request.bytes options request.limits.toGuardLimits).mapError errorCode
      pure (.object [("sanitization", outputJson result)])

/-- `main`: what it writes for what it reads. -/
def child (runtime : WorkbookRuntime) (chunks : List Bytes) : Bytes :=
  let answer := do
    let payload ← readChunks (defaultLimits.compressedBytes + 16384) chunks
    let request ← readOptions payload
    answerJson runtime request
  match answer with
  | .ok json => jsonBytes json
  | .error code => jsonBytes (.object [("errorCode", nameJson errorNames code)])

/-! ### The parent -/

/-- What the parent returns; the digest of an output is kept as it was received. -/
inductive RunnerAnswer where
  | scan (result : ScanResponse)
  | sanitization (bytes : Bytes) (redactedCells : Nat) (outputDigest : String)
deriving DecidableEq

/-- `Math.ceil((compressedBytes * 4) / 3) + 4096`, or two mebibytes. -/
def outputBudget (limits : RunnerLimits) : RunnerTask → Nat
  | .sanitize _ => (limits.compressedBytes * 4 + 2) / 3 + 4096
  | .scan .. => 2 * 1024 * 1024

/-- The checks of one finding. -/
def readFinding (limits : RunnerLimits) (categories : List Category) (sheets index : Nat) (json : Json) :
    Option SafeFinding := do
  let ordinal ← (json.field "ordinal").bind (readInteger index index)
  let sheetIndex ← (json.field "sheetIndex").bind (readInteger 0 (sheets - 1))
  let row ← (json.field "row").bind (readInteger 1 limits.rows)
  let column ← (json.field "column").bind (readInteger 1 limits.columns)
  let category ← (json.field "category").bind (readName categoryNames)
  let evidence ← (json.field "evidence").bind (readName evidenceNames)
  let hidden ← (json.field "hidden").bind readBool
  if categories.contains category then some ⟨ordinal, sheetIndex, row, column, category, evidence, hidden⟩ else none

/-- The checks of a scan's result. -/
def readResult (limits : RunnerLimits) (categories : List Category) (response : Json) : Option ScanResponse := do
  let result ← response.field "result"
  let findings ← (result.field "findings").bind readArray
  let processedCells ← (result.field "processedCells").bind (readInteger 0 limits.cells)
  let sheets ← (result.field "sheets").bind (readInteger 1 limits.sheets)
  let coverage ← (result.field "coverage").bind (readName coverageNames)
  let flags ← (result.field "compatibilityFlags").bind readArray
  let compatibilityFlags ← flags.mapM (readName flagNames)
  let findings' ← findings.zipIdx.mapM fun entry => readFinding limits categories sheets entry.2 entry.1
  if findings.length ≤ limits.findings && coverage = .limited && flags.length ≤ flagNames.length then
    some ⟨findings', processedCells, sheets, compatibilityFlags, coverage⟩
  else none

/-- The checks of a sanitized output. -/
def readOutput (sha256 : Bytes → Nat) (limits : RunnerLimits) (response : Json) : Option RunnerAnswer := do
  let generated ← response.field "sanitization"
  let outputBase64 ← (generated.field "outputBase64").bind readText
  if Base64.isBase64 outputBase64.toList then
    let output := Base64.decode outputBase64.toList
    let redactedCells ← (generated.field "redactedCells").bind (readInteger 1 limits.cells)
    let outputDigest ← (generated.field "outputDigest").bind readText
    if 1 ≤ output.length && output.length ≤ limits.compressedBytes && digestText (sha256 output) = outputDigest then
      some (.sanitization output redactedCells outputDigest)
    else none
  else none

/-- The handler of `close`, after an exit without an error. -/
def readAnswer (sha256 : Bytes → Nat) (limits : RunnerLimits) (task : RunnerTask) (output : Bytes) :
    Except GuardErrorCode RunnerAnswer := do
  let response ← orFail (readJson output) .invalidWorkbook
  match (response.field "errorCode").filter truthy with
  | some code => throw ((readName errorNames code).getD .invalidWorkbook)
  | none =>
      match task with
      | .sanitize _ => orFail (readOutput sha256 limits response) .invalidWorkbook
      | .scan categories _ => orFail ((readResult limits categories response).map .scan) .invalidWorkbook

/-- `execute`, from what the child writes on. -/
def execute (sha256 : Bytes → Nat) (limits : RunnerLimits) (task : RunnerTask) (chunks : List Bytes) :
    Except GuardErrorCode RunnerAnswer := do
  let output ← readChunks (outputBudget limits task) chunks
  readAnswer sha256 limits task output

end DataVault.Runner
