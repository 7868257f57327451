/-
Module: DataVault.Workbook.Scan
Layer: Model
Purpose: The scanner (sensitive-data-guard/workbook/scan-workbook.ts): one streaming pass over each part of an
  archive, with the findings, the counters and the flags as state.
Imports: Mathlib.Data.List.Infix, DataVault.Workbook.Detectors, DataVault.Workbook.Preflight
Trusted boundary: human-reviewed spec
Main exports: MAIN, OFFICE, xml, xml_ok, SheetPath, SheetScan, sheetHandler, scan, scanWorkbook
-/
import Mathlib.Data.List.Infix
import DataVault.Workbook.Detectors
import DataVault.Workbook.Preflight

namespace DataVault.Workbook

open DataVault.Control DataVault.Guard DataVault.Xml

/-! ### XML -/

def MAIN : String := "http://schemas.openxmlformats.org/spreadsheetml/2006/main"

def REL : String := "http://schemas.openxmlformats.org/package/2006/relationships"

/-- `OFFICE_REL`, which `sanitize-workbook.ts` calls `OFFICE`. -/
def OFFICE : String := "http://schemas.openxmlformats.org/officeDocument/2006/relationships"

variable {σ : Type}

/-- A handler within the limits on depth, nodes and attributes; they are counted beside its state. -/
def guarded (limits : GuardLimits) (handler : Handler SaxesTag σ WorkbookError) :
    Handler SaxesTag (σ × Nat × Nat) WorkbookError where
  opening tag s := do
    let depth := s.2.1 + 1
    let nodes := s.2.2 + 1
    require (depth ≤ 64 && nodes ≤ 1000000 && tag.attributes.length ≤ 64 &&
      tag.attributes.all fun one => one.value.utf8ByteSize ≤ limits.textBytes) limitExceeded
    let opened ← handler.opening tag s.1
    pure (opened, depth, nodes)
  chunk text s := do
    let read ← handler.chunk text s.1
    pure (read, s.2)
  closing tag s := do
    let closed ← handler.closing tag s.1
    pure (closed, s.2.1 - 1, s.2.2)

/-- `xml`: the parse of one part. -/
def xml (runtime : WorkbookRuntime) (part : Bytes) (limits : GuardLimits)
    (handler : Handler SaxesTag σ WorkbookError) (s : σ) : Except WorkbookError σ := do
  let parsed := runtime.saxes part
  let (final, _) ← (guarded limits handler).run parsed.events (s, 0, 0)
  match parsed.outcome with
  | .complete => pure final
  | .rejected => .error invalidWorkbook
  | .undecodable => .error .other

theorem run_of_guarded {limits : GuardLimits} {handler : Handler SaxesTag σ WorkbookError}
    {events : List (Event SaxesTag)} {s s' : σ × Nat × Nat}
    (ran : (guarded limits handler).run events s = .ok s') : handler.run events s.1 = .ok s'.1 := by
  induction events generalizing s with
  | nil =>
      cases ran
      rfl
  | cons event rest ih =>
      obtain ⟨s₁, here, there⟩ := bind_ok_iff.mp ran
      have first : handler.step event s.1 = .ok s₁.1 := by
        cases event with
        | opening tag =>
            obtain ⟨_, _, here⟩ := bind_ok_iff.mp here
            obtain ⟨opened, ran, here⟩ := bind_ok_iff.mp here
            cases here
            exact ran
        | chunk text =>
            obtain ⟨read, ran, here⟩ := bind_ok_iff.mp here
            cases here
            exact ran
        | closing tag =>
            obtain ⟨closed, ran, here⟩ := bind_ok_iff.mp here
            cases here
            exact ran
      exact bind_ok_iff.mpr ⟨s₁.1, first, ih there⟩

/-- A pass that returns has parsed its part to the end. -/
theorem xml_ok {runtime : WorkbookRuntime} {part : Bytes} {limits : GuardLimits}
    {handler : Handler SaxesTag σ WorkbookError} {s s' : σ} (read : xml runtime part limits handler s = .ok s') :
    (runtime.saxes part).outcome = .complete ∧ handler.run (runtime.saxes part).events s = .ok s' := by
  obtain ⟨⟨final, counters⟩, ran, read⟩ := bind_ok_iff.mp read
  dsimp only at read
  split at read
  · rename_i complete
    cases read
    exact ⟨complete, run_of_guarded ran⟩
  · cases read
  · cases read

/-! ### Values -/

/-- `integer`. -/
def integer (value : Option String) (least : Nat) (most : Int) : Except WorkbookError Nat := do
  let digits ← orFail (value.filter isDigits) invalidWorkbook
  let number := digitsValue digits.toList
  require (number < 2 ^ 53 && least ≤ number && number ≤ most) limitExceeded
  pure number

/-- The letters and the rest of an address. -/
def splitAddress (address : String) : List Char × List Char := address.toList.span fun c => 'A' ≤ c && c ≤ 'Z'

/-- The number of a column. -/
def columnNumber (letters : List Char) : Nat := letters.foldl (fun column c => column * 26 + (c.toNat - 64)) 0

/-- `/^([A-Z]{1,3})([1-9]\d{0,6})$/`, as column and row. -/
def scanAddress (address : String) : Option (Nat × Nat) :=
  let (letters, digits) := splitAddress address
  if letters ≠ [] ∧ letters.length ≤ 3 ∧ digits ≠ [] ∧ digits.length ≤ 7 ∧ digits.all isDigit = true ∧
      digits.head? ≠ some '0' then
    some (columnNumber letters, digitsValue digits)
  else none

/-- `['1', 'true'].includes(attr(tag, name) ?? '')`. -/
def isTrue (value : Option String) : Bool := value = some "1" || value = some "true"

/-- `flags.add`. -/
def addFlag (flag : CompatibilityFlag) (flags : List CompatibilityFlag) : List CompatibilityFlag := flags.insert flag

/-- The place of a flag in the order of strings. -/
def flagRank : CompatibilityFlag → Nat
  | .cellTextOnly => 0
  | .definedNames => 1
  | .formulas => 2
  | .hyperlinks => 3
  | .mergedCells => 4
  | .metadataNotScanned => 5
  | .unreferencedSharedStrings => 6
  | .unsupportedElements => 7
  | .unsupportedParts => 8

/-- `[...flags].sort()`. -/
def sortFlags (flags : List CompatibilityFlag) : List CompatibilityFlag :=
  flags.insertionSort fun first second => flagRank first ≤ flagRank second

/-! ### Parts -/

/-- The parts that the scanner knows. -/
def isKnownPart (name : String) : Bool :=
  ["[content_types].xml", "_rels/.rels", "docprops/core.xml", "docprops/app.xml", "docprops/custom.xml",
    "xl/workbook.xml", "xl/_rels/workbook.xml.rels", "xl/sharedstrings.xml", "xl/styles.xml"].contains name ||
    isNumbered "xl/theme/theme" ".xml" name || isNumbered "xl/worksheets/sheet" ".xml" name ||
    isNumbered "xl/worksheets/_rels/sheet" ".xml.rels" name

/-- A part with active or foreign content, or one that is no XML. -/
def isForbiddenPart (name : String) : Bool :=
  (["vbaproject", "embeddings/", "activex/", "externallinks/"].any fun piece => decide (piece.toList <:+: name.toList)) ||
    !(".xml".toList.isSuffixOf name.toList || ".rels".toList.isSuffixOf name.toList)

/-- `workbookType` after a tag of the content types. -/
def contentType (tag : SaxesTag) (found : Bool) : Except WorkbookError Bool :=
  if tag.localName = "Override" ∧ tag.attr "PartName" = some "/xl/workbook.xml" then
    .ok (tag.attr "ContentType" =
      some "application/vnd.openxmlformats-officedocument.spreadsheetml.sheet.main+xml")
  else .ok found

/-- A tag of any part: no relationship leads out of the archive. -/
def inspectTag (tag : SaxesTag) (flags : List CompatibilityFlag) : Except WorkbookError (List CompatibilityFlag) :=
  if tag.uri = REL ∧ tag.localName = "Relationship" then do
    let target ← orFail ((tag.attr "Target").filter fun target => !target.isEmpty) invalidWorkbook
    require (tag.attr "TargetMode" ≠ some "External" && !target.toList.any fun c =>
      c = '\\' || c = ':' || c = '#' || c = '?' || c = '%') invalidWorkbook
    pure (if tag.attr "Type" = some (OFFICE ++ "/hyperlink") then addFlag .hyperlinks flags else flags)
  else .ok flags

/-- The check of one part. -/
def inspectPart (runtime : WorkbookRuntime) (limits : GuardLimits) (flags : List CompatibilityFlag)
    (part : String × Bytes) : Except WorkbookError (List CompatibilityFlag) := do
  require (!isForbiddenPart part.1) invalidWorkbook
  xml runtime part.2 limits (.ofTags inspectTag) (if isKnownPart part.1 then flags else addFlag .unsupportedParts flags)

/-! ### Relationships and sheets -/

/-- The paths of the worksheets by the ids of their relationships. -/
abbrev Relationships := List (String × String)

/-- A tag of the relationships of the workbook. -/
def scanRelationship (runtime : WorkbookRuntime) (parts : Parts) (tag : SaxesTag) (relationships : Relationships) :
    Except WorkbookError Relationships :=
  if tag.uri = REL ∧ tag.localName = "Relationship" then do
    let id ← orFail ((tag.attr "Id").filter fun id => !id.isEmpty) invalidWorkbook
    let target ← orFail ((tag.attr "Target").filter fun target => !target.isEmpty) invalidWorkbook
    require (relationships.lookup id).isNone invalidWorkbook
    if tag.attr "Type" = some (OFFICE ++ "/worksheet") then do
      let resolved := partPath runtime target
      require (isNumbered "xl/worksheets/sheet" ".xml" resolved && parts.has resolved) invalidWorkbook
      pure (relationships ++ [(id, resolved)])
    else pure relationships
  else .ok relationships

structure SheetPath where
  path : String
  hidden : Bool
deriving DecidableEq, Repr

/-- The state of the pass over the workbook; `seenPaths` are the paths of its sheets. -/
structure BookScan where
  workbookRoot : Bool := false
  sheets : List SheetPath := []
  flags : List CompatibilityFlag
deriving DecidableEq, Repr

/-- The attribute `id` of the namespace of the relationships. -/
def SaxesTag.relationshipId (tag : SaxesTag) : Option String :=
  (tag.attributes.find? fun one => one.localName = "id" ∧ one.uri = OFFICE).map (·.value)

/-- The registration of a sheet. -/
def addSheet (relationships : Relationships) (limits : GuardLimits) (tag : SaxesTag) (s : BookScan) :
    Except WorkbookError BookScan := do
  let path ← orFail ((tag.relationshipId.filter fun id => !id.isEmpty).bind fun id => relationships.lookup id)
    invalidWorkbook
  require (!s.sheets.any fun sheet => sheet.path = path) invalidWorkbook
  require (s.sheets.length + 1 ≤ limits.sheets) limitExceeded
  pure { s with sheets := s.sheets ++
    [⟨path, tag.attr "state" = some "hidden" || tag.attr "state" = some "veryHidden"⟩] }

/-- A tag of the workbook. -/
def scanBook (relationships : Relationships) (limits : GuardLimits) (tag : SaxesTag) (s : BookScan) :
    Except WorkbookError BookScan := do
  require (tag.localName ≠ "workbook" || (tag.uri = MAIN && !s.workbookRoot)) invalidWorkbook
  require (tag.localName ≠ "workbookProtection") invalidWorkbook
  let s := { s with
    workbookRoot := s.workbookRoot || tag.localName = "workbook"
    flags := if tag.localName = "definedName" then addFlag .definedNames s.flags else s.flags }
  if tag.uri = MAIN ∧ tag.localName = "sheet" then addSheet relationships limits tag s else pure s

/-! ### Shared strings -/

structure StringScan where
  strings : List String := []
  value : String := ""
  inside : Bool := false
  inText : Bool := false
deriving DecidableEq, Repr

def stringHandler (limits : GuardLimits) : Handler SaxesTag StringScan WorkbookError where
  opening tag s := do
    require (tag.uri = MAIN) invalidWorkbook
    let s := if tag.localName = "si" then { s with inside := true, value := "" } else s
    pure (if tag.localName = "t" ∧ s.inside = true then { s with inText := true } else s)
  chunk text s :=
    if s.inText then do
      let value := s.value ++ text
      require (value.utf8ByteSize ≤ limits.textBytes) limitExceeded
      pure { s with value := value }
    else pure s
  closing tag s := do
    let s := if tag.localName = "t" then { s with inText := false } else s
    if tag.localName = "si" then do
      let strings := s.strings ++ [s.value]
      require (strings.length ≤ limits.cells) limitExceeded
      pure { s with strings := strings, inside := false }
    else pure s

/-! ### Worksheets -/

structure ScannedCell where
  row : Nat
  column : Nat
  type : String
  value : String := ""
  formula : Bool := false
deriving DecidableEq, Repr

/-- The state of the pass over one sheet; what stands after `capture` goes on from sheet to sheet. -/
structure SheetScan where
  dataOpen : Bool := false
  rowOpen : Bool := false
  root : Bool := false
  row : Nat := 0
  hiddenRow : Bool := false
  hiddenColumns : List Nat := []
  addresses : List String := []
  cell : Option ScannedCell := none
  capture : Bool := false
  cells : Nat
  findings : List SafeFinding
  referenced : List Nat
  flags : List CompatibilityFlag
deriving DecidableEq, Repr

/-- What a pass over a sheet reads. -/
structure SheetContext where
  runtime : WorkbookRuntime
  limits : GuardLimits
  categories : List Category
  phoneRegion : Option String
  strings : List String
  sheetIndex : Nat
  hidden : Bool

namespace SheetContext

variable (context : SheetContext)

def scanColumn (tag : SaxesTag) (s : SheetScan) : Except WorkbookError SheetScan := do
  let least ← integer (tag.attr "min") 1 context.limits.columns
  let most ← integer (tag.attr "max") least context.limits.columns
  pure (if isTrue (tag.attr "hidden") then
    { s with hiddenColumns := s.hiddenColumns ++ List.range' least (most + 1 - least) } else s)

def scanRow (tag : SaxesTag) (s : SheetScan) : Except WorkbookError SheetScan := do
  require (s.dataOpen && !s.rowOpen) invalidWorkbook
  let next ← integer (tag.attr "r") 1 context.limits.rows
  require (s.row < next) invalidWorkbook
  pure { s with rowOpen := true, row := next, hiddenRow := isTrue (tag.attr "hidden") }

def scanCell (tag : SaxesTag) (s : SheetScan) : Except WorkbookError SheetScan := do
  require s.rowOpen invalidWorkbook
  require (s.cell.isNone && s.cells + 1 ≤ context.limits.cells) limitExceeded
  let address := (tag.attr "r").getD ""
  let (column, row) ← orFail (scanAddress address) invalidWorkbook
  require (!s.addresses.contains address && row = s.row) invalidWorkbook
  require (column ≤ context.limits.columns) limitExceeded
  let type := (tag.attr "t").getD "n"
  require (["n", "b", "e", "d", "s", "str", "inlineStr"].contains type) invalidWorkbook
  pure { s with
    cells := s.cells + 1
    addresses := address :: s.addresses
    cell := some { row := s.row, column := column, type := type } }

/-- The elements that the scanner notes and does not look into. -/
def isUnsupportedElement (name : String) : Bool :=
  ["hyperlink", "dataValidation", "conditionalFormatting", "tablePart", "drawing", "legacyDrawing", "ext",
    "headerFooter"].contains name

/-- A tag of a sheet. -/
def openTag (tag : SaxesTag) (s : SheetScan) : Except WorkbookError SheetScan := do
  let name := tag.localName
  require (tag.uri = MAIN && name ≠ "sheetProtection" && (name ≠ "worksheet" || !s.root)) invalidWorkbook
  let flags := if isUnsupportedElement name then addFlag .unsupportedElements s.flags else s.flags
  let flags := if name = "mergeCell" then addFlag .mergedCells flags else flags
  let s := { s with root := s.root || name = "worksheet", flags := flags }
  if name = "col" then context.scanColumn tag s
  else if name = "sheetData" then do
    require (!s.dataOpen) invalidWorkbook
    pure { s with dataOpen := true }
  else if name = "row" then context.scanRow tag s
  else if name = "c" then context.scanCell tag s
  else if name = "f" then
    pure { s with
      flags := addFlag .formulas s.flags
      cell := s.cell.map fun cell => { cell with formula := true } }
  else if name = "v" ∨ name = "t" then pure { s with capture := s.capture || s.cell.isSome }
  else pure s

def readText (text : String) (s : SheetScan) : Except WorkbookError SheetScan :=
  match s.cell with
  | some cell =>
      if s.capture then do
        let value := cell.value ++ text
        require (value.utf8ByteSize ≤ context.limits.textBytes) limitExceeded
        pure { s with cell := some { cell with value := value } }
      else pure s
  | none => pure s

/-- `findings.push`, within the limit. -/
def addFinding (s : SheetScan) (cell : ScannedCell) (findings : List SafeFinding) (category : Category) :
    Except WorkbookError (List SafeFinding) := do
  require (findings.length < context.limits.findings) limitExceeded
  pure (findings ++
    [{ ordinal := findings.length
       sheetIndex := context.sheetIndex
       row := cell.row
       column := cell.column
       category := category
       evidence := if category = .paymentCard ∨ category = .iban then .checksumValid else .formatValid
       hidden := context.hidden || s.hiddenRow || s.hiddenColumns.contains cell.column }])

/-- The text of a cell, and the shared string that it refers to. -/
def cellText (cell : ScannedCell) : Except WorkbookError (Option String × Option Nat) :=
  if !cell.formula && cell.type = "s" then do
    let index ← integer (some cell.value) 0 ((context.strings.length : Int) - 1)
    let text ← orFail context.strings[index]? invalidWorkbook
    pure (some text, some index)
  else if !cell.formula && (cell.type = "str" || cell.type = "inlineStr") then pure (some cell.value, none)
  else pure (none, none)

/-- The end of a cell. -/
def closeCell (cell : ScannedCell) (s : SheetScan) : Except WorkbookError SheetScan := do
  let (text, index) ← context.cellText cell
  let categories := text.elim [] fun text =>
    detect context.runtime text context.categories context.phoneRegion
  let findings ← categories.foldlM (context.addFinding s cell) s.findings
  pure { s with
    findings := findings
    referenced := index.elim s.referenced fun index => s.referenced.insert index
    cell := none }

def closeTag (tag : SaxesTag) (s : SheetScan) : Except WorkbookError SheetScan :=
  let name := tag.localName
  let s := { s with
    rowOpen := s.rowOpen && name ≠ "row"
    dataOpen := s.dataOpen && name ≠ "sheetData"
    capture := s.capture && name ≠ "v" && name ≠ "t" }
  match s.cell with
  | some cell => if name = "c" then context.closeCell cell s else pure s
  | none => pure s

/-- The handlers of a pass over a sheet. -/
def sheetHandler : Handler SaxesTag SheetScan WorkbookError where
  opening := context.openTag
  chunk := context.readText
  closing := context.closeTag

end SheetContext

/-! ### The scan -/

/-- What goes on from sheet to sheet. -/
structure ScanTotals where
  cells : Nat := 0
  findings : List SafeFinding := []
  referenced : List Nat := []
  flags : List CompatibilityFlag
deriving DecidableEq, Repr

/-- The pass over one sheet. -/
def scanSheet (runtime : WorkbookRuntime) (parts : Parts) (categories : List Category) (phoneRegion : Option String)
    (limits : GuardLimits) (strings : List String) (totals : ScanTotals) (sheet : SheetPath × Nat) :
    Except WorkbookError ScanTotals := do
  let context : SheetContext := ⟨runtime, limits, categories, phoneRegion, strings, sheet.2, sheet.1.hidden⟩
  let part ← orFail (parts.get sheet.1.path) .other
  let read ← xml runtime part limits context.sheetHandler
    { cells := totals.cells, findings := totals.findings, referenced := totals.referenced, flags := totals.flags }
  require read.root invalidWorkbook
  pure ⟨read.cells, read.findings, read.referenced, read.flags⟩

/-- The paths of the worksheets in the order of the workbook. -/
def scanSheetPaths (runtime : WorkbookRuntime) (parts : Parts) (limits : GuardLimits)
    (flags : List CompatibilityFlag) : Except WorkbookError BookScan := do
  let relationshipsPart ← orFail (parts.get "xl/_rels/workbook.xml.rels") .other
  let relationships ← xml runtime relationshipsPart limits (.ofTags (scanRelationship runtime parts)) []
  let bookPart ← orFail (parts.get "xl/workbook.xml") .other
  let book ← xml runtime bookPart limits (.ofTags (scanBook relationships limits)) { flags := flags }
  require (book.workbookRoot && !book.sheets.isEmpty && parts.all fun part =>
    !isNumbered "xl/worksheets/sheet" ".xml" part.1 || book.sheets.any fun sheet => sheet.path = part.1) invalidWorkbook
  pure book

/-- The shared strings, if there are any. -/
def scanStrings (runtime : WorkbookRuntime) (parts : Parts) (limits : GuardLimits) :
    Except WorkbookError (List String) :=
  match parts.get "xl/sharedstrings.xml" with
  | none => .ok []
  | some part => do
      let read ← xml runtime part limits (stringHandler limits) {}
      pure read.strings

def scan (runtime : WorkbookRuntime) (input : Bytes) (categories : List Category) (phoneRegion : Option String)
    (limits : GuardLimits) : Except WorkbookError ScanResponse := do
  let parts ← preflight runtime input limits
  let contentTypes ← orFail (parts.get "[content_types].xml") .other
  let workbookType ← xml runtime contentTypes limits (.ofTags contentType) false
  require workbookType invalidWorkbook
  let flags ← parts.foldlM (inspectPart runtime limits) [.cellTextOnly, .metadataNotScanned]
  let book ← scanSheetPaths runtime parts limits flags
  let strings ← scanStrings runtime parts limits
  let totals ← book.sheets.zipIdx.foldlM (scanSheet runtime parts categories phoneRegion limits strings)
    { flags := book.flags }
  let flags := if strings.length > totals.referenced.length then addFlag .unreferencedSharedStrings totals.flags
    else totals.flags
  pure
    { findings := totals.findings
      processedCells := totals.cells
      sheets := book.sheets.length
      compatibilityFlags := sortFlags flags
      coverage := .limited }

/-- `scanWorkbook`. -/
def scanWorkbook (runtime : WorkbookRuntime) (input : Bytes) (categories : List Category)
    (phoneRegion : Option String) (limits : GuardLimits) : Except WorkbookError ScanResponse :=
  (scan runtime input categories phoneRegion limits).mapError (.orScan .invalidWorkbook)

end DataVault.Workbook
