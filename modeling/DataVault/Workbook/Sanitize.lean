/-
Module: DataVault.Workbook.Sanitize
Layer: Model
Purpose: Redaction (sensitive-data-guard/workbook/sanitize-workbook.ts): the strict profile of workbooks that can be
  rebuilt, the canonical document, and the redaction of the selected cells with the verification of its output.
Imports: DataVault.Workbook.Scan
Trusted boundary: human-reviewed spec
Main exports: Element, allowed, tree, Cell, Sheet, supported, generate, Coordinate, SanitizationResult,
  sanitizeWorkbook
-/
import DataVault.Workbook.Scan

namespace DataVault.Workbook

open DataVault.Control DataVault.Guard DataVault.Xml

/-! ### Elements -/

abbrev Attrs := List (String × String)

/-- An element of a parsed part. -/
structure Element where
  name : String
  attrs : Attrs
  text : String
  children : List Element

/-- What the profile allows in an element. -/
structure ElementRule where
  children : List String
  attrs : List String
deriving DecidableEq, Repr

/-- The names that a lookup in an object finds without their being there. -/
def inheritedNames : List String :=
  ["constructor", "__defineGetter__", "__defineSetter__", "hasOwnProperty", "__lookupGetter__", "__lookupSetter__",
    "isPrototypeOf", "propertyIsEnumerable", "toString", "valueOf", "__proto__", "toLocaleString"]

/-- `allowed`. An inherited name has no rule that could be read, so that whatever follows it is refused. -/
def allowed : String → Option ElementRule
  | "workbook" => some ⟨["sheets", "bookViews", "workbookPr"], []⟩
  | "workbookPr" => some ⟨[], ["date1904"]⟩
  | "bookViews" => some ⟨["workbookView"], []⟩
  | "workbookView" => some ⟨[], ["activeTab", "firstSheet", "visibility", "showHorizontalScroll",
      "showVerticalScroll", "showSheetTabs", "xWindow", "yWindow", "windowWidth", "windowHeight", "tabRatio"]⟩
  | "sheets" => some ⟨["sheet"], []⟩
  | "sheet" => some ⟨[], ["name", "sheetId", "state", "r:id"]⟩
  | "worksheet" => some ⟨["sheetData", "cols", "dimension"], []⟩
  | "dimension" => some ⟨[], ["ref"]⟩
  | "cols" => some ⟨["col"], []⟩
  | "col" => some ⟨[], ["min", "max", "hidden", "width", "customWidth"]⟩
  | "sheetData" => some ⟨["row"], []⟩
  | "row" => some ⟨["c"], ["r", "hidden", "ht", "customHeight", "spans"]⟩
  | "c" => some ⟨["v", "is"], ["r", "t"]⟩
  | "is" => some ⟨["t"], []⟩
  | "t" => some ⟨[], ["xml:space"]⟩
  | "v" => some ⟨[], []⟩
  | "sst" => some ⟨["si"], ["count", "uniqueCount"]⟩
  | "si" => some ⟨["t"], []⟩
  | name => if inheritedNames.contains name then some ⟨[], []⟩ else none

/-- The names that the profile allows below an element. -/
def childNames (name : String) : List String := (allowed name).elim [] (·.children)

/-- A declaration of one of the two namespaces under its usual prefix. -/
def isDeclaration (one : SaxesAttribute) : Bool :=
  (one.name = "xmlns" && one.value = MAIN) || (one.name = "xmlns:r" && one.value = OFFICE)

/-- The attributes of an element: no other than those of its rule. -/
def treeAttrs (rule : ElementRule) (tag : SaxesTag) : Except WorkbookError Attrs := do
  let own := tag.attributes.filter fun one => !isDeclaration one
  require (own.all fun one => rule.attrs.contains one.name) profileUnsupported
  pure (own.map fun one => (one.name, one.value))

/-- The open elements, the innermost one first, and the finished root. -/
structure TreeState where
  stack : List Element := []
  root : Option Element := none

/-- The handlers of `tree`. An element joins its parent when it ends. -/
def treeHandler (limits : GuardLimits) : Handler SaxesTag TreeState WorkbookError where
  opening tag s := do
    let rule ← orFail (allowed tag.localName) profileUnsupported
    require (tag.uri = MAIN && s.stack.head?.all fun top => (childNames top.name).contains tag.localName)
      profileUnsupported
    let attrs ← treeAttrs rule tag
    require (!s.stack.isEmpty || s.root.isNone) profileUnsupported
    pure { s with stack := ⟨tag.localName, attrs, "", []⟩ :: s.stack }
  chunk text s :=
    match s.stack with
    | [] => do
        require (!hasText text) profileUnsupported
        pure s
    | top :: rest => do
        require (top.name = "t" || top.name = "v" || !hasText text) profileUnsupported
        require ((top.text ++ text).utf8ByteSize ≤ limits.textBytes) limitExceeded
        pure { s with stack := { top with text := top.text ++ text } :: rest }
  closing _ s :=
    match s.stack with
    | [] => pure s
    | [last] => pure { s with stack := [], root := some last }
    | top :: parent :: rest => pure { s with stack := { parent with children := parent.children ++ [top] } :: rest }

def tree (runtime : WorkbookRuntime) (part : Bytes) (limits : GuardLimits) : Except WorkbookError Element := do
  let read ← xml runtime part limits (treeHandler limits) {}
  orFail read.root profileUnsupported

/-- `one`. -/
def Element.one (node : Element) (name : String) : Except WorkbookError (Option Element) :=
  match node.children.filter fun child => child.name = name with
  | [] => .ok none
  | [child] => .ok (some child)
  | _ => .error profileUnsupported

def Element.attr (node : Element) (name : String) : Option String := node.attrs.lookup name

/-! ### The profile -/

structure Cell where
  address : String
  row : Nat
  column : Nat
  type : String
  value : String
deriving DecidableEq, Repr

structure SheetRow where
  attrs : Attrs
  cells : List Cell
deriving DecidableEq, Repr

structure Sheet where
  state : String
  rows : List SheetRow
  columns : List Attrs
deriving DecidableEq, Repr

def Sheet.cells (sheet : Sheet) : List Cell := sheet.rows.flatMap (·.cells)

/-- The parts that the profile allows. -/
def isPlainPart (name : String) : Bool :=
  ["[content_types].xml", "_rels/.rels", "docprops/core.xml", "docprops/app.xml", "docprops/custom.xml",
    "xl/workbook.xml", "xl/_rels/workbook.xml.rels", "xl/sharedstrings.xml"].contains name ||
    isNumbered "xl/worksheets/sheet" ".xml" name

/-- A tag of the relationships, as the profile reads it. -/
def profileRelationship (runtime : WorkbookRuntime) (parts : Parts) (tag : SaxesTag)
    (relationships : Relationships) : Except WorkbookError Relationships :=
  if tag.localName ≠ "Relationship" then .ok relationships
  else if tag.attr "Type" = some (OFFICE ++ "/sharedStrings") ∧ parts.has "xl/sharedstrings.xml" = true then
    .ok relationships
  else do
    let id ← orFail ((tag.attr "Id").filter fun id => !id.isEmpty) profileUnsupported
    let target ← orFail ((tag.attr "Target").filter fun target => !target.isEmpty) profileUnsupported
    require (tag.attr "Type" = some (OFFICE ++ "/worksheet") && (relationships.lookup id).isNone) profileUnsupported
    pure (relationships ++ [(id, partPath runtime target)])

/-- A shared string without runs. -/
def readString (si : Element) : Except WorkbookError String := do
  let text ← orFail (← si.one "t") profileUnsupported
  require (si.name = "si") profileUnsupported
  pure text.text

def readStrings (runtime : WorkbookRuntime) (parts : Parts) (limits : GuardLimits) :
    Except WorkbookError (List String) :=
  match parts.get "xl/sharedstrings.xml" with
  | none => .ok []
  | some part => do
      let root ← tree runtime part limits
      root.children.mapM readString

/-- `/^([A-Z]+)(\d+)$/`, as column and row. -/
def profileAddress (address : String) : Option (Nat × Nat) :=
  let (letters, digits) := splitAddress address
  if letters ≠ [] ∧ digits ≠ [] ∧ digits.all isDigit = true then some (columnNumber letters, digitsValue digits)
  else none

/-- Mantissa and decimal exponent of `/^[+-]?(?:\d+(?:\.\d*)?|\.\d+)(?:[eE][+-]?\d+)?$/`, without the sign. -/
def numeral (text : List Char) : Option (Nat × Int) :=
  let unsigned := match text with
    | '+' :: rest | '-' :: rest => rest
    | _ => text
  let (whole, rest) := unsigned.span isDigit
  let (fraction, rest) := match rest with
    | '.' :: more => more.span isDigit
    | _ => ([], rest)
  let mantissa := digitsValue (whole ++ fraction)
  if whole = [] ∧ fraction = [] then none
  else match rest with
    | [] => some (mantissa, -fraction.length)
    | mark :: exponent =>
        let (negative, digits) := match exponent with
          | '+' :: digits => (false, digits)
          | '-' :: digits => (true, digits)
          | _ => (false, exponent)
        if (mark = 'e' ∨ mark = 'E') ∧ digits ≠ [] ∧ digits.all isDigit = true then
          some (mantissa, (if negative then -(digitsValue digits : Int) else digitsValue digits) - fraction.length)
        else none

/-- `Number.isFinite`: the number does not round to infinity. -/
def isFinite : Nat × Int → Bool
  | (mantissa, .ofNat exponent) => mantissa * 10 ^ exponent < 2 ^ 1024 - 2 ^ 970
  | (mantissa, .negSucc exponent) => mantissa < (2 ^ 1024 - 2 ^ 970) * 10 ^ (exponent + 1)

/-- The value of a cell that is no inline string. -/
def readValue (strings : List String) (type value : String) : Except WorkbookError String :=
  if type = "s" then do
    require (isDigits value) profileUnsupported
    orFail strings[digitsValue value.toList]? profileUnsupported
  else if type = "n" then do
    require (value.isEmpty || (numeral value.toList).any isFinite) profileUnsupported
    pure value
  else if type = "b" then do
    require (value = "0" || value = "1") profileUnsupported
    pure value
  else do
    require (type = "str") profileUnsupported
    pure value

/-- The value of a cell. -/
def readContent (strings : List String) (cell : Element) (type : String) : Except WorkbookError String :=
  if type = "inlineStr" then do
    require (← cell.one "v").isNone profileUnsupported
    let inline ← orFail (← cell.one "is") profileUnsupported
    let text ← orFail (← inline.one "t") profileUnsupported
    pure text.text
  else do
    require (← cell.one "is").isNone profileUnsupported
    let value := (← cell.one "v").elim "" (·.text)
    readValue strings type value

def readCell (strings : List String) (cell : Element) : Except WorkbookError Cell := do
  let address ← orFail (cell.attr "r") profileUnsupported
  let (column, row) ← orFail (profileAddress address) profileUnsupported
  let type := (cell.attr "t").getD "n"
  let value ← readContent strings cell type
  pure
    { address := address
      row := row
      column := column
      type := if type = "s" ∨ type = "str" then "inlineStr" else type
      value := value }

def readRow (strings : List String) (row : Element) : Except WorkbookError SheetRow := do
  let cells ← row.children.mapM (readCell strings)
  pure { attrs := row.attrs.filter fun one => one.1 ≠ "spans", cells := cells }

/-- `/^\d+(?:\.\d+)?$/`, and no more than 4096 as a double. -/
def isExtent (text : String) : Bool :=
  let (whole, rest) := text.toList.span isDigit
  match rest with
  | [] => whole ≠ [] && digitsValue whole ≤ 4096
  | dot :: fraction =>
      whole ≠ [] && dot = '.' && fraction ≠ [] && fraction.all isDigit &&
        digitsValue (whole ++ fraction) * 2 ^ 41 ≤ (4096 * 2 ^ 41 + 1) * 10 ^ fraction.length

/-- The attributes of rows and columns. -/
def soundAttrs (attrs : Attrs) : Bool :=
  (["hidden", "customWidth", "customHeight"].all fun name =>
    (attrs.lookup name).all fun value => value.isEmpty || ["0", "1", "true", "false"].contains value) &&
    ["width", "ht"].all fun name => (attrs.lookup name).all fun value => value.isEmpty || isExtent value

/-- `Number` of an attribute; the scan has required digits of `min` and `max`, without them no comparison holds. -/
def attrNumber (attrs : Attrs) (name : String) : Option Nat :=
  ((attrs.lookup name).filter isDigits).map fun digits => digitsValue digits.toList

/-- The columns do not overlap. -/
def columnsAscend : Option Nat → List Attrs → Bool
  | _, [] => true
  | previous, column :: rest =>
      !((attrNumber column "min").any fun least => previous.any fun last => least ≤ last) &&
        columnsAscend (attrNumber column "max") rest

/-- One sheet of the inventory. -/
def readSheet (runtime : WorkbookRuntime) (parts : Parts) (limits : GuardLimits) (relationships : Relationships)
    (strings : List String) (sheet : Element) : Except WorkbookError Sheet := do
  let path ← orFail ((sheet.attr "r:id").bind fun id => relationships.lookup id) profileUnsupported
  let part ← orFail (parts.get path) profileUnsupported
  let root ← tree runtime part limits
  require (root.name = "worksheet") profileUnsupported
  let data ← orFail (← root.one "sheetData") profileUnsupported
  let state := (sheet.attr "state").getD "visible"
  require (["visible", "hidden", "veryHidden"].contains state) profileUnsupported
  let rows ← data.children.mapM (readRow strings)
  let columns := (← root.one "cols").elim [] fun cols => cols.children.map (·.attrs)
  require ((rows.map (·.attrs) ++ columns).all soundAttrs && columnsAscend (some 0) columns) profileUnsupported
  pure ⟨state, rows, columns⟩

/-- `supported`: the sheets of a workbook within the profile. -/
def supported (runtime : WorkbookRuntime) (input : Bytes) (limits : GuardLimits) :
    Except WorkbookError (List Sheet) := do
  let parts ← preflight runtime input limits
  require (parts.all fun part => isPlainPart part.1) profileUnsupported
  let bookPart ← orFail (parts.get "xl/workbook.xml") .other
  let book ← tree runtime bookPart limits
  require (book.name = "workbook") profileUnsupported
  let properties ← book.one "workbookPr"
  require (!isTrue (properties.bind fun node => node.attr "date1904")) profileUnsupported
  let relationshipsPart ← orFail (parts.get "xl/_rels/workbook.xml.rels") .other
  let relationships ← xml runtime relationshipsPart limits (.ofTags (profileRelationship runtime parts)) []
  let strings ← readStrings runtime parts limits
  let inventory ← orFail (← book.one "sheets") profileUnsupported
  require (!inventory.children.isEmpty) profileUnsupported
  let sheets ← inventory.children.mapM (readSheet runtime parts limits relationships strings)
  require (sheets.any fun sheet => sheet.state = "visible") profileUnsupported
  pure sheets

/-! ### The canonical document -/

/-- `escape` of one character; the ampersand is replaced first there, so that no replacement is replaced again. -/
def escapeChar : Char → String
  | '&' => "&amp;"
  | '<' => "&lt;"
  | '>' => "&gt;"
  | '"' => "&quot;"
  | '\r' => "&#13;"
  | c => c.toString

def escape (value : String) : String := String.join (value.toList.map escapeChar)

def attrsText (attrs : Attrs) : String :=
  String.join (attrs.map fun one => " " ++ one.1 ++ "=\"" ++ escape one.2 ++ "\"")

def cellXml (cell : Cell) : String :=
  if cell.type = "inlineStr" then
    "<c r=\"" ++ cell.address ++ "\" t=\"inlineStr\"><is><t xml:space=\"preserve\">" ++ escape cell.value ++
      "</t></is></c>"
  else
    "<c r=\"" ++ cell.address ++ "\" t=\"" ++ cell.type ++ "\">" ++
      (if cell.value.isEmpty then "" else "<v>" ++ escape cell.value ++ "</v>") ++ "</c>"

def rowXml (row : SheetRow) : String :=
  "<row" ++ attrsText row.attrs ++ ">" ++ String.join (row.cells.map cellXml) ++ "</row>"

def sheetXml (sheet : Sheet) : String :=
  "<worksheet xmlns=\"" ++ MAIN ++ "\">" ++
    (if sheet.columns.isEmpty then "" else
      "<cols>" ++ String.join (sheet.columns.map fun attrs => "<col" ++ attrsText attrs ++ "/>") ++ "</cols>") ++
    "<sheetData>" ++ String.join (sheet.rows.map rowXml) ++ "</sheetData></worksheet>"

/-- The numbers that name the sheets. -/
def sheetNumbers (sheets : List Sheet) : List String := (List.range sheets.length).map fun index => toString (index + 1)

def contentTypesXml (sheets : List Sheet) : String :=
  "<Types xmlns=\"http://schemas.openxmlformats.org/package/2006/content-types\">" ++
    "<Default Extension=\"rels\" ContentType=\"application/vnd.openxmlformats-package.relationships+xml\"/>" ++
    "<Default Extension=\"xml\" ContentType=\"application/xml\"/>" ++
    "<Override PartName=\"/xl/workbook.xml\" ContentType=\"" ++
    "application/vnd.openxmlformats-officedocument.spreadsheetml.sheet.main+xml\"/>" ++
    String.join ((sheetNumbers sheets).map fun number =>
      "<Override PartName=\"/xl/worksheets/sheet" ++ number ++ ".xml\" ContentType=\"" ++
        "application/vnd.openxmlformats-officedocument.spreadsheetml.worksheet+xml\"/>") ++ "</Types>"

def packageXml : String :=
  "<Relationships xmlns=\"" ++ REL ++ "\"><Relationship Id=\"rId1\" Type=\"" ++ OFFICE ++
    "/officeDocument\" Target=\"xl/workbook.xml\"/></Relationships>"

def bookXml (sheets : List Sheet) : String :=
  "<workbook xmlns=\"" ++ MAIN ++ "\" xmlns:r=\"" ++ OFFICE ++ "\"><sheets>" ++
    String.join (((sheetNumbers sheets).zip sheets).map fun numbered =>
      "<sheet name=\"Sheet " ++ numbered.1 ++ "\" sheetId=\"" ++ numbered.1 ++ "\" state=\"" ++ numbered.2.state ++
        "\" r:id=\"rId" ++ numbered.1 ++ "\"/>") ++ "</sheets></workbook>"

def bookRelationshipsXml (sheets : List Sheet) : String :=
  "<Relationships xmlns=\"" ++ REL ++ "\">" ++
    String.join ((sheetNumbers sheets).map fun number =>
      "<Relationship Id=\"rId" ++ number ++ "\" Type=\"" ++ OFFICE ++ "/worksheet\" Target=\"worksheets/sheet" ++
        number ++ ".xml\"/>") ++ "</Relationships>"

/-- The parts of the canonical document. -/
def generateParts (sheets : List Sheet) : List (String × String) :=
  [("[Content_Types].xml", contentTypesXml sheets), ("_rels/.rels", packageXml), ("xl/workbook.xml", bookXml sheets),
    ("xl/_rels/workbook.xml.rels", bookRelationshipsXml sheets)] ++
    ((sheetNumbers sheets).zip sheets).map fun numbered =>
      ("xl/worksheets/sheet" ++ numbered.1 ++ ".xml", sheetXml numbered.2)

/-- `generate`. -/
def generate (sheets : List Sheet) (limits : GuardLimits) : Except WorkbookError Bytes :=
  writeXlsx (generateParts sheets) limits.compressedBytes

/-! ### Redaction -/

/-- The place of a cell. -/
structure Coordinate where
  sheetIndex : Nat
  row : Nat
  column : Nat
deriving DecidableEq, Repr

/-- The place of a finding. -/
def findingPlace (finding : SafeFinding) : Coordinate := ⟨finding.sheetIndex, finding.row, finding.column⟩

structure SanitizationResult where
  bytes : Bytes
  redactedCells : Nat
  outputDigest : Nat
deriving DecidableEq, Repr

/-- The cells in which the scan has found a selected category. -/
def selectFindings (findings : List SafeFinding) (categories : List Category) : List Coordinate :=
  (findings.filter fun finding => categories.contains finding.category).map findingPlace

/-- The cells of a selected column. -/
def selectColumn (sheets : List Sheet) (column : RedactionColumn) : Except WorkbookError (List Coordinate) := do
  let sheet ← orFail sheets[column.sheetIndex]? (.scan .selectionInvalid)
  require (sheet.cells.any fun cell => cell.column = column.column) (.scan .selectionInvalid)
  pure ((sheet.cells.filter fun cell =>
    cell.column = column.column && (column.includeHeader || cell.row ≠ 1)).map fun cell =>
      ⟨column.sheetIndex, cell.row, cell.column⟩)

/-- `selected`. -/
def selectCells (sheets : List Sheet) (findings : List SafeFinding) (selection : RedactionSelection) :
    Except WorkbookError (List Coordinate) := do
  let columns ← selection.columns.mapM (selectColumn sheets)
  pure (selectFindings findings selection.categories ++ columns.flatten).dedup

def Cell.redact (cell : Cell) : Cell := { cell with value := redactionMarker, type := "inlineStr" }

/-- The cells of a sheet that are to be changed. -/
def Sheet.redact (sheet : Sheet) (chosen : Cell → Bool) : Sheet :=
  { sheet with rows := sheet.rows.map fun row =>
      { row with cells := row.cells.map fun cell => if chosen cell then cell.redact else cell } }

/-- The loop that writes the marker. -/
def redactSheets (sheets : List Sheet) (chosen : Nat → Cell → Bool) : List Sheet :=
  sheets.mapIdx fun index sheet => sheet.redact (chosen index)

/-- The cells that the loop changes. -/
def countChosen (sheets : List Sheet) (chosen : Nat → Cell → Bool) : Nat :=
  (sheets.mapIdx fun index sheet => sheet.cells.countP (chosen index)).sum

/-- `selected.has`. -/
def isSelected (selected : List Coordinate) (index : Nat) (cell : Cell) : Bool :=
  selected.contains ⟨index, cell.row, cell.column⟩

/-- The `try` block of `sanitizeWorkbook`. The comparison of the JSON of two lists of sheets is the one of the
lists. -/
def sanitize (runtime : WorkbookRuntime) (input : Bytes) (options : SanitizationOptions) (limits : GuardLimits) :
    Except WorkbookError SanitizationResult := do
  let scan ← scanWorkbook runtime input options.categories options.phoneRegion limits
  require (runtime.findingsDigest scan.findings = options.findingsDigest) (.scan .sourceChanged)
  let sheets ← supported runtime input limits
  let selected ← selectCells sheets scan.findings options.selection
  require (!selected.isEmpty && selected.length ≤ limits.cells) (.scan .selectionInvalid)
  let redacted := redactSheets sheets (isSelected selected)
  let changed := countChosen sheets (isSelected selected)
  require (changed = selected.length) (.scan .outputVerificationFailed)
  let output ← generate redacted limits
  let _ ← scanWorkbook runtime output options.categories options.phoneRegion limits
  let reopened ← supported runtime output limits
  require (reopened = redacted) (.scan .outputVerificationFailed)
  pure ⟨output, changed, runtime.sha256 output⟩

def sanitizeWorkbook (runtime : WorkbookRuntime) (input : Bytes) (options : SanitizationOptions)
    (limits : GuardLimits) : Except WorkbookError SanitizationResult :=
  (sanitize runtime input options limits).mapError (.orScan .profileUnsupported)

end DataVault.Workbook
