/-
Module: DataVault.Workbook.Redaction
Layer: Proof
Purpose: Redaction is exact. Where the engine returns a workbook, it has the sheets, rows and addresses of the input,
  the marker stands in the selected cells and in no others, and a scan of it finds what the scan of the input has
  found outside the selected cells.
Imports: Mathlib.Data.List.Dedup, DataVault.Workbook.ArchiveAgreement, DataVault.Workbook.ScanAgrees
Trusted boundary: none
Main exports: Selected, RedactedFrom, redaction_exact, smallWorkbook
-/
import Mathlib.Data.List.Dedup
import DataVault.Workbook.ArchiveAgreement
import DataVault.Workbook.ScanAgrees

namespace DataVault.Workbook

open DataVault.Control DataVault.Files DataVault.Guard DataVault.Xml

/-! ### Selection -/

/-- The cells that are to be redacted: where a selected category was found, and those of a selected column, of the
first row only with the header. -/
def Selected (selection : RedactionSelection) (findings : List SafeFinding) (place : Coordinate) : Prop :=
  (∃ finding ∈ findings, finding.category ∈ selection.categories ∧ findingPlace finding = place) ∨
    ∃ column ∈ selection.columns, column.sheetIndex = place.sheetIndex ∧ column.column = place.column ∧
      (column.includeHeader = true ∨ place.row ≠ 1)

instance (selection : RedactionSelection) (findings : List SafeFinding) :
    DecidablePred (Selected selection findings) :=
  fun place => inferInstanceAs (Decidable ((∃ finding ∈ findings, finding.category ∈ selection.categories ∧
    findingPlace finding = place) ∨ ∃ column ∈ selection.columns, column.sheetIndex = place.sheetIndex ∧
      column.column = place.column ∧ (column.includeHeader = true ∨ place.row ≠ 1)))

/-- The place of a cell. -/
def Cell.place (cell : Cell) (index : Nat) : Coordinate := ⟨index, cell.row, cell.column⟩

/-- A cell of the output and the cell of the input at its address. -/
structure CellRedacted (selected : Prop) (before after : Cell) : Prop where
  address : after.address = before.address
  row : after.row = before.row
  column : after.column = before.column
  marked : selected → after.type = "inlineStr" ∧ after.value = redactionMarker
  kept : ¬selected → after.type = before.type ∧ after.value = before.value

/-- The same rows, cell by cell. -/
def RowRedacted (selected : Cell → Prop) (before after : SheetRow) : Prop :=
  after.attrs = before.attrs ∧
    List.Forall₂ (fun cell cell' => CellRedacted (selected cell) cell cell') before.cells after.cells

/-- The same sheet, row by row. -/
def SheetRedacted (selected : Cell → Prop) (before after : Sheet) : Prop :=
  after.state = before.state ∧ after.columns = before.columns ∧
    List.Forall₂ (RowRedacted selected) before.rows after.rows

/-- The same sheets with the marker in the selected cells: as many sheets, each with its state, its columns and its
rows, and every cell as it was unless it is selected. -/
def RedactedFrom (selected : Coordinate → Prop) (before after : List Sheet) : Prop :=
  after.length = before.length ∧ ∀ index sheet, before[index]? = some sheet →
    ∃ sheet', after[index]? = some sheet' ∧ SheetRedacted (fun cell => selected (cell.place index)) sheet sheet'

variable {selection : RedactionSelection} {findings : List SafeFinding} {sheets : List Sheet}

theorem mem_selectFindings {categories : List Category} {place : Coordinate} :
    place ∈ selectFindings findings categories ↔
      ∃ finding ∈ findings, finding.category ∈ categories ∧ findingPlace finding = place := by
  simp [selectFindings, and_assoc]

theorem selectColumn_ok {column : RedactionColumn} {places : List Coordinate}
    (read : selectColumn sheets column = .ok places) :
    ∃ sheet, sheets[column.sheetIndex]? = some sheet ∧ ∀ place, place ∈ places ↔
      ∃ cell ∈ sheet.cells, cell.column = column.column ∧ (column.includeHeader = true ∨ cell.row ≠ 1) ∧
        cell.place column.sheetIndex = place := by
  obtain ⟨sheet, found, read⟩ := bind_ok_iff.mp read
  obtain ⟨_, _, read⟩ := bind_ok_iff.mp read
  cases read
  refine ⟨sheet, orFail_ok_iff.mp found, fun place => ?_⟩
  simp [Cell.place, and_assoc]

theorem selectColumns_ok {columns : List RedactionColumn} {chosen : List (List Coordinate)}
    (read : columns.mapM (selectColumn sheets) = .ok chosen) {index : Nat} {sheet : Sheet} {cell : Cell}
    (found : sheets[index]? = some sheet) (mem : cell ∈ sheet.cells) :
    cell.place index ∈ chosen.flatten ↔ ∃ column ∈ columns, column.sheetIndex = index ∧ column.column = cell.column ∧
      (column.includeHeader = true ∨ cell.row ≠ 1) := by
  induction columns generalizing chosen with
  | nil =>
      cases read
      simp
  | cons column rest ih =>
      obtain ⟨places, others, first, more, rfl⟩ := mapM_cons_ok_iff.mp read
      obtain ⟨sheet', found', places_iff⟩ := selectColumn_ok first
      rw [List.flatten_cons, List.mem_append, places_iff, ih more, List.exists_mem_cons_iff]
      refine or_congr_left ?_
      constructor
      · rintro ⟨other, _, same, header, placed⟩
        have sheetIndex : column.sheetIndex = index := congrArg Coordinate.sheetIndex placed
        have row : other.row = cell.row := congrArg Coordinate.row placed
        have column : other.column = cell.column := congrArg Coordinate.column placed
        exact ⟨sheetIndex, same.symm.trans column, row ▸ header⟩
      · rintro ⟨rfl, same, header⟩
        cases found.symm.trans found'
        exact ⟨cell, mem, same.symm, header, rfl⟩

/-- The engine selects the cells that are to be redacted. -/
theorem selectCells_ok {selected : List Coordinate} (read : selectCells sheets findings selection = .ok selected)
    {index : Nat} {sheet : Sheet} {cell : Cell} (found : sheets[index]? = some sheet) (mem : cell ∈ sheet.cells) :
    isSelected selected index cell = true ↔ Selected selection findings (cell.place index) := by
  obtain ⟨chosen, columns, read⟩ := bind_ok_iff.mp read
  cases read
  have listed := selectColumns_ok columns found mem
  rw [isSelected, List.contains_iff_mem, List.mem_dedup, List.mem_append, mem_selectFindings]
  exact or_congr_right listed

/-! ### Output -/

theorem cellRedacted (chosen : Bool) {selected : Prop} (same : chosen = true ↔ selected) (cell : Cell) :
    CellRedacted selected cell (if chosen then cell.redact else cell) := by
  cases chosen with
  | true =>
      have selected := same.mp rfl
      exact ⟨rfl, rfl, rfl, fun _ => ⟨rfl, rfl⟩, fun other => absurd selected other⟩
  | false =>
      have other : ¬selected := fun selected => Bool.false_ne_true (same.mpr selected)
      exact ⟨rfl, rfl, rfl, fun selected => absurd selected other, fun _ => ⟨rfl, rfl⟩⟩

theorem sheetRedacted {sheet : Sheet} {chosen : Cell → Bool} {selected : Cell → Prop}
    (same : ∀ cell ∈ sheet.cells, chosen cell = true ↔ selected cell) :
    SheetRedacted selected sheet (sheet.redact chosen) := by
  refine ⟨rfl, rfl, ?_⟩
  rw [Sheet.redact, List.forall₂_map_right_iff, List.forall₂_same]
  intro row rowMem
  refine ⟨rfl, ?_⟩
  rw [List.forall₂_map_right_iff, List.forall₂_same]
  intro cell cellMem
  exact cellRedacted (chosen cell) (same cell (List.mem_flatMap.mpr ⟨row, rowMem, cellMem⟩)) cell

theorem redactedFrom {chosen : Nat → Cell → Bool} {selected : Coordinate → Prop}
    (same : ∀ index sheet, sheets[index]? = some sheet → ∀ cell ∈ sheet.cells,
      chosen index cell = true ↔ selected (cell.place index)) :
    RedactedFrom selected sheets (redactSheets sheets chosen) := by
  refine ⟨by simp [redactSheets], fun index sheet found => ⟨sheet.redact (chosen index), ?_, ?_⟩⟩
  · simp [redactSheets, found]
  · exact sheetRedacted (same index sheet found)

/-- The selected cells of the sheets. -/
def selectedCells (selected : Coordinate → Prop) [DecidablePred selected] (sheets : List Sheet) : List Coordinate :=
  sheets.zipIdx.flatMap fun numbered =>
    (numbered.1.cells.map fun cell => cell.place numbered.2).filter fun place => selected place

theorem countChosen_eq {chosen : Nat → Cell → Bool} {selected : Coordinate → Prop} [DecidablePred selected]
    (same : ∀ index sheet, sheets[index]? = some sheet → ∀ cell ∈ sheet.cells,
      chosen index cell = true ↔ selected (cell.place index)) :
    countChosen sheets chosen = (selectedCells selected sheets).length := by
  unfold countChosen selectedCells
  rw [List.mapIdx_eq_zipIdx_map, List.length_flatMap]
  congr 1
  refine List.map_congr_left fun numbered mem => ?_
  have found := List.mem_zipIdx_iff_getElem?.mp mem
  rw [← List.countP_eq_length_filter, List.countP_map]
  refine List.countP_congr fun cell inside => ?_
  simpa using same _ _ found cell inside

/-! ### What the output still contains

The findings of the output are computed cell by cell. A redacted cell holds the marker, in which nothing is
detected, and every other cell holds the text it had, at the place it had; so a scan of the output reports what the
input reported outside the selection. -/

variable {runtime : WorkbookRuntime} {categories : List Category} {region : Option String}

theorem reportCell_places {index : Nat} {cell : Cell} {key : Coordinate × Category}
    (mem : key ∈ reportCell runtime categories region index cell) : key.1 = cell.place index := by
  unfold reportCell at mem
  split at mem
  · obtain ⟨category, _, rfl⟩ := List.mem_map.mp mem
    rfl
  · cases mem

/-- A cell that is redacted reports nothing any more, and the others what they have reported. -/
theorem report_redacted (email : runtime.isEmail "REDACTED" = false) (ip : runtime.isIP "REDACTED" = false)
    {selected : Coordinate → Prop} [DecidablePred selected] {index : Nat} {cell : Cell} {chosen : Bool}
    (same : chosen = true ↔ selected (cell.place index)) :
    reportCell runtime categories region index (if chosen then cell.redact else cell) =
      (reportCell runtime categories region index cell).filter fun key => ¬selected key.1 := by
  cases chosen with
  | true =>
      have here := same.mp rfl
      have nothing : (reportCell runtime categories region index cell).filter (fun key => ¬selected key.1) = [] := by
        refine List.filter_eq_nil_iff.mpr fun key mem => ?_
        simpa [reportCell_places mem] using here
      rw [nothing]
      simp [reportCell, Cell.redact, detect_marker email ip]
  | false =>
      have other : ¬selected (cell.place index) := fun selected => Bool.false_ne_true (same.mpr selected)
      symm
      refine List.filter_eq_self.mpr fun key mem => ?_
      simpa [reportCell_places mem] using other

theorem zipIdx_redactSheets (chosen : Nat → Cell → Bool) :
    (redactSheets sheets chosen).zipIdx =
      sheets.zipIdx.map fun numbered => (numbered.1.redact (chosen numbered.2), numbered.2) := by
  refine List.ext_getElem? fun index => ?_
  cases found : sheets[index]? <;> simp [redactSheets, found]

theorem cells_redact (sheet : Sheet) (chosen : Cell → Bool) :
    (sheet.redact chosen).cells = sheet.cells.map fun cell => if chosen cell then cell.redact else cell := by
  simp [Sheet.cells, Sheet.redact, List.map_flatMap, List.flatMap_map]

theorem reported_redacted (email : runtime.isEmail "REDACTED" = false) (ip : runtime.isIP "REDACTED" = false)
    {selected : Coordinate → Prop} [DecidablePred selected] {chosen : Nat → Cell → Bool}
    (same : ∀ index sheet, sheets[index]? = some sheet → ∀ cell ∈ sheet.cells,
      chosen index cell = true ↔ selected (cell.place index)) :
    reported runtime categories region (redactSheets sheets chosen) =
      (reported runtime categories region sheets).filter fun key => ¬selected key.1 := by
  unfold reported
  rw [zipIdx_redactSheets, List.flatMap_map, List.filter_flatMap]
  refine List.flatMap_congr fun numbered mem => ?_
  have found := List.mem_zipIdx_iff_getElem?.mp mem
  rw [cells_redact, List.flatMap_map, List.filter_flatMap]
  refine List.flatMap_congr fun cell inside => ?_
  exact report_redacted email ip (same _ _ found cell inside)

/-! ### Exact redaction -/

/-- Where the engine returns a workbook, with the scan and the sheets of its input: the output has the sheets of the
input with the marker in the selected cells and in no others; it counts them; and the scan of the output finds what the
scan of the input has found outside them, hence nothing of a selected category. The scanner and the strict profile read
the same cells, which is what makes the scan of the output say anything of its sheets. -/
theorem redaction_exact {limits : GuardLimits} {input : Bytes} {options : SanitizationOptions}
    {result : SanitizationResult} (conforming : Conforming runtime) (email : runtime.isEmail "REDACTED" = false)
    (ip : runtime.isIP "REDACTED" = false)
    (returned : sanitizeWorkbook runtime input options limits = .ok result) :
    ∃ scan sheets rescan sheets',
      scanWorkbook runtime input options.categories options.phoneRegion limits = .ok scan ∧
      supported runtime input limits = .ok sheets ∧
      scanWorkbook runtime result.bytes options.categories options.phoneRegion limits = .ok rescan ∧
      supported runtime result.bytes limits = .ok sheets' ∧
      RedactedFrom (Selected options.selection scan.findings) sheets sheets' ∧
      result.redactedCells = (selectedCells (Selected options.selection scan.findings) sheets).length ∧
      rescan.findings.map findingKey =
        (scan.findings.map findingKey).filter (fun key => ¬Selected options.selection scan.findings key.1) ∧
      ∀ finding ∈ rescan.findings, finding.category ∉ options.selection.categories := by
  obtain ⟨scan, scanned, returned⟩ := bind_ok_iff.mp (mapError_ok_iff.mp returned)
  obtain ⟨_, _, returned⟩ := bind_ok_iff.mp returned
  obtain ⟨sheets, read, returned⟩ := bind_ok_iff.mp returned
  obtain ⟨selected, chosen, returned⟩ := bind_ok_iff.mp returned
  obtain ⟨_, _, returned⟩ := bind_ok_iff.mp returned
  obtain ⟨_, _, returned⟩ := bind_ok_iff.mp returned
  obtain ⟨output, _, returned⟩ := bind_ok_iff.mp returned
  obtain ⟨rescan, rescanned, returned⟩ := bind_ok_iff.mp returned
  obtain ⟨reopened, reread, returned⟩ := bind_ok_iff.mp returned
  obtain ⟨_, verified, returned⟩ := bind_ok_iff.mp returned
  cases returned
  have verified : reopened = redactSheets sheets (isSelected selected) := by
    simpa using require_ok_iff.mp verified
  have same : ∀ index sheet, sheets[index]? = some sheet → ∀ cell ∈ sheet.cells,
      isSelected selected index cell = true ↔ Selected options.selection scan.findings (cell.place index) :=
    fun index sheet found cell mem => selectCells_ok chosen found mem
  have keys : rescan.findings.map findingKey =
      (scan.findings.map findingKey).filter (fun key => ¬Selected options.selection scan.findings key.1) := by
    rw [scan_agrees conforming rescanned reread, scan_agrees conforming scanned read, verified]
    exact reported_redacted email ip same
  refine ⟨scan, sheets, rescan, reopened, scanned, read, rescanned, reread, ?_, countChosen_eq same, keys, ?_⟩
  · rw [verified]
    exact redactedFrom same
  · intro finding mem category
    have listed : findingKey finding ∈ rescan.findings.map findingKey := List.mem_map_of_mem mem
    rw [keys, List.mem_filter] at listed
    obtain ⟨found, unselected⟩ := listed
    obtain ⟨source, sourceMem, key⟩ := List.mem_map.mp found
    have place : findingPlace source = findingPlace finding := congrArg Prod.fst key
    have sameCategory : source.category = finding.category := congrArg Prod.snd key
    have selected : Selected options.selection scan.findings (findingPlace finding) :=
      .inl ⟨source, sourceMem, sameCategory ▸ category, place⟩
    simp only [decide_eq_true_eq] at unselected
    exact unselected selected

/-! ### A small workbook -/

def plainAttribute (name value : String) : SaxesAttribute := ⟨name, name, "", value⟩

def defaultNamespace (uri : String) : SaxesAttribute := ⟨"xmlns", "xmlns", XMLNS, uri⟩

def qualifiedAttribute (qualifier name uri value : String) : SaxesAttribute :=
  ⟨qualifier ++ ":" ++ name, name, uri, value⟩

/-- A leaf element. -/
def leaf (name uri : String) (attributes : List SaxesAttribute) (rest : Content SaxesTag) : Content SaxesTag :=
  .element ⟨name, uri, attributes⟩ .empty rest

/-- A sheet with a text in `A1` and one in `B1`. -/
def smallSheet (first : String) : Sheet :=
  ⟨"visible", [⟨[("r", "1")], [⟨"A1", 1, 1, "inlineStr", first⟩, ⟨"B1", 1, 2, "inlineStr", "paid"⟩]⟩], []⟩

def inlineCell (address value : String) (rest : Content SaxesTag) : Content SaxesTag :=
  .element ⟨"c", MAIN, [plainAttribute "r" address, plainAttribute "t" "inlineStr"]⟩
    (.element ⟨"is", MAIN, []⟩
      (.element ⟨"t", MAIN, [qualifiedAttribute "xml" "space" "http://www.w3.org/XML/1998/namespace" "preserve"]⟩
        (.text value .empty) .empty) .empty) rest

def smallSheetDocument (first : String) : Document SaxesTag :=
  ⟨[], ⟨"worksheet", MAIN, [defaultNamespace MAIN]⟩,
    .element ⟨"sheetData", MAIN, []⟩
      (.element ⟨"row", MAIN, [plainAttribute "r" "1"]⟩
        (inlineCell "A1" first (inlineCell "B1" "paid" .empty)) .empty) .empty, []⟩

def contentTypesNamespace : String := "http://schemas.openxmlformats.org/package/2006/content-types"

def spreadsheetType (name : String) : String :=
  "application/vnd.openxmlformats-officedocument.spreadsheetml." ++ name ++ "+xml"

def smallDocuments : List (String × Document SaxesTag) :=
  [(contentTypesXml [smallSheet ""],
      ⟨[], ⟨"Types", contentTypesNamespace, [defaultNamespace contentTypesNamespace]⟩,
        leaf "Default" contentTypesNamespace [plainAttribute "Extension" "rels",
          plainAttribute "ContentType" "application/vnd.openxmlformats-package.relationships+xml"] <|
        leaf "Default" contentTypesNamespace [plainAttribute "Extension" "xml",
          plainAttribute "ContentType" "application/xml"] <|
        leaf "Override" contentTypesNamespace [plainAttribute "PartName" "/xl/workbook.xml",
          plainAttribute "ContentType" (spreadsheetType "sheet.main")] <|
        leaf "Override" contentTypesNamespace [plainAttribute "PartName" "/xl/worksheets/sheet1.xml",
          plainAttribute "ContentType" (spreadsheetType "worksheet")] .empty, []⟩),
    (packageXml,
      ⟨[], ⟨"Relationships", REL, [defaultNamespace REL]⟩,
        leaf "Relationship" REL [plainAttribute "Id" "rId1", plainAttribute "Type" (OFFICE ++ "/officeDocument"),
          plainAttribute "Target" "xl/workbook.xml"] .empty, []⟩),
    (bookXml [smallSheet ""],
      ⟨[], ⟨"workbook", MAIN, [defaultNamespace MAIN, qualifiedAttribute "xmlns" "r" XMLNS OFFICE]⟩,
        .element ⟨"sheets", MAIN, []⟩
          (leaf "sheet" MAIN [plainAttribute "name" "Sheet 1", plainAttribute "sheetId" "1",
            plainAttribute "state" "visible", qualifiedAttribute "r" "id" OFFICE "rId1"] .empty) .empty, []⟩),
    (bookRelationshipsXml [smallSheet ""],
      ⟨[], ⟨"Relationships", REL, [defaultNamespace REL]⟩,
        leaf "Relationship" REL [plainAttribute "Id" "rId1", plainAttribute "Type" (OFFICE ++ "/worksheet"),
          plainAttribute "Target" "worksheets/sheet1.xml"] .empty, []⟩),
    (sheetXml (smallSheet "4111 1111 1111 1111"), smallSheetDocument "4111 1111 1111 1111"),
    (sheetXml (smallSheet redactionMarker), smallSheetDocument redactionMarker)]

def smallRuntime : WorkbookRuntime := { archiveRuntime with saxes := tableParser smallDocuments }

theorem smallRuntime_conforming : Conforming smallRuntime :=
  tableParser_conforming rfl (by decide +kernel)


/-- The texts of `A1`, before and after. -/
def smallTexts : List String := ["4111 1111 1111 1111", redactionMarker]

theorem small_parts : ∀ first ∈ smallTexts, WorkbookParts {} (generateParts [smallSheet first]) := by
  intro first mem
  constructor
  case few => exact Nat.le_of_ble_eq_true rfl
  case named =>
    have named : (smallTexts.all fun first => (generateParts [smallSheet first]).all fun part => isPartName part.1) =
        true := by decide +kernel
    exact List.all_eq_true.mp (List.all_eq_true.mp named first mem)
  case distinct =>
    have distinct : (smallTexts.all fun first =>
        decide ((generateParts [smallSheet first]).map fun part => asciiLower part.1).Nodup) = true := by decide +kernel
    exact of_decide_eq_true (List.all_eq_true.mp distinct first mem)
  case contentTypes => simp [generateParts]
  case workbook => simp [generateParts]
  case relationships => simp [generateParts]
  case bodies =>
    have bodies : (smallTexts.all fun first => (generateParts [smallSheet first]).all fun part =>
        (utf8 part.2).length ≤ ({} : GuardLimits).entryBytes) = true := by
      simp only [utf8_eq]
      decide +kernel
    intro part held
    exact of_decide_eq_true (List.all_eq_true.mp (List.all_eq_true.mp bodies first mem) part held)

def smallWorkbook (first : String) : Bytes := layout (generateParts [smallSheet first])

theorem small_generated : ∀ first ∈ smallTexts, generate [smallSheet first] {} = .ok (smallWorkbook first) := by
  intro first mem
  apply writeXlsx_fits
  · decide
  · exact Nat.le_of_ble_eq_true rfl
  · have names : (smallTexts.all fun first => (generateParts [smallSheet first]).all fun part =>
        (utf8 part.1).length < 2 ^ 16) = true := by decide +kernel
    intro part held
    exact of_decide_eq_true (List.all_eq_true.mp (List.all_eq_true.mp names first mem) part held)
  · have room : (smallTexts.all fun first =>
        ((generateParts [smallSheet first]).map fun part => 30 + (utf8 part.1).length + (utf8 part.2).length).sum +
          ((generateParts [smallSheet first]).map fun part => 46 + (utf8 part.1).length).sum + 22 ≤
            ({} : GuardLimits).compressedBytes) = true := by
      simp only [utf8_eq]
      decide +kernel
    rw [layout_length, localRecords_length, directory_length]
    exact of_decide_eq_true (List.all_eq_true.mp room first mem)

/-- The parts of the small workbooks, as they are read. -/
def smallPartsRead (first : String) : Parts :=
  (generateParts [smallSheet first]).map fun part => (asciiLower part.1, part.2.toUTF8.data.toList)

theorem small_preflight : ∀ first ∈ smallTexts,
    preflight smallRuntime (smallWorkbook first) {} = .ok (smallPartsRead first) := by
  intro first mem
  have read : preflight smallRuntime (smallWorkbook first) {} =
      .ok ((generateParts [smallSheet first]).map fun part => (asciiLower part.1, utf8 part.2)) :=
    preflight_written storedReader_reads asciiLower_lowers (small_parts first mem)
      (writeXlsx_ok (small_generated first mem))
  simp only [utf8_eq] at read
  exact read

def smallScan (findings : List SafeFinding) : ScanResponse :=
  ⟨findings, 2, 1, [.cellTextOnly, .metadataNotScanned], .limited⟩

def smallFinding : SafeFinding := ⟨0, 0, 1, 1, .paymentCard, .checksumValid, false⟩

theorem small_scan_before :
    scanWorkbook smallRuntime (smallWorkbook "4111 1111 1111 1111") [.paymentCard] none {} =
      .ok (smallScan [smallFinding]) := by
  unfold scanWorkbook scan
  rw [small_preflight _ (by decide)]
  decide +kernel

theorem small_scan_after :
    scanWorkbook smallRuntime (smallWorkbook redactionMarker) [.paymentCard] none {} = .ok (smallScan []) := by
  unfold scanWorkbook scan
  rw [small_preflight _ (by decide)]
  decide +kernel

theorem small_supported : ∀ first ∈ smallTexts,
    supported smallRuntime (smallWorkbook first) {} = .ok [smallSheet first] := by
  intro first mem
  unfold supported
  rw [small_preflight _ mem]
  rcases List.mem_cons.mp mem with rfl | mem
  · decide +kernel
  · cases List.mem_singleton.mp mem
    decide +kernel

def smallOptions : SanitizationOptions where
  selection := ⟨[.paymentCard], []⟩
  categories := [.paymentCard]
  phoneRegion := none
  findingsDigest := 1

theorem small_sanitized : ∃ result,
    sanitizeWorkbook smallRuntime (smallWorkbook "4111 1111 1111 1111") smallOptions {} = .ok result := by
  have chosen : selectCells [smallSheet "4111 1111 1111 1111"] [smallFinding] smallOptions.selection =
      .ok [⟨0, 1, 1⟩] := by decide +kernel
  have redacted : redactSheets [smallSheet "4111 1111 1111 1111"] (isSelected [⟨0, 1, 1⟩]) =
      [smallSheet redactionMarker] := by decide +kernel
  have counted : countChosen [smallSheet "4111 1111 1111 1111"] (isSelected [⟨0, 1, 1⟩]) = 1 := by decide +kernel
  simp only [sanitizeWorkbook, sanitize, mapError_ok_iff, bind_ok_iff, require_ok_iff]
  refine ⟨_, _, small_scan_before, (), rfl, _, small_supported _ (by decide), _, chosen, (), rfl, (), ?_, _, ?_, _,
    small_scan_after, _, small_supported _ (by decide), (), ?_, rfl⟩
  · rw [counted]
    rfl
  · rw [redacted]
    exact small_generated _ (by decide)
  · rw [redacted]
    exact decide_eq_true rfl

/-- A card number is redacted. -/
theorem redaction_exact_small : ∃ result scan sheets rescan sheets',
    sanitizeWorkbook smallRuntime (smallWorkbook "4111 1111 1111 1111") smallOptions {} = .ok result ∧
      scanWorkbook smallRuntime (smallWorkbook "4111 1111 1111 1111") [.paymentCard] none {} = .ok scan ∧
      supported smallRuntime (smallWorkbook "4111 1111 1111 1111") {} = .ok sheets ∧
      scanWorkbook smallRuntime result.bytes [.paymentCard] none {} = .ok rescan ∧
      supported smallRuntime result.bytes {} = .ok sheets' ∧
      RedactedFrom (Selected smallOptions.selection scan.findings) sheets sheets' ∧
      result.redactedCells = (selectedCells (Selected smallOptions.selection scan.findings) sheets).length ∧
      rescan.findings.map findingKey = (scan.findings.map findingKey).filter
        (fun key => ¬Selected smallOptions.selection scan.findings key.1) ∧
      ∀ finding ∈ rescan.findings, finding.category ∉ smallOptions.selection.categories := by
  rcases small_sanitized with ⟨result, returned⟩
  rcases redaction_exact smallRuntime_conforming rfl rfl returned with ⟨scan, sheets, rescan, sheets', exact⟩
  exact ⟨result, scan, sheets, rescan, sheets', returned, exact⟩

end DataVault.Workbook
