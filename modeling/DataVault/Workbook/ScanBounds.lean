/-
Module: DataVault.Workbook.ScanBounds
Layer: Proof
Purpose: The limits on what a scan returns, for every workbook that it accepts: its findings are numbered, few and in
  range, of requested categories, and its counters and flags are within their bounds.
Imports: DataVault.Workbook.PreflightBounds, DataVault.Workbook.Sanitize, Mathlib.Data.List.TakeDrop,
  Mathlib.Data.List.TakeWhile
Trusted boundary: none
Main exports: SoundFindings, SoundScan, scanWorkbook_sound, SoundSanitization, sanitizeWorkbook_sound
-/
import DataVault.Workbook.PreflightBounds
import DataVault.Workbook.Sanitize
import Mathlib.Data.List.TakeDrop
import Mathlib.Data.List.TakeWhile

namespace DataVault.Workbook

open DataVault.Control DataVault.Guard DataVault.Xml

/-! ### What is sound -/

/-- A finding in the first `sheets` sheets, within the limits and of a requested category. -/
structure SoundFinding (limits : GuardLimits) (categories : List Category) (sheets : Nat) (finding : SafeFinding) :
    Prop where
  sheet : finding.sheetIndex < sheets
  row : 1 ≤ finding.row ∧ finding.row ≤ limits.rows
  column : 1 ≤ finding.column ∧ finding.column ≤ limits.columns
  category : finding.category ∈ categories

structure SoundFindings (limits : GuardLimits) (categories : List Category) (sheets : Nat)
    (findings : List SafeFinding) : Prop where
  numbered : findings.map (·.ordinal) = List.range findings.length
  few : findings.length ≤ limits.findings
  each : ∀ finding ∈ findings, SoundFinding limits categories sheets finding

structure SoundScan (limits : GuardLimits) (categories : List Category) (result : ScanResponse) : Prop where
  cells : result.processedCells ≤ limits.cells
  sheets : 1 ≤ result.sheets ∧ result.sheets ≤ limits.sheets
  flags : result.compatibilityFlags.length ≤ 9
  coverage : result.coverage = .limited
  findings : SoundFindings limits categories result.sheets result.findings

/-! ### Findings -/

theorem SoundFindings.mono {limits : GuardLimits} {categories : List Category} {few more : Nat}
    {findings : List SafeFinding} (sound : SoundFindings limits categories few findings) (fewer : few ≤ more) :
    SoundFindings limits categories more findings where
  numbered := sound.numbered
  few := sound.few
  each finding mem :=
    { sound.each finding mem with
      sheet := Nat.lt_of_lt_of_le (sound.each finding mem).sheet fewer }

theorem detect_mem {runtime : WorkbookRuntime} {text : String} {categories : List Category} {region : Option String}
    {category : Category} (mem : category ∈ detect runtime text categories region) : category ∈ categories := by
  have listed := ((List.perm_insertionSort _ _).mem_iff).mp mem
  rw [List.mem_filter, Bool.and_eq_true, List.contains_iff_mem] at listed
  exact listed.2.1

/-! ### Addresses -/

theorem columnNumber_pos {letters : List Char} (filled : letters ≠ []) (capital : ∀ c ∈ letters, 'A' ≤ c) :
    1 ≤ columnNumber letters := by
  have grows : ∀ (rest : List Char) (column : Nat), 1 ≤ column →
      1 ≤ rest.foldl (fun column c => column * 26 + (c.toNat - 64)) column := by
    intro rest
    induction rest with
    | nil => exact fun _ positive => positive
    | cons c rest ih => exact fun column positive => ih _ (show 1 ≤ column * 26 + _ by omega)
  cases letters with
  | nil => exact absurd rfl filled
  | cons c rest =>
      have large : 65 ≤ c.toNat := capital c (.head _)
      exact grows rest _ (show 1 ≤ 0 * 26 + (c.toNat - 64) by omega)

theorem scanAddress_pos {address : String} {column row : Nat} (read : scanAddress address = some (column, row)) :
    1 ≤ column := by
  unfold scanAddress at read
  simp only at read
  split at read
  case isTrue shape =>
    cases read
    apply columnNumber_pos shape.1
    intro c mem
    rw [splitAddress, List.span_eq_takeWhile_dropWhile] at mem
    have letter := List.mem_takeWhile_imp mem
    simp only [Bool.and_eq_true, decide_eq_true_eq] at letter
    exact letter.1
  case isFalse => cases read

theorem integer_range {value : Option String} {least number : Nat} {most : Int}
    (read : integer value least most = .ok number) : least ≤ number ∧ (number : Int) ≤ most := by
  simp only [integer, bind_ok_iff, require_ok_iff, orFail_ok_iff, Bool.and_eq_true, decide_eq_true_eq] at read
  rcases read with ⟨_, _, _, ⟨⟨_, low⟩, high⟩, done⟩
  cases done
  exact ⟨low, high⟩

/-! ### One sheet

The pass over a sheet keeps counters, a set of columns and the findings so far. `SheetSound` bounds all of them at
once, and every kind of tag keeps it; the bounds on a row or a column come from the checks at its own tag. -/

/-- The state of the pass over a sheet: counters and places within the limits, and findings of requested categories at
places of this sheet. -/
structure SheetSound (context : SheetContext) (s : SheetScan) : Prop where
  cells : s.cells ≤ context.limits.cells
  row : s.rowOpen = true → 1 ≤ s.row ∧ s.row ≤ context.limits.rows
  cell : ∀ cell, s.cell = some cell → (1 ≤ cell.row ∧ cell.row ≤ context.limits.rows) ∧
    1 ≤ cell.column ∧ cell.column ≤ context.limits.columns
  findings : SoundFindings context.limits context.categories (context.sheetIndex + 1) s.findings
  flags : s.flags.Nodup

section Sheet

variable {context : SheetContext} {s s' : SheetScan}

theorem scanColumn_sound {tag : SaxesTag} (sound : SheetSound context s) (step : context.scanColumn tag s = .ok s') :
    SheetSound context s' := by
  simp only [SheetContext.scanColumn, bind_ok_iff] at step
  rcases step with ⟨_, _, _, _, done⟩
  split at done <;> cases done
  · exact ⟨sound.cells, sound.row, sound.cell, sound.findings, sound.flags⟩
  · exact sound

theorem scanRow_sound {tag : SaxesTag} (sound : SheetSound context s) (step : context.scanRow tag s = .ok s') :
    SheetSound context s' := by
  simp only [SheetContext.scanRow, bind_ok_iff, require_ok_iff] at step
  rcases step with ⟨_, _, next, number, _, _, done⟩
  cases done
  have range := integer_range number
  exact ⟨sound.cells, fun _ => ⟨range.1, by exact_mod_cast range.2⟩, sound.cell, sound.findings, sound.flags⟩

theorem scanCell_sound {tag : SaxesTag} (sound : SheetSound context s) (step : context.scanCell tag s = .ok s') :
    SheetSound context s' := by
  simp only [SheetContext.scanCell, bind_ok_iff, require_ok_iff, orFail_ok_iff, Bool.and_eq_true,
    decide_eq_true_eq] at step
  rcases step with ⟨_, open_, _, ⟨_, cells⟩, ⟨column, row⟩, address, _, _, _, columns, _, _, done⟩
  cases done
  refine ⟨cells, sound.row, fun cell same => ?_, sound.findings, sound.flags⟩
  cases same
  exact ⟨sound.row open_, scanAddress_pos address, columns⟩

/-- The elements that are noted change the flags only. -/
theorem SheetSound.noted (sound : SheetSound context s) {flags : List CompatibilityFlag} (nodup : flags.Nodup)
    (root : Bool) : SheetSound context { s with root := root, flags := flags } :=
  ⟨sound.cells, sound.row, sound.cell, sound.findings, nodup⟩

theorem addFlag_nodup {flag : CompatibilityFlag} {flags : List CompatibilityFlag} (nodup : flags.Nodup) :
    (addFlag flag flags).Nodup := nodup.insert

theorem addFlag_if_nodup {flag : CompatibilityFlag} {flags : List CompatibilityFlag} {P : Prop} [Decidable P]
    (nodup : flags.Nodup) : (if P then addFlag flag flags else flags).Nodup := by
  split
  · exact addFlag_nodup nodup
  · exact nodup

theorem openTag_sound {tag : SaxesTag} (sound : SheetSound context s) (step : context.openTag tag s = .ok s') :
    SheetSound context s' := by
  simp only [SheetContext.openTag, bind_ok_iff, require_ok_iff] at step
  rcases step with ⟨_, _, step⟩
  have unsupported : (if SheetContext.isUnsupportedElement tag.localName = true then
      addFlag .unsupportedElements s.flags else s.flags).Nodup := addFlag_if_nodup sound.flags
  have merged : (if tag.localName = "mergeCell" then addFlag .mergedCells
      (if SheetContext.isUnsupportedElement tag.localName = true then addFlag .unsupportedElements s.flags
        else s.flags) else
      (if SheetContext.isUnsupportedElement tag.localName = true then addFlag .unsupportedElements s.flags
        else s.flags)).Nodup := addFlag_if_nodup unsupported
  have noted := sound.noted merged (s.root || decide (tag.localName = "worksheet"))
  split at step
  · exact scanColumn_sound noted step
  split at step
  · rcases bind_ok_iff.mp step with ⟨_, _, done⟩
    cases done
    exact ⟨noted.cells, noted.row, noted.cell, noted.findings, noted.flags⟩
  split at step
  · exact scanRow_sound noted step
  split at step
  · exact scanCell_sound noted step
  split at step
  · cases step
    refine ⟨noted.cells, noted.row, fun cell same => ?_, noted.findings, addFlag_nodup noted.flags⟩
    rcases Option.map_eq_some_iff.mp same with ⟨opened, held, rfl⟩
    exact noted.cell opened held
  split at step
  · cases step
    exact ⟨noted.cells, noted.row, noted.cell, noted.findings, noted.flags⟩
  · cases step
    exact noted

theorem readText_sound {text : String} (sound : SheetSound context s) (step : context.readText text s = .ok s') :
    SheetSound context s' := by
  unfold SheetContext.readText at step
  split at step
  · rename_i cell held
    split at step
    · simp only [bind_ok_iff] at step
      rcases step with ⟨_, _, done⟩
      cases done
      refine ⟨sound.cells, sound.row, fun other same => ?_, sound.findings, sound.flags⟩
      cases same
      exact sound.cell cell held
    · cases step
      exact sound
  · cases step
    exact sound

/-- The findings of one cell. -/
theorem addFinding_sound {cell : ScannedCell} {findings findings' : List SafeFinding} {category : Category}
    (place : (1 ≤ cell.row ∧ cell.row ≤ context.limits.rows) ∧ 1 ≤ cell.column ∧ cell.column ≤ context.limits.columns)
    (requested : category ∈ context.categories)
    (sound : SoundFindings context.limits context.categories (context.sheetIndex + 1) findings)
    (step : context.addFinding s cell findings category = .ok findings') :
    SoundFindings context.limits context.categories (context.sheetIndex + 1) findings' := by
  simp only [SheetContext.addFinding, bind_ok_iff, require_ok_iff, decide_eq_true_eq] at step
  rcases step with ⟨_, room, done⟩
  cases done
  constructor
  case numbered =>
    rw [List.map_append, List.map_singleton, sound.numbered, List.length_append, List.length_singleton,
      List.range_succ]
  case few =>
    rw [List.length_append, List.length_singleton]
    exact room
  case each =>
    intro finding mem
    rcases List.mem_append.mp mem with earlier | here
    · exact sound.each finding earlier
    · cases List.mem_singleton.mp here
      exact ⟨Nat.lt_succ_self _, place.1, place.2, requested⟩

theorem closeCell_sound {cell : ScannedCell} (sound : SheetSound context s)
    (place : (1 ≤ cell.row ∧ cell.row ≤ context.limits.rows) ∧ 1 ≤ cell.column ∧ cell.column ≤ context.limits.columns)
    (step : context.closeCell cell s = .ok s') : SheetSound context s' := by
  simp only [SheetContext.closeCell, bind_ok_iff] at step
  rcases step with ⟨⟨text, index⟩, _, findings, added, done⟩
  cases done
  have requested : ∀ category ∈ text.elim [] fun text =>
      detect context.runtime text context.categories context.phoneRegion, category ∈ context.categories := by
    intro category mem
    cases text with
    | none => cases mem
    | some text => exact detect_mem mem
  have kept := foldlM_ok_keeps (fun category mem before after held step =>
    addFinding_sound place (requested category mem) held step) sound.findings added
  exact ⟨sound.cells, sound.row, nofun, kept, sound.flags⟩

theorem closeTag_sound {tag : SaxesTag} (sound : SheetSound context s) (step : context.closeTag tag s = .ok s') :
    SheetSound context s' := by
  have closed : SheetSound context { s with
      rowOpen := s.rowOpen && tag.localName ≠ "row"
      dataOpen := s.dataOpen && tag.localName ≠ "sheetData"
      capture := s.capture && tag.localName ≠ "v" && tag.localName ≠ "t" } :=
    ⟨sound.cells, fun open_ => sound.row (Bool.and_eq_true_iff.mp open_).1, sound.cell, sound.findings, sound.flags⟩
  unfold SheetContext.closeTag at step
  dsimp only at step
  split at step
  · rename_i cell held
    split at step
    · exact closeCell_sound closed (closed.cell cell held) step
    · cases step
      exact closed
  · cases step
    exact closed

end Sheet

/-! ### The scan -/

section Totals

variable {runtime : WorkbookRuntime} {parts : Parts} {limits : GuardLimits} {categories : List Category}
  {phoneRegion : Option String} {strings : List String}

/-- The state between two sheets, the next one being number `index`. -/
structure TotalsSound (limits : GuardLimits) (categories : List Category) (index : Nat) (totals : ScanTotals) :
    Prop where
  cells : totals.cells ≤ limits.cells
  findings : SoundFindings limits categories index totals.findings
  flags : totals.flags.Nodup

theorem scanSheet_sound {totals totals' : ScanTotals} {sheet : SheetPath × Nat}
    (sound : TotalsSound limits categories sheet.2 totals)
    (step : scanSheet runtime parts categories phoneRegion limits strings totals sheet = .ok totals') :
    TotalsSound limits categories (sheet.2 + 1) totals' := by
  simp only [scanSheet, bind_ok_iff, require_ok_iff, orFail_ok_iff] at step
  rcases step with ⟨part, _, read, parsed, _, _, done⟩
  cases done
  let context : SheetContext := ⟨runtime, limits, categories, phoneRegion, strings, sheet.2, sheet.1.hidden⟩
  have start : SheetSound context
      { cells := totals.cells, findings := totals.findings, referenced := totals.referenced, flags := totals.flags } :=
    { cells := sound.cells
      row := by
        intro opened
        cases opened
      cell := by
        intro cell opened
        cases opened
      findings := sound.findings.mono (Nat.le_succ _)
      flags := sound.flags }
  have kept : SheetSound context read := context.sheetHandler.run_keeps (fun _ _ _ held step => openTag_sound held step)
    (fun _ _ _ held step => readText_sound held step) (fun _ _ _ held step => closeTag_sound held step) start
    (xml_ok parsed).2
  exact ⟨kept.cells, kept.findings, kept.flags⟩

theorem scanSheets_sound {sheets : List SheetPath} {index : Nat} {totals totals' : ScanTotals}
    (sound : TotalsSound limits categories index totals)
    (loop : (sheets.zipIdx index).foldlM (scanSheet runtime parts categories phoneRegion limits strings) totals =
      .ok totals') : TotalsSound limits categories (index + sheets.length) totals' := by
  induction sheets generalizing index totals with
  | nil =>
      cases loop
      exact sound
  | cons sheet sheets ih =>
      rw [List.zipIdx_cons, List.foldlM_cons] at loop
      rcases bind_ok_iff.mp loop with ⟨between, here, there⟩
      have further := ih (scanSheet_sound sound here) there
      rwa [List.length_cons, Nat.add_comm sheets.length, ← Nat.add_assoc]

theorem inspectTag_nodup {tag : SaxesTag} {flags flags' : List CompatibilityFlag} (nodup : flags.Nodup)
    (step : inspectTag tag flags = .ok flags') : flags'.Nodup := by
  unfold inspectTag at step
  split at step
  · simp only [bind_ok_iff] at step
    rcases step with ⟨_, _, _, _, done⟩
    cases done
    exact addFlag_if_nodup nodup
  · cases step
    exact nodup

theorem inspectPart_nodup {part : String × Bytes} {flags flags' : List CompatibilityFlag} (nodup : flags.Nodup)
    (step : inspectPart runtime limits flags part = .ok flags') : flags'.Nodup := by
  simp only [inspectPart, bind_ok_iff] at step
  rcases step with ⟨_, _, parsed⟩
  have start : (if isKnownPart part.1 then flags else addFlag .unsupportedParts flags).Nodup := by
    split
    · exact nodup
    · exact addFlag_nodup nodup
  exact Handler.run_keeps (P := List.Nodup) (fun _ _ _ held step => inspectTag_nodup held step)
    (fun _ _ _ held step => by cases step; exact held) (fun _ _ _ held step => by cases step; exact held) start
    (xml_ok parsed).2

/-- The state of the pass over the workbook. -/
def BookSound (limits : GuardLimits) (s : BookScan) : Prop := s.sheets.length ≤ limits.sheets ∧ s.flags.Nodup

theorem scanBook_sound {relationships : Relationships} {tag : SaxesTag} {s s' : BookScan} (sound : BookSound limits s)
    (step : scanBook relationships limits tag s = .ok s') : BookSound limits s' := by
  have flags : (if tag.localName = "definedName" then addFlag .definedNames s.flags else s.flags).Nodup :=
    addFlag_if_nodup sound.2
  simp only [scanBook, bind_ok_iff] at step
  rcases step with ⟨_, _, _, _, step⟩
  split at step
  · simp only [addSheet, bind_ok_iff, require_ok_iff, decide_eq_true_eq] at step
    rcases step with ⟨_, _, _, _, _, room, done⟩
    cases done
    refine ⟨?_, flags⟩
    rw [List.length_append, List.length_singleton]
    exact room
  · cases step
    exact ⟨sound.1, flags⟩

theorem scanSheetPaths_sound {flags : List CompatibilityFlag} {book : BookScan} (nodup : flags.Nodup)
    (read : scanSheetPaths runtime parts limits flags = .ok book) :
    BookSound limits book ∧ 1 ≤ book.sheets.length := by
  simp only [scanSheetPaths, bind_ok_iff, require_ok_iff, Bool.and_eq_true, Bool.not_eq_true'] at read
  rcases read with ⟨_, _, _, _, _, _, book, parsed, _, ⟨⟨_, filled⟩, _⟩, done⟩
  cases done
  have start : BookSound limits { flags := flags } := ⟨Nat.zero_le _, nodup⟩
  have sound : BookSound limits book := Handler.run_keeps (fun _ _ _ held step => scanBook_sound held step)
    (fun _ _ _ held step => by cases step; exact held) (fun _ _ _ held step => by cases step; exact held) start
    (xml_ok parsed).2
  refine ⟨sound, List.length_pos_iff.mpr fun empty => ?_⟩
  rw [empty] at filled
  cases filled

end Totals

/-- The flags of a result. -/
theorem flags_length {flags : List CompatibilityFlag} (nodup : flags.Nodup) : flags.length ≤ 9 := by
  have all : flags ⊆ [.cellTextOnly, .metadataNotScanned, .unsupportedParts, .hyperlinks, .definedNames, .formulas,
      .unsupportedElements, .mergedCells, .unreferencedSharedStrings] := by
    intro flag _
    cases flag <;> decide
  exact (List.subperm_of_subset nodup all).length_le

/-- What `scanWorkbook` returns is within the limits. -/
theorem scanWorkbook_sound {runtime : WorkbookRuntime} {input : Bytes} {categories : List Category}
    {phoneRegion : Option String} {limits : GuardLimits} {result : ScanResponse}
    (returned : scanWorkbook runtime input categories phoneRegion limits = .ok result) :
    SoundScan limits categories result := by
  have scanned := mapError_ok_iff.mp returned
  simp only [scan, bind_ok_iff] at scanned
  rcases scanned with ⟨parts, _, _, _, _, _, _, _, flags, inspected, book, paths, strings, _, totals, loop, done⟩
  cases done
  have start : ([.cellTextOnly, .metadataNotScanned] : List CompatibilityFlag).Nodup := by decide
  have noted : flags.Nodup :=
    foldlM_ok_keeps (P := List.Nodup) (fun _ _ _ _ held step => inspectPart_nodup held step) start inspected
  rcases scanSheetPaths_sound noted paths with ⟨⟨sheets, bookFlags⟩, filled⟩
  have empty : TotalsSound limits categories 0 { flags := book.flags } :=
    { cells := Nat.zero_le _
      findings :=
        { numbered := rfl
          few := Nat.zero_le _
          each := by
            intro finding mem
            cases mem }
      flags := bookFlags }
  have sound := scanSheets_sound empty loop
  rw [Nat.zero_add] at sound
  constructor
  case cells => exact sound.cells
  case sheets => exact ⟨filled, sheets⟩
  case flags =>
    rw [sortFlags, List.length_insertionSort]
    exact flags_length (addFlag_if_nodup sound.flags)
  case coverage => rfl
  case findings => exact sound.findings

/-! ### The sanitization -/

structure SoundSanitization (runtime : WorkbookRuntime) (limits : GuardLimits) (result : SanitizationResult) :
    Prop where
  filled : 1 ≤ result.bytes.length
  length : result.bytes.length ≤ limits.compressedBytes
  cells : 1 ≤ result.redactedCells ∧ result.redactedCells ≤ limits.cells
  digest : result.outputDigest = runtime.sha256 result.bytes

theorem preflight_length {runtime : WorkbookRuntime} {input : Bytes} {limits : GuardLimits} {parts : Parts}
    (accepted : preflight runtime input limits = .ok parts) :
    1 ≤ input.length ∧ input.length ≤ limits.compressedBytes := by
  simp only [preflight, bind_ok_iff, require_ok_iff, decide_eq_true_eq] at accepted
  rcases accepted with ⟨_, length, tail, _, _, room, _⟩
  exact ⟨by omega, length⟩

theorem sanitizeWorkbook_sound {runtime : WorkbookRuntime} {input : Bytes} {options : SanitizationOptions}
    {limits : GuardLimits} {result : SanitizationResult}
    (returned : sanitizeWorkbook runtime input options limits = .ok result) :
    SoundSanitization runtime limits result := by
  have sanitized := mapError_ok_iff.mp returned
  simp only [sanitize, bind_ok_iff, require_ok_iff, Bool.and_eq_true, Bool.not_eq_true', decide_eq_true_eq] at sanitized
  rcases sanitized with ⟨_, _, _, _, _, _, selected, _, _, ⟨filled, few⟩, _, changed, output, _, _, rescanned, _, _, _,
    _, done⟩
  cases done
  have scanned := mapError_ok_iff.mp rescanned
  simp only [scan, bind_ok_iff] at scanned
  rcases scanned with ⟨parts, accepted, _⟩
  rcases preflight_length accepted with ⟨least, most⟩
  have some_ : 1 ≤ selected.length := List.length_pos_iff.mpr fun empty => by
    rw [empty] at filled
    cases filled
  exact
    { filled := least
      length := most
      cells := by
        rw [changed]
        exact ⟨some_, few⟩
      digest := rfl }

end DataVault.Workbook
