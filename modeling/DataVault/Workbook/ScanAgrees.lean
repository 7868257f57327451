/-
Module: DataVault.Workbook.ScanAgrees
Layer: Proof
Purpose: The scanner and the strict profile read the same cells. On a workbook that both accept, the findings of the
  streaming scan are those of the detectors on the values of the cells that the profile returns, at the coordinates
  that the profile gives them.
Imports: DataVault.Workbook.SheetPaths
Trusted boundary: none
Main exports: findingKey, reportCell, reported, Reports, sheet_agrees, scan_agrees
-/
import DataVault.Workbook.SheetPaths

namespace DataVault.Workbook

open DataVault.Control DataVault.Guard DataVault.Xml

/-! ### What a scan reports -/

/-- A finding as a place and a category. -/
def findingKey (finding : SafeFinding) : Coordinate × Category := (findingPlace finding, finding.category)

/-- What is detected in a cell of the profile. -/
def reportCell (runtime : WorkbookRuntime) (categories : List Category) (region : Option String) (index : Nat)
    (cell : Cell) : List (Coordinate × Category) :=
  if cell.type = "inlineStr" then
    (detect runtime cell.value categories region).map fun category => (⟨index, cell.row, cell.column⟩, category)
  else []

/-- What is detected in the sheets of a workbook, in the order of the workbook. -/
def reported (runtime : WorkbookRuntime) (categories : List Category) (region : Option String)
    (sheets : List Sheet) : List (Coordinate × Category) :=
  sheets.zipIdx.flatMap fun numbered =>
    numbered.1.cells.flatMap (reportCell runtime categories region numbered.2)

/-- Between two cells. -/
def SheetScan.Idle (s : SheetScan) : Prop := s.cell = none ∧ s.capture = false

/-- The pass has added these findings and stands between two cells again. -/
structure Reports (found : List (Coordinate × Category)) (s s' : SheetScan) : Prop where
  idle : s'.Idle
  findings : s'.findings.map findingKey = s.findings.map findingKey ++ found

variable {s s' s'' : SheetScan} {found more : List (Coordinate × Category)}

theorem Reports.nothing (idle : s'.Idle) (same : s'.findings = s.findings) : Reports [] s s' :=
  ⟨idle, by rw [same, List.append_nil]⟩

theorem Reports.trans (first : Reports found s s') (second : Reports more s' s'') : Reports (found ++ more) s s'' :=
  ⟨second.idle, by rw [second.findings, first.findings, List.append_assoc]⟩

variable {context : SheetContext}

/-- Between two cells the scanner passes over character data. -/
theorem readText_idle {text : String} (idle : s.Idle) (read : context.readText text s = .ok s') : s' = s := by
  unfold SheetContext.readText at read
  rw [idle.1] at read
  exact (Except.ok.inj read).symm

/-! ### The text of a cell

The scanner sees characters as they come and keeps those that stand in `v`, or in the `t` of an inline string; the
profile sees the finished element. The passes over the small elements are computed here, down to one lemma that says
what a whole cell leaves in the buffer. -/

/-- What the scanner captures of a child of a cell. -/
def Element.captured (child : Element) : String :=
  if child.name = "is" then child.children.foldr (fun grandchild text => grandchild.text ++ text) "" else child.text

/-- The cell has read more text. -/
def SheetScan.append (s : SheetScan) (text : String) : SheetScan :=
  { s with cell := s.cell.map fun cell => { cell with value := cell.value ++ text } }

@[simp] theorem SheetScan.append_empty (s : SheetScan) : s.append "" = s := by
  cases s with
  | mk _ _ _ _ _ _ _ cell => cases cell <;> simp [SheetScan.append]

@[simp] theorem SheetScan.append_append (s : SheetScan) (first second : String) :
    (s.append first).append second = s.append (first ++ second) := by
  cases s with
  | mk _ _ _ _ _ _ _ cell => cases cell <;> simp [SheetScan.append, String.append_assoc]

@[simp] theorem SheetScan.append_isSome (s : SheetScan) (text : String) :
    (s.append text).cell.isSome = s.cell.isSome := by
  simp [SheetScan.append]

theorem readText_capturing {text : String} (inside : s.cell.isSome = true) (capturing : s.capture = true)
    (read : context.readText text s = .ok s') : s' = s.append text := by
  obtain ⟨cell, present⟩ := Option.isSome_iff_exists.mp inside
  unfold SheetContext.readText at read
  rw [present] at read
  simp only [capturing, if_true] at read
  obtain ⟨_, _, read⟩ := bind_ok_iff.mp read
  cases read
  simp [SheetScan.append, present, capturing]

theorem readText_passing {text : String} (passing : s.capture = false) (read : context.readText text s = .ok s') :
    s' = s := by
  unfold SheetContext.readText at read
  split at read
  · rw [passing, if_neg Bool.false_ne_true] at read
    exact (Except.ok.inj read).symm
  · exact (Except.ok.inj read).symm

/-- An element without children has text only, which is captured. -/
theorem run_leaf {content : Content SaxesTag} {parent : String} (admissible : Admissible parent content)
    (leaf : childNames parent = []) (ran : context.sheetHandler.run content.events s = .ok s')
    (inside : s.cell.isSome = true) (capturing : s.capture = true) : s' = s.append content.ownText := by
  induction content generalizing s with
  | empty =>
      obtain rfl := Handler.run_empty_ok.mp ran
      simp [Content.ownText]
  | text chunk rest ih =>
      obtain ⟨s₁, here, there⟩ := Handler.run_text_ok.mp ran
      obtain rfl := readText_capturing inside capturing here
      rw [ih admissible there (by simpa using inside) capturing]
      simp [Content.ownText]
  | element tag inner rest ihInner ihRest =>
      rw [Admissible, leaf] at admissible
      cases admissible.2.1

/-- The end of an element that is no cell. -/
theorem closeTag_other {tag : SaxesTag} (other : tag.localName ≠ "c") (closed : context.closeTag tag s = .ok s') :
    s' = { s with
      rowOpen := s.rowOpen && tag.localName ≠ "row"
      dataOpen := s.dataOpen && tag.localName ≠ "sheetData"
      capture := s.capture && tag.localName ≠ "v" && tag.localName ≠ "t" } := by
  unfold SheetContext.closeTag at closed
  dsimp only at closed
  split at closed
  · rw [if_neg other] at closed
    exact (Except.ok.inj closed).symm
  · exact (Except.ok.inj closed).symm

/-- `t` and `v` add their text to the cell. -/
theorem run_captured {tag : SaxesTag} {inner : Content SaxesTag} {s₁ s₂ : SheetScan}
    (named : tag.localName = "t" ∨ tag.localName = "v") (within : Admissible tag.localName inner)
    (opened : context.openTag tag s = .ok s₁) (ran : context.sheetHandler.run inner.events s₁ = .ok s₂)
    (closed : context.closeTag tag s₂ = .ok s') (inside : s.cell.isSome = true) (passing : s.capture = false) :
    s' = s.append inner.ownText := by
  have leaf : childNames tag.localName = [] := by rcases named with same | same <;> rw [same] <;> decide
  have first : s₁ = { s with capture := true } := by
    obtain ⟨_, _, opened⟩ := bind_ok_iff.mp opened
    rcases named with same | same
    · simp [same, inside, SheetContext.isUnsupportedElement] at opened
      exact (Except.ok.inj opened).symm
    · simp [same, inside, SheetContext.isUnsupportedElement] at opened
      exact (Except.ok.inj opened).symm
  have second := run_leaf within leaf ran (by rw [first]; exact inside) (by rw [first])
  have last : s' = { s₂ with capture := false } := by
    have other : tag.localName ≠ "c" := by rcases named with same | same <;> simp [same]
    rw [closeTag_other other closed]
    rcases named with same | same <;> simp [same]
  rw [last, second, first]
  cases s
  simp only at passing
  subst passing
  rfl

/-- An inline string adds the text of its `t`. -/
theorem run_inline {content : Content SaxesTag} (admissible : Admissible "is" content)
    (ran : context.sheetHandler.run content.events s = .ok s') (inside : s.cell.isSome = true)
    (passing : s.capture = false) :
    s' = s.append ((elementsOf content).foldr (fun child text => child.text ++ text) "") := by
  induction content generalizing s with
  | empty =>
      obtain rfl := Handler.run_empty_ok.mp ran
      simp [elementsOf]
  | text chunk rest ih =>
      obtain ⟨s₁, here, there⟩ := Handler.run_text_ok.mp ran
      obtain rfl := readText_passing passing here
      exact ih admissible there inside passing
  | element tag inner rest ihInner ihRest =>
      obtain ⟨allowed, placed, within, after⟩ := admissible
      have named : tag.localName = "t" := by simpa [childNames, Workbook.allowed] using placed
      obtain ⟨s₁, s₂, s₃, opened, reading, closed, there⟩ := Handler.run_element_ok.mp ran
      have first := run_captured (.inl named) within opened reading closed inside passing
      rw [ihRest after there (by rw [first]; simpa using inside) (by rw [first]; exact passing), first]
      simp [elementOf]

theorem openTag_inline {tag : SaxesTag} (named : tag.localName = "is") (opened : context.openTag tag s = .ok s') :
    s' = s := by
  obtain ⟨_, _, opened⟩ := bind_ok_iff.mp opened
  simp [named, SheetContext.isUnsupportedElement] at opened
  exact (Except.ok.inj opened).symm

/-- The content of a cell adds what its children capture. -/
theorem run_cell {content : Content SaxesTag} (admissible : Admissible "c" content)
    (ran : context.sheetHandler.run content.events s = .ok s') (inside : s.cell.isSome = true)
    (passing : s.capture = false) :
    s' = s.append ((elementsOf content).foldr (fun child text => child.captured ++ text) "") := by
  induction content generalizing s with
  | empty =>
      obtain rfl := Handler.run_empty_ok.mp ran
      simp [elementsOf]
  | text chunk rest ih =>
      obtain ⟨s₁, here, there⟩ := Handler.run_text_ok.mp ran
      obtain rfl := readText_passing passing here
      exact ih admissible there inside passing
  | element tag inner rest ihInner ihRest =>
      obtain ⟨allowed, placed, within, after⟩ := admissible
      have named : tag.localName = "v" ∨ tag.localName = "is" := by simpa [childNames, Workbook.allowed] using placed
      obtain ⟨s₁, s₂, s₃, opened, reading, closed, there⟩ := Handler.run_element_ok.mp ran
      have first : s₃ = s.append (elementOf tag inner).captured := by
        rcases named with value | inline
        · rw [run_captured (.inr value) within opened reading closed inside passing]
          simp [Element.captured, elementOf, value]
        · rw [inline] at within
          obtain rfl := openTag_inline inline opened
          have second := run_inline within reading inside passing
          rw [closeTag_other (by simp [inline]) closed, second]
          simp [Element.captured, elementOf, inline, SheetScan.append]
      rw [ihRest after there (by rw [first]; simpa using inside) (by rw [first]; exact passing), first]
      simp

/-! ### Cells

A cell has a type, and the type decides which text is tested and which value is read: a shared string by its index,
an inline string, a number or a formula string as it stands. `text_agrees` goes through the types once; above it
only the finding of a cell matters. -/

/-- An address of the scanner is one of the profile. -/
theorem profileAddress_of_scan {address : String} {place : Nat × Nat} (scanned : scanAddress address = some place) :
    profileAddress address = some place := by
  unfold scanAddress at scanned
  unfold profileAddress
  dsimp only at scanned ⊢
  split at scanned
  · rename_i sound
    rw [if_pos ⟨sound.1, sound.2.2.1, sound.2.2.2.2.1⟩]
    exact scanned
  · cases scanned

/-- The names below the elements of admissible content. -/
theorem elementsOf_children {content : Content SaxesTag} {parent : String} (admissible : Admissible parent content) :
    ∀ child ∈ elementsOf content, ∀ grandchild ∈ child.children, grandchild.name ∈ childNames child.name := by
  induction content with
  | empty => simp [elementsOf]
  | text chunk rest ih => exact ih admissible
  | element tag inner rest ihInner ihRest =>
      intro child mem
      rcases List.mem_cons.mp mem with rfl | mem
      · exact elementsOf_placed admissible.2.2.1
      · exact ihRest admissible.2.2.2 child mem

theorem one_none {node : Element} {name : String} (found : node.one name = .ok none) :
    ∀ child ∈ node.children, child.name ≠ name := by
  unfold Element.one at found
  split at found
  · rename_i empty
    intro child mem named
    have listed : child ∈ node.children.filter fun child => child.name = name :=
      List.mem_filter.mpr ⟨mem, by simpa using named⟩
    rw [empty] at listed
    cases listed
  · cases found
  · cases found

/-- The children of a cell or of an inline string, as the profile reads them. -/
theorem children_eq {node child : Element} {name : String} (found : node.one name = .ok (some child))
    (only : ∀ child ∈ node.children, child.name = name) : node.children = [child] := by
  have filtered := one_ok found
  rwa [List.filter_eq_self.mpr (fun child mem => by simpa using only child mem)] at filtered

/-- A cell without an inline string has the text of its `v`. -/
theorem captured_value {cell : Element} {value : Option Element} (names : ∀ child ∈ cell.children, child.name ∈ ["v", "is"])
    (inline : cell.one "is" = .ok none) (found : cell.one "v" = .ok value) :
    cell.children.foldr (fun child text => child.captured ++ text) "" = value.elim "" (·.text) := by
  have only : ∀ child ∈ cell.children, child.name = "v" := by
    intro child mem
    have named := names child mem
    have other := one_none inline child mem
    simpa [other] using named
  cases value with
  | none =>
      have empty : cell.children = [] := List.eq_nil_iff_forall_not_mem.mpr fun child mem =>
        one_none found child mem (only child mem)
      rw [empty]
      rfl
  | some value =>
      have named := only value (by rw [children_eq found only]; exact List.mem_singleton_self value)
      rw [children_eq found only]
      simp [Element.captured, named]

/-- A cell with an inline string only has the text of its `t`. -/
theorem captured_inline {cell inline text : Element} (names : ∀ child ∈ cell.children, child.name ∈ ["v", "is"])
    (deep : ∀ child ∈ cell.children, ∀ grandchild ∈ child.children, grandchild.name ∈ childNames child.name)
    (value : cell.one "v" = .ok none) (found : cell.one "is" = .ok (some inline))
    (inner : inline.one "t" = .ok (some text)) :
    cell.children.foldr (fun child text => child.captured ++ text) "" = text.text := by
  have only : ∀ child ∈ cell.children, child.name = "is" := by
    intro child mem
    have named := names child mem
    have other := one_none value child mem
    simpa [other] using named
  have mem : inline ∈ cell.children := by rw [children_eq found only]; exact List.mem_singleton_self inline
  have named := only inline mem
  have texts : ∀ child ∈ inline.children, child.name = "t" := by
    intro child below
    have placed := deep inline mem child below
    rw [named] at placed
    simpa [childNames, allowed] using placed
  rw [children_eq found only]
  simp [Element.captured, named, children_eq inner texts]

/-- The strings of the profile are those of the scanner, or it has none, where the part for them is missing or empty. -/
def SameStrings (profiled scanned : List String) : Prop := profiled = [] ∨ profiled = scanned

theorem SameStrings.get {profiled scanned : List String} (same : SameStrings profiled scanned) {index : Nat}
    {text : String} (found : profiled[index]? = some text) : scanned[index]? = some text := by
  rcases same with rfl | rfl
  · cases found
  · exact found

theorem integer_ok {value : Option String} {least number : Nat} {most : Int}
    (read : integer value least most = .ok number) :
    ∃ digits, value = some digits ∧ number = digitsValue digits.toList := by
  obtain ⟨digits, found, read⟩ := bind_ok_iff.mp read
  obtain ⟨_, _, read⟩ := bind_ok_iff.mp read
  exact ⟨digits, (Option.filter_eq_some_iff.mp (orFail_ok_iff.mp found)).1, (Except.ok.inj read).symm⟩

theorem readCell_ok {strings : List String} {cell : Element} {result : Cell} (read : readCell strings cell = .ok result) :
    ∃ address column row value, cell.attr "r" = some address ∧ profileAddress address = some (column, row) ∧
      readContent strings cell ((cell.attr "t").getD "n") = .ok value ∧
      result = ⟨address, row, column,
        if (cell.attr "t").getD "n" = "s" ∨ (cell.attr "t").getD "n" = "str" then "inlineStr"
        else (cell.attr "t").getD "n", value⟩ := by
  obtain ⟨address, named, read⟩ := bind_ok_iff.mp read
  obtain ⟨⟨column, row⟩, placed, read⟩ := bind_ok_iff.mp read
  obtain ⟨value, content, read⟩ := bind_ok_iff.mp read
  exact ⟨address, column, row, value, orFail_ok_iff.mp named, orFail_ok_iff.mp placed, content,
    (Except.ok.inj read).symm⟩

theorem readContent_ok {strings : List String} {cell : Element} {type value : String}
    (read : readContent strings cell type = .ok value) :
    (type = "inlineStr" ∧ ∃ inline text, cell.one "v" = .ok none ∧ cell.one "is" = .ok (some inline) ∧
        inline.one "t" = .ok (some text) ∧ value = text.text) ∨
      (type ≠ "inlineStr" ∧ ∃ child : Option Element, cell.one "is" = .ok none ∧ cell.one "v" = .ok child ∧
        readValue strings type (child.elim "" (·.text)) = .ok value) := by
  unfold readContent at read
  split at read
  · rename_i inlineType
    obtain ⟨found, valued, read⟩ := bind_ok_iff.mp read
    obtain ⟨_, absent, read⟩ := bind_ok_iff.mp read
    obtain ⟨child, listed, read⟩ := bind_ok_iff.mp read
    obtain ⟨inline, present, read⟩ := bind_ok_iff.mp read
    obtain ⟨inner, below, read⟩ := bind_ok_iff.mp read
    obtain ⟨text, there, read⟩ := bind_ok_iff.mp read
    rw [Option.isNone_iff_eq_none.mp (require_ok_iff.mp absent)] at valued
    rw [orFail_ok_iff.mp present] at listed
    rw [orFail_ok_iff.mp there] at below
    exact .inl ⟨inlineType, inline, text, valued, listed, below, (Except.ok.inj read).symm⟩
  · rename_i otherType
    obtain ⟨found, listed, read⟩ := bind_ok_iff.mp read
    obtain ⟨_, absent, read⟩ := bind_ok_iff.mp read
    obtain ⟨child, valued, read⟩ := bind_ok_iff.mp read
    rw [Option.isNone_iff_eq_none.mp (require_ok_iff.mp absent)] at listed
    exact .inr ⟨otherType, child, listed, valued, read⟩

theorem readValue_ok {strings : List String} {type value result : String}
    (read : readValue strings type value = .ok result) :
    (type = "s" ∧ strings[digitsValue value.toList]? = some result) ∨ type = "n" ∨ type = "b" ∨
      (type = "str" ∧ result = value) := by
  unfold readValue at read
  split at read
  · rename_i shared
    obtain ⟨_, _, read⟩ := bind_ok_iff.mp read
    exact .inl ⟨shared, orFail_ok_iff.mp read⟩
  · split at read
    · rename_i number
      exact .inr (.inl number)
    · split at read
      · rename_i boolean
        exact .inr (.inr (.inl boolean))
      · obtain ⟨_, string, read⟩ := bind_ok_iff.mp read
        exact .inr (.inr (.inr ⟨by simpa using require_ok_iff.mp string, (Except.ok.inj read).symm⟩))

/-- The scanner tests the text of the cells of these types. -/
theorem cellText_ok {cell : ScannedCell} {text : Option String} {index : Option Nat} (plain : cell.formula = false)
    (read : context.cellText cell = .ok (text, index)) :
    (cell.type = "s" ∧ text = context.strings[digitsValue cell.value.toList]?) ∨
      ((cell.type = "str" ∨ cell.type = "inlineStr") ∧ text = some cell.value) ∨
      (cell.type ≠ "s" ∧ cell.type ≠ "str" ∧ cell.type ≠ "inlineStr" ∧ text = none) := by
  unfold SheetContext.cellText at read
  simp only [plain, Bool.not_false, Bool.true_and, decide_eq_true_eq, Bool.or_eq_true] at read
  split at read
  · rename_i shared
    obtain ⟨number, numbered, read⟩ := bind_ok_iff.mp read
    obtain ⟨found, there, read⟩ := bind_ok_iff.mp read
    cases read
    obtain ⟨digits, same, rfl⟩ := integer_ok numbered
    rw [← Option.some.inj same] at there
    exact .inl ⟨shared, (orFail_ok_iff.mp there).symm⟩
  · rename_i unshared
    split at read
    · rename_i string
      cases read
      exact .inr (.inl ⟨string, rfl⟩)
    · rename_i other
      cases read
      exact .inr (.inr ⟨unshared, fun same => other (.inl same), fun same => other (.inr same), rfl⟩)

/-- The text that the scanner tests is the value that the profile reads. -/
theorem text_agrees {strings : List String} {cell : Element} {scanned : ScannedCell} {value : String}
    {text : Option String} {index : Option Nat} (same : SameStrings strings context.strings)
    (names : ∀ child ∈ cell.children, child.name ∈ ["v", "is"])
    (deep : ∀ child ∈ cell.children, ∀ grandchild ∈ child.children, grandchild.name ∈ childNames child.name)
    (plain : scanned.formula = false)
    (captured : scanned.value = cell.children.foldr (fun child text => child.captured ++ text) "")
    (scan : context.cellText scanned = .ok (text, index))
    (read : readContent strings cell scanned.type = .ok value) :
    text = if scanned.type = "s" ∨ scanned.type = "str" ∨ scanned.type = "inlineStr" then some value else none := by
  rcases readContent_ok read with ⟨inlineType, inline, inner, none, listed, below, rfl⟩ | ⟨otherType, child, none, valued, read⟩
  · rw [captured_inline names deep none listed below] at captured
    rcases cellText_ok plain scan with ⟨shared, _⟩ | ⟨_, tested⟩ | ⟨_, _, other, _⟩
    · rw [inlineType] at shared
      cases (by decide : "inlineStr" ≠ "s") shared
    · simp [inlineType, tested, captured]
    · exact absurd inlineType other
  · rw [captured_value names none valued] at captured
    rw [← captured] at read
    rcases cellText_ok plain scan with ⟨shared, tested⟩ | ⟨string, tested⟩ | ⟨unshared, unquoted, other, tested⟩
    · rcases readValue_ok read with ⟨_, found⟩ | number | boolean | ⟨string, _⟩
      · simp [shared, tested, same.get found]
      · rw [number] at shared
        cases (by decide : "n" ≠ "s") shared
      · rw [boolean] at shared
        cases (by decide : "b" ≠ "s") shared
      · rw [string] at shared
        cases (by decide : "str" ≠ "s") shared
    · have quoted := string.resolve_right otherType
      rcases readValue_ok read with ⟨shared, _⟩ | number | boolean | ⟨_, rfl⟩
      · rw [quoted] at shared
        cases (by decide : "str" ≠ "s") shared
      · rw [quoted] at number
        cases (by decide : "str" ≠ "n") number
      · rw [quoted] at boolean
        cases (by decide : "str" ≠ "b") boolean
      · simp [quoted, tested]
    · simp [unshared, unquoted, other, tested]

/-! ### Rows

From here on the pass is followed element by element. `Reports` says what a piece of the document adds to the
findings and that the scanner stands between two cells again, so the pieces compose by appending what they report.
-/

theorem addFindings_ok {cell : ScannedCell} {categories : List Category} {findings findings' : List SafeFinding}
    (added : categories.foldlM (context.addFinding s cell) findings = .ok findings') :
    findings'.map findingKey = findings.map findingKey ++
      categories.map fun category => (⟨context.sheetIndex, cell.row, cell.column⟩, category) := by
  induction categories generalizing findings with
  | nil =>
      cases added
      simp
  | cons category rest ih =>
      obtain ⟨_, first, added⟩ := bind_ok_iff.mp added
      obtain ⟨_, _, first⟩ := bind_ok_iff.mp first
      cases first
      rw [ih added]
      simp [findingKey, findingPlace]

/-- The end of a cell adds what is detected in its text. -/
theorem closeTag_cell {tag : SaxesTag} {cell : ScannedCell} (named : tag.localName = "c") (open' : s.cell = some cell)
    (passing : s.capture = false) (closed : context.closeTag tag s = .ok s') :
    ∃ text index, context.cellText cell = .ok (text, index) ∧
      Reports ((text.elim [] fun text => detect context.runtime text context.categories context.phoneRegion).map
        fun category => (⟨context.sheetIndex, cell.row, cell.column⟩, category)) s s' := by
  unfold SheetContext.closeTag at closed
  simp only [open', named, if_true] at closed
  obtain ⟨⟨text, index⟩, tested, closed⟩ := bind_ok_iff.mp closed
  obtain ⟨findings, added, closed⟩ := bind_ok_iff.mp closed
  cases closed
  refine ⟨text, index, tested, ⟨rfl, by simp [passing]⟩, ?_⟩
  exact addFindings_ok added

/-- The start of a cell. -/
theorem openTag_cell {tag : SaxesTag} (named : tag.localName = "c") (opened : context.openTag tag s = .ok s') :
    ∃ address column, tag.attr "r" = some address ∧ scanAddress address = some (column, s.row) ∧
      s'.cell = some { row := s.row, column := column, type := (tag.attr "t").getD "n" } ∧
      s'.capture = s.capture ∧ s'.findings = s.findings := by
  obtain ⟨_, _, opened⟩ := bind_ok_iff.mp opened
  simp only [named, String.reduceEq, if_false, if_true] at opened
  obtain ⟨_, _, opened⟩ := bind_ok_iff.mp opened
  obtain ⟨_, _, opened⟩ := bind_ok_iff.mp opened
  obtain ⟨⟨column, row⟩, placed, opened⟩ := bind_ok_iff.mp opened
  obtain ⟨_, fits, opened⟩ := bind_ok_iff.mp opened
  obtain ⟨_, _, opened⟩ := bind_ok_iff.mp opened
  obtain ⟨_, _, opened⟩ := bind_ok_iff.mp opened
  cases opened
  have placed := orFail_ok_iff.mp placed
  have fits := require_ok_iff.mp fits
  simp only [Bool.and_eq_true, decide_eq_true_eq] at fits
  rw [fits.2] at placed
  cases found : tag.attr "r" with
  | none =>
      rw [found] at placed
      cases (by decide : scanAddress "" = none).symm.trans placed
  | some address =>
      rw [found] at placed
      exact ⟨address, column, rfl, placed, rfl, rfl, rfl⟩

variable {strings : List String}

/-- What the context reports of a cell. -/
abbrev SheetContext.report (context : SheetContext) : Cell → List (Coordinate × Category) :=
  reportCell context.runtime context.categories context.phoneRegion context.sheetIndex

/-- The profile makes inline strings of the types that the scanner tests. -/
theorem report_typed (address type value : String) (row column : Nat) :
    ((if type = "s" ∨ type = "str" ∨ type = "inlineStr" then some value else none).elim [] fun text =>
        detect context.runtime text context.categories context.phoneRegion).map
          (fun category => ((⟨context.sheetIndex, row, column⟩ : Coordinate), category)) =
      context.report ⟨address, row, column, if type = "s" ∨ type = "str" then "inlineStr" else type, value⟩ := by
  unfold SheetContext.report reportCell
  by_cases shared : type = "s" ∨ type = "str"
  · have tested : type = "s" ∨ type = "str" ∨ type = "inlineStr" := shared.imp_right .inl
    simp [shared, tested]
  · by_cases inlineType : type = "inlineStr"
    · simp [inlineType]
    · simp [shared, inlineType]

/-- The pass over one cell. -/
theorem cell_agrees {tag : SaxesTag} {inner : Content SaxesTag} {cell : Cell} {s₁ s₂ : SheetScan}
    (same : SameStrings strings context.strings) (named : tag.localName = "c")
    (within : Admissible "c" inner) (read : readCell strings (elementOf tag inner) = .ok cell)
    (idle : s.Idle) (opened : context.openTag tag s = .ok s₁)
    (ran : context.sheetHandler.run inner.events s₁ = .ok s₂) (closed : context.closeTag tag s₂ = .ok s') :
    Reports (context.report cell) s s' := by
  obtain ⟨address, column, row, value, addressed, placed, content, rfl⟩ := readCell_ok read
  obtain ⟨address', column', addressed', placed', begun, passing, kept⟩ := openTag_cell named opened
  have attr : ∀ name, name ≠ "xmlns" → name ≠ "xmlns:r" → (elementOf tag inner).attr name = tag.attr name :=
    fun name plain unqualified => lookup_ownAttrs plain unqualified
  rw [attr "r" (by decide) (by decide), addressed'] at addressed
  obtain rfl := Option.some.inj addressed
  rw [profileAddress_of_scan placed'] at placed
  cases placed
  rw [attr "t" (by decide) (by decide)] at content ⊢
  have passed := run_cell within ran (by rw [begun]; rfl) (by rw [passing]; exact idle.2)
  have ended : s₂.cell = some
      { row := s.row
        column := column
        type := (tag.attr "t").getD "n"
        value := (elementsOf inner).foldr (fun child text => child.captured ++ text) "" } := by
    rw [passed]
    simp [SheetScan.append, begun]
  obtain ⟨text, index, tested, reports⟩ := closeTag_cell named ended (by rw [passed]; exact passing.trans idle.2) closed
  have agrees := text_agrees same (elementsOf_placed within) (elementsOf_children within) rfl rfl tested content
  refine ⟨reports.idle, ?_⟩
  rw [reports.findings, passed, agrees]
  change List.map findingKey s₁.findings ++ _ = _
  rw [kept, report_typed]

theorem chunk_idle {text : String} (idle : s.Idle) (read : context.sheetHandler.chunk text s = .ok s') : s' = s :=
  readText_idle idle read

/-- The pass over the cells of a row. -/
theorem cells_agree {content : Content SaxesTag} {cells : List Cell} (same : SameStrings strings context.strings)
    (admissible : Admissible "row" content) (read : (elementsOf content).mapM (readCell strings) = .ok cells)
    (idle : s.Idle) (ran : context.sheetHandler.run content.events s = .ok s') :
    Reports (cells.flatMap context.report) s s' := by
  induction content generalizing s cells with
  | empty =>
      obtain rfl := Handler.run_empty_ok.mp ran
      cases read
      exact .nothing idle rfl
  | text chunk rest ih =>
      obtain ⟨s₁, here, there⟩ := Handler.run_text_ok.mp ran
      obtain rfl := chunk_idle idle here
      exact ih admissible read idle there
  | element tag inner rest ihInner ihRest =>
      obtain ⟨allowed, placed, within, after⟩ := admissible
      have named : tag.localName = "c" := by simpa [childNames, Workbook.allowed] using placed
      rw [named] at within
      obtain ⟨cell, others, first, more, rfl⟩ := mapM_cons_ok_iff.mp read
      obtain ⟨s₁, s₂, s₃, opened, reading, closed, there⟩ := Handler.run_element_ok.mp ran
      have here := cell_agrees same named within first idle opened reading closed
      exact here.trans (ihRest after more here.idle there)

/-- The start of a row. -/
theorem openTag_row {tag : SaxesTag} (named : tag.localName = "row") (idle : s.Idle)
    (opened : context.openTag tag s = .ok s') : Reports [] s s' := by
  obtain ⟨_, _, opened⟩ := bind_ok_iff.mp opened
  simp only [named, String.reduceEq, if_false, if_true] at opened
  obtain ⟨_, _, opened⟩ := bind_ok_iff.mp opened
  obtain ⟨_, _, opened⟩ := bind_ok_iff.mp opened
  obtain ⟨_, _, opened⟩ := bind_ok_iff.mp opened
  cases opened
  exact .nothing idle rfl

/-- The end of an element around the cells. -/
theorem closeTag_around {tag : SaxesTag} (other : tag.localName ≠ "c") (idle : s.Idle)
    (closed : context.closeTag tag s = .ok s') : Reports [] s s' := by
  rw [closeTag_other other closed]
  exact .nothing ⟨idle.1, by simp [idle.2]⟩ rfl

theorem readRow_ok {row : Element} {result : SheetRow} (read : readRow strings row = .ok result) :
    row.children.mapM (readCell strings) = .ok result.cells := by
  obtain ⟨cells, inside, read⟩ := bind_ok_iff.mp read
  cases read
  exact inside

/-- The pass over the rows of a sheet. -/
theorem rows_agree {content : Content SaxesTag} {rows : List SheetRow} (same : SameStrings strings context.strings)
    (admissible : Admissible "sheetData" content) (read : (elementsOf content).mapM (readRow strings) = .ok rows)
    (idle : s.Idle) (ran : context.sheetHandler.run content.events s = .ok s') :
    Reports ((rows.flatMap (·.cells)).flatMap context.report) s s' := by
  induction content generalizing s rows with
  | empty =>
      obtain rfl := Handler.run_empty_ok.mp ran
      cases read
      exact .nothing idle rfl
  | text chunk rest ih =>
      obtain ⟨s₁, here, there⟩ := Handler.run_text_ok.mp ran
      obtain rfl := chunk_idle idle here
      exact ih admissible read idle there
  | element tag inner rest ihInner ihRest =>
      obtain ⟨allowed, placed, within, after⟩ := admissible
      have named : tag.localName = "row" := by simpa [childNames, Workbook.allowed] using placed
      rw [named] at within
      obtain ⟨row, others, first, more, rfl⟩ := mapM_cons_ok_iff.mp read
      obtain ⟨s₁, s₂, s₃, opened, reading, closed, there⟩ := Handler.run_element_ok.mp ran
      have start := openTag_row named idle opened
      have cells := cells_agree same within (readRow_ok first) start.idle reading
      have finish := closeTag_around (by simp [named]) cells.idle closed
      have later := ihRest after more finish.idle there
      rw [List.flatMap_cons, List.flatMap_append]
      simpa using ((start.trans cells).trans finish).trans later

/-! ### Sheets -/

/-- A tag of a sheet outside its data. -/
theorem openTag_around {tag : SaxesTag} (named : tag.localName = "worksheet" ∨ tag.localName = "sheetData" ∨
      tag.localName = "cols" ∨ tag.localName = "col" ∨ tag.localName = "dimension") (idle : s.Idle)
    (opened : context.openTag tag s = .ok s') : Reports [] s s' := by
  obtain ⟨_, _, opened⟩ := bind_ok_iff.mp opened
  rcases named with same | same | same | same | same
  · simp only [same, String.reduceEq, if_false, or_self] at opened
    cases opened
    exact .nothing idle rfl
  · simp only [same, String.reduceEq, if_false, if_true] at opened
    obtain ⟨_, _, opened⟩ := bind_ok_iff.mp opened
    cases opened
    exact .nothing idle rfl
  · simp only [same, String.reduceEq, if_false, or_self] at opened
    cases opened
    exact .nothing idle rfl
  · simp only [same, if_true] at opened
    obtain ⟨_, _, opened⟩ := bind_ok_iff.mp opened
    obtain ⟨_, _, opened⟩ := bind_ok_iff.mp opened
    cases opened
    split
    · exact .nothing idle rfl
    · exact .nothing idle rfl
  · simp only [same, String.reduceEq, if_false, or_self] at opened
    cases opened
    exact .nothing idle rfl

/-- Outside the data of a sheet nothing is found. -/
theorem columns_agree {content : Content SaxesTag} {parent : String} (admissible : Admissible parent content)
    (around : parent = "cols" ∨ parent = "col" ∨ parent = "dimension") (idle : s.Idle)
    (ran : context.sheetHandler.run content.events s = .ok s') : Reports [] s s' := by
  induction content generalizing s s' parent with
  | empty =>
      obtain rfl := Handler.run_empty_ok.mp ran
      exact .nothing idle rfl
  | text chunk rest ih =>
      obtain ⟨s₁, here, there⟩ := Handler.run_text_ok.mp ran
      obtain rfl := chunk_idle idle here
      exact ih admissible around idle there
  | element tag inner rest ihInner ihRest =>
      obtain ⟨allowed, placed, within, after⟩ := admissible
      have named : tag.localName = "col" := by
        rcases around with rfl | rfl | rfl
        · simpa [childNames, Workbook.allowed] using placed
        · simp [childNames, Workbook.allowed] at placed
        · simp [childNames, Workbook.allowed] at placed
      obtain ⟨s₁, s₂, s₃, opened, reading, closed, there⟩ := Handler.run_element_ok.mp ran
      have start := openTag_around (by simp [named]) idle opened
      have inside := ihInner within (by simp [named]) start.idle reading
      have finish := closeTag_around (by simp [named]) inside.idle closed
      exact ((start.trans inside).trans finish).trans (ihRest after around finish.idle there)

/-- The pass over a worksheet: its data are where the findings are. -/
theorem worksheet_agrees {content : Content SaxesTag} {tables : List (List SheetRow)}
    (same : SameStrings strings context.strings) (admissible : Admissible "worksheet" content)
    (read : ((elementsOf content).filter fun child => child.name = "sheetData").mapM
      (fun data => data.children.mapM (readRow strings)) = .ok tables) (idle : s.Idle)
    (ran : context.sheetHandler.run content.events s = .ok s') :
    Reports ((tables.flatten.flatMap (·.cells)).flatMap context.report) s s' := by
  induction content generalizing s tables with
  | empty =>
      obtain rfl := Handler.run_empty_ok.mp ran
      cases read
      exact .nothing idle rfl
  | text chunk rest ih =>
      obtain ⟨s₁, here, there⟩ := Handler.run_text_ok.mp ran
      obtain rfl := chunk_idle idle here
      exact ih admissible read idle there
  | element tag inner rest ihInner ihRest =>
      obtain ⟨allowed, placed, within, after⟩ := admissible
      have placed : tag.localName = "sheetData" ∨ tag.localName = "cols" ∨ tag.localName = "dimension" := by
        simpa [childNames, Workbook.allowed] using placed
      obtain ⟨s₁, s₂, s₃, opened, reading, closed, there⟩ := Handler.run_element_ok.mp ran
      have start := openTag_around (by rcases placed with named | named | named <;> simp [named]) idle opened
      have other : tag.localName ≠ "c" := by rcases placed with named | named | named <;> simp [named]
      by_cases data : tag.localName = "sheetData"
      · rw [elementsOf_element, List.filter_cons_of_pos (by simp [elementOf, data])] at read
        obtain ⟨rows, others, first, more, rfl⟩ := mapM_cons_ok_iff.mp read
        rw [data] at within
        have inside := rows_agree same within first start.idle reading
        have finish := closeTag_around other inside.idle closed
        have later := ihRest after more finish.idle there
        rw [List.flatten_cons, List.flatMap_append, List.flatMap_append]
        simpa using ((start.trans inside).trans finish).trans later
      · rw [elementsOf_element, List.filter_cons_of_neg (by simp [elementOf, data])] at read
        have inside := columns_agree within (placed.resolve_left data |>.imp_right .inr) start.idle reading
        have finish := closeTag_around other inside.idle closed
        exact ((start.trans inside).trans finish).trans (ihRest after read finish.idle there)

variable {runtime : WorkbookRuntime} {limits : GuardLimits} {parts : Parts}

/-- What the profile has read of a sheet: its document is a worksheet, and its rows are those of the data there. -/
theorem readSheet_ok {relationships : Relationships} {element : Element} {sheet : Sheet}
    (read : readSheet runtime parts limits relationships strings element = .ok sheet) :
    ∃ path part root data, ((element.attr "r:id").bind fun id => relationships.lookup id) = some path ∧
      parts.get path = some part ∧ tree runtime part limits = .ok root ∧ root.name = "worksheet" ∧
      root.one "sheetData" = .ok (some data) ∧ data.children.mapM (readRow strings) = .ok sheet.rows := by
  obtain ⟨path, listed, read⟩ := bind_ok_iff.mp read
  obtain ⟨part, present, read⟩ := bind_ok_iff.mp read
  obtain ⟨root, parsed, read⟩ := bind_ok_iff.mp read
  obtain ⟨_, named, read⟩ := bind_ok_iff.mp read
  obtain ⟨found, only, read⟩ := bind_ok_iff.mp read
  obtain ⟨data, there, read⟩ := bind_ok_iff.mp read
  obtain ⟨_, _, read⟩ := bind_ok_iff.mp read
  obtain ⟨rows, filled, read⟩ := bind_ok_iff.mp read
  obtain ⟨columns, _, read⟩ := bind_ok_iff.mp read
  obtain ⟨_, _, read⟩ := bind_ok_iff.mp read
  cases read
  rw [orFail_ok_iff.mp there] at only
  exact ⟨path, part, root, data, orFail_ok_iff.mp listed, orFail_ok_iff.mp present, parsed,
    by simpa using require_ok_iff.mp named, only, filled⟩

/-- The pass over the part of a sheet finds what is detected in the cells that the profile reads there. -/
theorem sheet_agrees (conforming : Conforming runtime) {part : Bytes} {root data : Element} {rows : List SheetRow}
    (same : SameStrings strings context.strings) (scan : xml runtime part limits context.sheetHandler s = .ok s')
    (idle : s.Idle) (read : tree runtime part limits = .ok root) (named : root.name = "worksheet")
    (only : root.one "sheetData" = .ok (some data)) (filled : data.children.mapM (readRow strings) = .ok rows) :
    Reports ((rows.flatMap (·.cells)).flatMap context.report) s s' := by
  obtain ⟨document, events, _, allowed, admissible, rfl⟩ := tree_ok conforming read
  have named : document.root.localName = "worksheet" := named
  rw [named] at admissible
  have ran := (xml_ok scan).2
  rw [events] at ran
  obtain ⟨s₀, s₁, s₂, s₃, before, opened, inside, closed, after⟩ := Handler.run_document_ok.mp ran
  obtain rfl := Handler.run_chunks (fun _ _ _ => chunk_idle) _ idle before
  have tables : ((elementsOf document.inner).filter fun child => child.name = "sheetData").mapM
      (fun data => data.children.mapM (readRow strings)) = .ok [rows] := by
    have data := one_ok only
    change (elementsOf document.inner).filter _ = _ at data
    rw [data]
    exact mapM_cons_ok_iff.mpr ⟨rows, [], filled, rfl, rfl⟩
  have start := openTag_around (.inl named) idle opened
  have cells := worksheet_agrees same admissible tables start.idle inside
  have finish := closeTag_around (by simp [named]) cells.idle closed
  obtain rfl := Handler.run_chunks (fun _ _ _ => chunk_idle) _ finish.idle after
  simpa using (start.trans cells).trans finish

/-! ### Workbooks -/

variable {categories : List Category} {region : Option String}

/-- The pass over the sheets, from a place in the workbook on. -/
theorem sheets_scan_agrees (conforming : Conforming runtime) {relationships : Relationships} {scanned : List String}
    (same : SameStrings strings scanned) {paths : List SheetPath} {elements : List Element} {sheets : List Sheet}
    (listed : List.Forall₂ (ListedAs relationships) paths elements)
    (read : elements.mapM (readSheet runtime parts limits relationships strings) = .ok sheets) {index : Nat}
    {totals totals' : ScanTotals}
    (scan : (paths.zipIdx index).foldlM (scanSheet runtime parts categories region limits scanned) totals =
      .ok totals') :
    totals'.findings.map findingKey = totals.findings.map findingKey ++
      (sheets.zipIdx index).flatMap fun numbered =>
        numbered.1.cells.flatMap (reportCell runtime categories region numbered.2) := by
  induction listed generalizing sheets index totals with
  | nil =>
      cases read
      cases scan
      simp
  | cons listed rest ih =>
      obtain ⟨sheet, others, first, more, rfl⟩ := mapM_cons_ok_iff.mp read
      rw [List.zipIdx_cons] at scan
      obtain ⟨totals₁, here, there⟩ := bind_ok_iff.mp scan
      rw [ih more there, List.zipIdx_cons, List.flatMap_cons, ← List.append_assoc]
      congr 1
      obtain ⟨path, part, root, data, listed', present, parsed, named, only, filled⟩ := readSheet_ok first
      obtain ⟨part', present', here⟩ := bind_ok_iff.mp here
      obtain ⟨final, passed, here⟩ := bind_ok_iff.mp here
      obtain ⟨_, _, here⟩ := bind_ok_iff.mp here
      cases here
      rw [Option.some.inj (listed'.symm.trans listed), orFail_ok_iff.mp present'] at present
      cases present
      exact (sheet_agrees conforming same passed ⟨rfl, rfl⟩ parsed named only filled).findings

/-- On a workbook within the profile, the scan finds exactly what is detected in the cells of its sheets. -/
theorem scan_agrees (conforming : Conforming runtime) {input : Bytes} {response : ScanResponse} {sheets : List Sheet}
    (scanned : scanWorkbook runtime input categories region limits = .ok response)
    (read : supported runtime input limits = .ok sheets) :
    response.findings.map findingKey = reported runtime categories region sheets := by
  obtain ⟨parts, opened, read⟩ := bind_ok_iff.mp read
  obtain ⟨_, _, read⟩ := bind_ok_iff.mp read
  obtain ⟨bookPart, bookThere, read⟩ := bind_ok_iff.mp read
  obtain ⟨root, parsed, read⟩ := bind_ok_iff.mp read
  obtain ⟨_, named, read⟩ := bind_ok_iff.mp read
  obtain ⟨_, _, read⟩ := bind_ok_iff.mp read
  obtain ⟨_, _, read⟩ := bind_ok_iff.mp read
  obtain ⟨relationshipsPart, relationshipsThere, read⟩ := bind_ok_iff.mp read
  obtain ⟨profiled, profile, read⟩ := bind_ok_iff.mp read
  obtain ⟨strings, profiledStrings, read⟩ := bind_ok_iff.mp read
  obtain ⟨found, only, read⟩ := bind_ok_iff.mp read
  obtain ⟨inventory, present, read⟩ := bind_ok_iff.mp read
  obtain ⟨_, _, read⟩ := bind_ok_iff.mp read
  obtain ⟨all, filled, read⟩ := bind_ok_iff.mp read
  obtain ⟨_, _, read⟩ := bind_ok_iff.mp read
  cases read
  rw [orFail_ok_iff.mp present] at only
  obtain ⟨parts', opened', scanned⟩ := bind_ok_iff.mp (mapError_ok_iff.mp scanned)
  obtain rfl := Except.ok.inj (opened'.symm.trans opened)
  obtain ⟨_, _, scanned⟩ := bind_ok_iff.mp scanned
  obtain ⟨_, _, scanned⟩ := bind_ok_iff.mp scanned
  obtain ⟨_, _, scanned⟩ := bind_ok_iff.mp scanned
  obtain ⟨flags, _, scanned⟩ := bind_ok_iff.mp scanned
  obtain ⟨book, booked, scanned⟩ := bind_ok_iff.mp scanned
  obtain ⟨scannedStrings, collected, scanned⟩ := bind_ok_iff.mp scanned
  obtain ⟨totals, passed, scanned⟩ := bind_ok_iff.mp scanned
  cases scanned
  obtain ⟨relationshipsPart', relationshipsThere', booked⟩ := bind_ok_iff.mp booked
  obtain ⟨relationships, related, booked⟩ := bind_ok_iff.mp booked
  obtain ⟨bookPart', bookThere', booked⟩ := bind_ok_iff.mp booked
  obtain ⟨book', walked, booked⟩ := bind_ok_iff.mp booked
  obtain ⟨_, _, booked⟩ := bind_ok_iff.mp booked
  cases booked
  rw [orFail_ok_iff.mp relationshipsThere'] at relationshipsThere
  cases relationshipsThere
  rw [orFail_ok_iff.mp bookThere'] at bookThere
  cases bookThere
  have registered : Registered relationships profiled := by
    obtain ⟨complete, ran⟩ := xml_ok related
    obtain ⟨document, events, _⟩ := conforming _ complete
    have ran' := (xml_ok profile).2
    rw [events, Handler.run_ofTags] at ran ran'
    exact relationships_agree (fun _ _ none => by cases none) ran ran'
  have listed := sheets_agree conforming registered rfl walked parsed (by simpa using require_ok_iff.mp named) only
  have same := strings_agree conforming collected profiledStrings
  exact sheets_scan_agrees conforming same listed filled passed

end DataVault.Workbook
