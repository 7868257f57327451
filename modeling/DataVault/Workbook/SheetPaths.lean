/-
Module: DataVault.Workbook.SheetPaths
Layer: Proof
Purpose: The scanner and the strict profile read the same sheets and the same shared strings from a workbook that
  both accept, although each has its own rules for relationships, for the inventory of sheets and for strings.
Imports: DataVault.Workbook.Profile, Mathlib.Data.List.Forall2
Trusted boundary: none
Main exports: relationships_agree, sheets_agree, strings_agree
-/
import DataVault.Workbook.Profile
import Mathlib.Data.List.Forall2

namespace DataVault.Workbook

open DataVault.Control DataVault.Guard DataVault.Xml

variable {runtime : WorkbookRuntime} {limits : GuardLimits} {parts : Parts}

/-! ### Relationships

Both readers build a table from relationship ids to parts, but they refuse different things. What is needed is one
direction only: where both succeed, the scanner has nothing in its table that the profile has not. -/

/-- What the scanner has registered is registered in the profile. -/
def Registered (scanned profiled : Relationships) : Prop :=
  ∀ id path, scanned.lookup id = some path → profiled.lookup id = some path

theorem lookup_append_single {relationships : Relationships} {id key path : String} :
    (relationships ++ [(id, path)]).lookup key =
      (relationships.lookup key).or (if key = id then some path else none) := by
  rw [List.lookup_append]
  by_cases same : key = id
  · simp [same]
  · have differs : (key == id) = false := by simpa using same
    simp [same, differs]

/-- The scanner registers a worksheet, or nothing. -/
theorem scanRelationship_ok {tag : SaxesTag} {known known' : Relationships}
    (read : scanRelationship runtime parts tag known = .ok known') :
    known' = known ∨ ∃ id target, tag.localName = "Relationship" ∧
      (tag.attr "Id").filter (fun id => !id.isEmpty) = some id ∧
      (tag.attr "Target").filter (fun target => !target.isEmpty) = some target ∧
      tag.attr "Type" = some (OFFICE ++ "/worksheet") ∧ known' = known ++ [(id, partPath runtime target)] := by
  unfold scanRelationship at read
  split at read
  · rename_i relationship
    obtain ⟨id, named, read⟩ := bind_ok_iff.mp read
    obtain ⟨target, pointed, read⟩ := bind_ok_iff.mp read
    obtain ⟨_, _, read⟩ := bind_ok_iff.mp read
    split at read
    · rename_i worksheet
      obtain ⟨_, _, read⟩ := bind_ok_iff.mp read
      cases read
      exact .inr ⟨id, target, relationship.2, orFail_ok_iff.mp named, orFail_ok_iff.mp pointed, worksheet, rfl⟩
    · cases read
      exact .inl rfl
  · cases read
    exact .inl rfl

/-- The profile registers a worksheet under an id that is new, or nothing; it registers each worksheet. -/
theorem profileRelationship_ok {tag : SaxesTag} {known known' : Relationships}
    (read : profileRelationship runtime parts tag known = .ok known') :
    (known' = known ∧ (tag.localName = "Relationship" → tag.attr "Type" ≠ some (OFFICE ++ "/worksheet"))) ∨
      ∃ id target, (tag.attr "Id").filter (fun id => !id.isEmpty) = some id ∧
        (tag.attr "Target").filter (fun target => !target.isEmpty) = some target ∧
        known.lookup id = none ∧ known' = known ++ [(id, partPath runtime target)] := by
  unfold profileRelationship at read
  split at read
  · rename_i other
    cases read
    exact .inl ⟨rfl, fun same => absurd same other⟩
  · split at read
    · rename_i strings
      cases read
      refine .inl ⟨rfl, fun _ worksheet => ?_⟩
      rw [strings.1] at worksheet
      revert worksheet
      decide
    · obtain ⟨id, named, read⟩ := bind_ok_iff.mp read
      obtain ⟨target, pointed, read⟩ := bind_ok_iff.mp read
      obtain ⟨_, fresh, read⟩ := bind_ok_iff.mp read
      cases read
      have fresh := require_ok_iff.mp fresh
      simp only [Bool.and_eq_true, Option.isNone_iff_eq_none] at fresh
      exact .inr ⟨id, target, orFail_ok_iff.mp named, orFail_ok_iff.mp pointed, fresh.2, rfl⟩

theorem Registered.step {tag : SaxesTag} {scanned scanned' profiled profiled' : Relationships}
    (registered : Registered scanned profiled) (scan : scanRelationship runtime parts tag scanned = .ok scanned')
    (profile : profileRelationship runtime parts tag profiled = .ok profiled') : Registered scanned' profiled' := by
  intro key path found
  rcases profileRelationship_ok profile with ⟨rfl, other⟩ | ⟨id, target, named, pointed, fresh, rfl⟩
  · rcases scanRelationship_ok scan with rfl | ⟨_, _, relationship, _, _, worksheet, _⟩
    · exact registered key path found
    · exact absurd worksheet (other relationship)
  · rw [lookup_append_single]
    rcases scanRelationship_ok scan with rfl | ⟨id', target', _, named', pointed', _, rfl⟩
    · rw [registered key path found, Option.some_or]
    · obtain rfl := Option.some.inj (named.symm.trans named')
      obtain rfl := Option.some.inj (pointed.symm.trans pointed')
      rw [lookup_append_single] at found
      cases known : scanned.lookup key with
      | some value =>
          rw [known, Option.some_or] at found
          rw [registered key value known, Option.some_or]
          exact found
      | none =>
          rw [known, Option.none_or] at found
          split at found
          · rename_i same
            rw [if_pos same, same, fresh, Option.none_or]
            exact found
          · cases found

/-- The two passes over the relationships of a workbook agree on the sheets. -/
theorem relationships_agree {tags : List SaxesTag} {scanned scanned' profiled profiled' : Relationships}
    (registered : Registered scanned profiled)
    (scan : tags.foldlM (fun known tag => scanRelationship runtime parts tag known) scanned = .ok scanned')
    (profile : tags.foldlM (fun known tag => profileRelationship runtime parts tag known) profiled = .ok profiled') :
    Registered scanned' profiled' := by
  induction tags generalizing scanned profiled with
  | nil =>
      cases scan
      cases profile
      exact registered
  | cons tag rest ih =>
      obtain ⟨_, first, scan⟩ := bind_ok_iff.mp scan
      obtain ⟨_, second, profile⟩ := bind_ok_iff.mp profile
      exact ih (registered.step first second) scan profile

/-! ### The inventory

The scanner takes every tag that looks like a sheet, anywhere in the workbook; the profile reads the children of the
inventory. The two lists agree because the profile allows no tag of a sheet anywhere else. -/

/-- The scanner takes the tag for a sheet. -/
def isSheetTag (tag : SaxesTag) : Bool := tag.uri = MAIN && tag.localName = "sheet"

/-- The scanner has found the path of the sheet under the id of the tag. -/
def FoundUnder (relationships : Relationships) (sheet : SheetPath) (tag : SaxesTag) : Prop :=
  (tag.relationshipId.bind fun id => relationships.lookup id) = some sheet.path

theorem addSheet_ok {relationships : Relationships} {tag : SaxesTag} {s s' : BookScan}
    (added : addSheet relationships limits tag s = .ok s') :
    ∃ sheet, FoundUnder relationships sheet tag ∧ s'.sheets = s.sheets ++ [sheet] := by
  obtain ⟨path, found, added⟩ := bind_ok_iff.mp added
  obtain ⟨_, _, added⟩ := bind_ok_iff.mp added
  obtain ⟨_, _, added⟩ := bind_ok_iff.mp added
  cases added
  obtain ⟨id, named, there⟩ := Option.bind_eq_some_iff.mp (orFail_ok_iff.mp found)
  refine ⟨_, ?_, rfl⟩
  rw [FoundUnder, (Option.filter_eq_some_iff.mp named).1]
  exact there

theorem scanBook_ok {relationships : Relationships} {tag : SaxesTag} {s s' : BookScan}
    (read : scanBook relationships limits tag s = .ok s') :
    if isSheetTag tag then ∃ sheet, FoundUnder relationships sheet tag ∧ s'.sheets = s.sheets ++ [sheet]
    else s'.sheets = s.sheets := by
  obtain ⟨_, _, read⟩ := bind_ok_iff.mp read
  obtain ⟨_, _, read⟩ := bind_ok_iff.mp read
  dsimp only at read
  split at read
  · rename_i sheet
    rw [if_pos (by simpa [isSheetTag] using sheet)]
    obtain ⟨one, under, added⟩ := addSheet_ok read
    exact ⟨one, under, added⟩
  · rename_i other
    rw [if_neg (by simpa [isSheetTag] using other)]
    cases read
    rfl

/-- The sheets of the scanner are the sheet tags in document order. -/
theorem scanBook_sheets {relationships : Relationships} {tags : List SaxesTag} {s s' : BookScan}
    (read : tags.foldlM (fun s tag => scanBook relationships limits tag s) s = .ok s') :
    ∃ sheets, s'.sheets = s.sheets ++ sheets ∧
      List.Forall₂ (FoundUnder relationships) sheets (tags.filter isSheetTag) := by
  induction tags generalizing s with
  | nil =>
      cases read
      exact ⟨[], by simp, .nil⟩
  | cons tag rest ih =>
      obtain ⟨s₁, here, there⟩ := bind_ok_iff.mp read
      obtain ⟨sheets, final, found⟩ := ih there
      have first := scanBook_ok here
      cases sheet : isSheetTag tag with
      | true =>
          rw [sheet, if_pos rfl] at first
          obtain ⟨one, under, added⟩ := first
          refine ⟨one :: sheets, ?_, ?_⟩
          · rw [final, added, List.append_assoc, List.singleton_append]
          · rw [List.filter_cons_of_pos sheet]
            exact .cons under found
      | false =>
          rw [sheet, if_neg Bool.false_ne_true] at first
          refine ⟨sheets, by rw [final, first], ?_⟩
          rw [List.filter_cons_of_neg (by simp [sheet])]
          exact found

/-- Below all others the profile allows no sheet. -/
theorem childNames_deep {parent child : String} (placed : child ∈ childNames parent) (deep : parent ≠ "workbook")
    (deeper : parent ≠ "sheets") : child ≠ "sheet" ∧ child ≠ "workbook" ∧ child ≠ "sheets" := by
  unfold childNames allowed at placed
  split at placed
  case h_1 => exact absurd rfl deep
  case h_5 => exact absurd rfl deeper
  all_goals try split at placed
  all_goals simp only [Option.elim_some, Option.elim_none, List.mem_cons, List.not_mem_nil, or_false] at placed
  all_goals rcases placed with rfl | rfl | rfl
  all_goals decide

theorem no_sheet_tags {parent : String} {content : Content SaxesTag} (admissible : Admissible parent content)
    (deep : parent ≠ "workbook") (deeper : parent ≠ "sheets") : content.tags.filter isSheetTag = [] := by
  induction content generalizing parent with
  | empty => rfl
  | text chunk rest ih => exact ih admissible deep deeper
  | element tag inner rest ihInner ihRest =>
      obtain ⟨_, placed, within, after⟩ := admissible
      obtain ⟨other, noBook, noSheets⟩ := childNames_deep placed deep deeper
      rw [Content.tags, List.filter_cons_of_neg (by simp [isSheetTag, other]), List.filter_append,
        ihInner within noBook noSheets, ihRest after deep deeper, List.append_nil]

/-- The profile finds the same id in the element as the scanner in the tag. -/
def SameSheet (tag : SaxesTag) (element : Element) : Prop := element.attr "r:id" = tag.relationshipId

theorem TagAllowed.isSheetTag {tag : SaxesTag} (allowed : TagAllowed tag) (sheet : tag.localName = "sheet") :
    isSheetTag tag = true := by
  simp [Workbook.isSheetTag, allowed.1, sheet]

/-- The sheets in the inventory. -/
theorem inventory_tags {content : Content SaxesTag} {outer : Scope} (admissible : Admissible "sheets" content)
    (namespaced : Namespaced outer content) (safe : SafeScope outer) :
    List.Forall₂ SameSheet (content.tags.filter isSheetTag) (elementsOf content) := by
  induction content with
  | empty => exact .nil
  | text chunk rest ih => exact ih admissible namespaced
  | element tag inner rest ihInner ihRest =>
      obtain ⟨allowed, placed, within, after⟩ := admissible
      obtain ⟨resolved, _, namespaced⟩ := namespaced
      have sheet : tag.localName = "sheet" := by simpa [childNames, Workbook.allowed] using placed
      rw [sheet] at within
      rw [Content.tags, List.filter_cons_of_pos (allowed.isSheetTag sheet), List.filter_append,
        no_sheet_tags within (by decide) (by decide), List.nil_append, elementsOf_element]
      refine .cons ?_ (ihRest after namespaced)
      rw [SameSheet, relationshipId_eq sheet allowed safe resolved]
      exact lookup_ownAttrs (by decide) (by decide)

/-- The sheets in the workbook are those in its inventories. -/
theorem workbook_tags {content : Content SaxesTag} {outer : Scope} (admissible : Admissible "workbook" content)
    (namespaced : Namespaced outer content) (safe : SafeScope outer) :
    List.Forall₂ SameSheet (content.tags.filter isSheetTag)
      (((elementsOf content).filter fun child => child.name = "sheets").flatMap (·.children)) := by
  induction content with
  | empty => exact .nil
  | text chunk rest ih => exact ih admissible namespaced
  | element tag inner rest ihInner ihRest =>
      obtain ⟨allowed, placed, within, after⟩ := admissible
      obtain ⟨_, inside, namespaced⟩ := namespaced
      have placed : tag.localName = "sheets" ∨ tag.localName = "bookViews" ∨ tag.localName = "workbookPr" := by
        simpa [childNames, Workbook.allowed] using placed
      have other : isSheetTag tag = false := by rcases placed with same | same | same <;> simp [isSheetTag, same]
      rw [Content.tags, List.filter_cons_of_neg (by simp [other]), List.filter_append, elementsOf_element]
      by_cases inventory : tag.localName = "sheets"
      · rw [List.filter_cons_of_pos (by simp [elementOf, inventory]), List.flatMap_cons]
        rw [inventory] at within
        exact List.rel_append (inventory_tags within inside (allowed.safe safe)) (ihRest after namespaced)
      · rw [List.filter_cons_of_neg (by simp [elementOf, inventory]), no_sheet_tags within
          (by rcases placed with same | same | same <;> simp [same]) inventory]
        exact ihRest after namespaced

theorem one_ok {node child : Element} {name : String} (found : node.one name = .ok (some child)) :
    (node.children.filter fun child => child.name = name) = [child] := by
  unfold Element.one at found
  split at found
  · cases found
  · rename_i only
    cases found
    exact only
  · cases found

/-- The profile finds the path of the sheet under the id of the element. -/
def ListedAs (relationships : Relationships) (sheet : SheetPath) (element : Element) : Prop :=
  ((element.attr "r:id").bind fun id => relationships.lookup id) = some sheet.path

theorem listed_of_found {scanned profiled : Relationships} (registered : Registered scanned profiled)
    {sheets : List SheetPath} {tags : List SaxesTag} {elements : List Element}
    (found : List.Forall₂ (FoundUnder scanned) sheets tags) (same : List.Forall₂ SameSheet tags elements) :
    List.Forall₂ (ListedAs profiled) sheets elements := by
  induction found generalizing elements with
  | nil =>
      cases same
      exact .nil
  | cons under rest ih =>
      cases same with
      | cons same others =>
          refine .cons ?_ (ih others)
          rw [FoundUnder, Option.bind_eq_some_iff] at under
          obtain ⟨id, named, there⟩ := under
          rw [ListedAs, same, named]
          exact registered _ _ there

/-- The scanner and the profile find the same sheets at the same paths. -/
theorem sheets_agree (conforming : Conforming runtime) {part : Bytes} {scanned profiled : Relationships}
    (registered : Registered scanned profiled) {s book : BookScan} {root inventory : Element}
    (first : s.sheets = []) (scan : xml runtime part limits (.ofTags (scanBook scanned limits)) s = .ok book)
    (read : tree runtime part limits = .ok root) (named : root.name = "workbook")
    (found : root.one "sheets" = .ok (some inventory)) :
    List.Forall₂ (ListedAs profiled) book.sheets inventory.children := by
  obtain ⟨document, events, ⟨_, namespaced, _⟩, allowed, admissible, rfl⟩ := tree_ok conforming read
  have ran := (xml_ok scan).2
  rw [events, Handler.run_ofTags] at ran
  obtain ⟨sheets, final, under⟩ := scanBook_sheets ran
  have named : document.root.localName = "workbook" := named
  rw [named] at admissible
  have tags := workbook_tags admissible namespaced (allowed.safe outerScope_safe)
  have children := one_ok found
  change ((elementsOf document.inner).filter _) = _ at children
  rw [children, List.flatMap_singleton] at tags
  rw [Document.tags, List.filter_cons_of_neg (by simp [isSheetTag, named])] at under
  rw [final, first, List.nil_append]
  exact listed_of_found registered under tags

/-! ### Shared strings

The profile reads a shared string only in its simple form, one `t` with text. In that form the scanner, which
appends whatever stands in a `t`, has the same text. -/

/-- An element without children has text only. -/
theorem string_text {content : Content SaxesTag} {parent : String} {s s' : StringScan}
    (admissible : Admissible parent content) (leaf : childNames parent = [])
    (ran : (stringHandler limits).run content.events s = .ok s') (reading : s.inText = true) :
    s' = { s with value := s.value ++ content.ownText } := by
  induction content generalizing s with
  | empty =>
      obtain rfl := Handler.run_empty_ok.mp ran
      simp [Content.ownText]
  | text chunk rest ih =>
      obtain ⟨s₁, here, there⟩ := Handler.run_text_ok.mp ran
      change (if s.inText then _ else pure s) = _ at here
      rw [if_pos reading] at here
      obtain ⟨_, _, here⟩ := bind_ok_iff.mp here
      cases here
      rw [ih admissible there reading]
      simp [Content.ownText, String.append_assoc]
  | element tag inner rest ihInner ihRest =>
      rw [Admissible, leaf] at admissible
      cases admissible.2.1

/-- Outside `t` the scanner passes over character data. -/
theorem string_idle {text : String} {s s' : StringScan} (idle : s.inText = false)
    (read : (stringHandler limits).chunk text s = .ok s') : s' = s := by
  change (if s.inText then _ else pure s) = _ at read
  rw [idle, if_neg Bool.false_ne_true] at read
  exact (Except.ok.inj read).symm

/-- The text of a shared string is that of its `t`. -/
theorem string_item {content : Content SaxesTag} {s s' : StringScan} (admissible : Admissible "si" content)
    (ran : (stringHandler limits).run content.events s = .ok s') (inside : s.inside = true) (idle : s.inText = false) :
    s' = { s with value := (elementsOf content).foldl (fun value child => value ++ child.text) s.value } := by
  induction content generalizing s with
  | empty => exact (Handler.run_empty_ok.mp ran).symm
  | text chunk rest ih =>
      obtain ⟨s₁, here, there⟩ := Handler.run_text_ok.mp ran
      obtain rfl := string_idle idle here
      exact ih admissible there inside idle
  | element tag inner rest ihInner ihRest =>
      obtain ⟨allowed, placed, within, after⟩ := admissible
      have named : tag.localName = "t" := by simpa [childNames, Workbook.allowed] using placed
      obtain ⟨s₁, s₂, s₃, opened, ran, closed, there⟩ := Handler.run_element_ok.mp ran
      obtain ⟨_, _, opened⟩ := bind_ok_iff.mp opened
      simp only [named, inside, and_self, if_true, String.reduceEq, if_false] at opened
      cases opened
      rw [named] at within
      obtain rfl := string_text within (by decide) ran rfl
      change (_ : Except _ _) = _ at closed
      simp only [stringHandler, named, if_true, String.reduceEq, if_false] at closed
      cases closed
      rw [ihRest after there rfl rfl]
      cases s
      simp_all [elementOf]

theorem readString_ok {si : Element} {text : String} (read : readString si = .ok text) :
    ∃ child, si.name = "si" ∧ (si.children.filter fun child => child.name = "t") = [child] ∧ text = child.text := by
  obtain ⟨found, only, read⟩ := bind_ok_iff.mp read
  obtain ⟨child, present, read⟩ := bind_ok_iff.mp read
  obtain ⟨_, named, read⟩ := bind_ok_iff.mp read
  cases read
  rw [orFail_ok_iff.mp present] at only
  exact ⟨child, by simpa using require_ok_iff.mp named, one_ok only, rfl⟩

/-- All that the profile allows in an element is of one name. -/
theorem elementsOf_named {content : Content SaxesTag} {parent name : String} (admissible : Admissible parent content)
    (only : childNames parent = [name]) :
    (elementsOf content).filter (fun child => child.name = name) = elementsOf content := by
  induction content with
  | empty => rfl
  | text chunk rest ih => exact ih admissible
  | element tag inner rest ihInner ihRest =>
      obtain ⟨_, placed, _, after⟩ := admissible
      rw [only, List.mem_singleton] at placed
      rw [elementsOf_element, List.filter_cons_of_pos (by simp [elementOf, placed]), ihRest after]

/-- The strings of the scanner, as far as the profile reads each of them. -/
theorem string_items {content : Content SaxesTag} {parent : String} {strings : List String} {s s' : StringScan}
    (admissible : Admissible parent content) (items : (elementsOf content).mapM readString = .ok strings)
    (ran : (stringHandler limits).run content.events s = .ok s') (idle : s.inText = false) :
    s'.strings = s.strings ++ strings ∧ s'.inText = false := by
  induction content generalizing s strings with
  | empty =>
      obtain rfl := Handler.run_empty_ok.mp ran
      cases items
      exact ⟨(List.append_nil _).symm, idle⟩
  | text chunk rest ih =>
      obtain ⟨s₁, here, there⟩ := Handler.run_text_ok.mp ran
      obtain rfl := string_idle idle here
      exact ih admissible items there idle
  | element tag inner rest ihInner ihRest =>
      obtain ⟨allowed, placed, within, after⟩ := admissible
      obtain ⟨text, others, item, more, rfl⟩ := mapM_cons_ok_iff.mp items
      obtain ⟨child, named, only, rfl⟩ := readString_ok item
      change tag.localName = "si" at named
      change (elementsOf inner).filter (fun child => child.name = "t") = [child] at only
      obtain ⟨s₁, s₂, s₃, opened, ran, closed, there⟩ := Handler.run_element_ok.mp ran
      obtain ⟨_, _, opened⟩ := bind_ok_iff.mp opened
      simp only [named, if_true, String.reduceEq, false_and, if_false] at opened
      cases opened
      rw [named] at within
      obtain rfl := string_item within ran rfl idle
      simp only [stringHandler, named, if_true, String.reduceEq, if_false] at closed
      obtain ⟨_, _, closed⟩ := bind_ok_iff.mp closed
      cases closed
      obtain ⟨final, idle⟩ := ihRest after more there idle
      refine ⟨?_, idle⟩
      rw [elementsOf_named within rfl] at only
      rw [final, only]
      simp

theorem elementsOf_placed {content : Content SaxesTag} {parent : String} (admissible : Admissible parent content) :
    ∀ child ∈ elementsOf content, child.name ∈ childNames parent := by
  induction content with
  | empty => simp [elementsOf]
  | text chunk rest ih => exact ih admissible
  | element tag inner rest ihInner ihRest =>
      intro child mem
      rcases List.mem_cons.mp mem with rfl | mem
      · exact admissible.2.1
      · exact ihRest admissible.2.2.2 child mem

/-- Where the profile reads a shared string, the root is none itself. -/
theorem string_root {root : SaxesTag} {inner : Content SaxesTag} {strings : List String}
    (admissible : Admissible root.localName inner) (read : (elementsOf inner).mapM readString = .ok strings) :
    strings = [] ∨ root.localName ≠ "si" ∧ root.localName ≠ "t" := by
  cases children : elementsOf inner with
  | nil =>
      rw [children] at read
      cases read
      exact .inl rfl
  | cons child rest =>
      rw [children] at read
      obtain ⟨_, _, item, _, _⟩ := mapM_cons_ok_iff.mp read
      obtain ⟨_, named, _⟩ := readString_ok item
      have placed := elementsOf_placed admissible child (by rw [children]; exact List.mem_cons_self)
      rw [named] at placed
      right
      constructor
      · intro same
        rw [same] at placed
        revert placed
        decide
      · intro same
        rw [same] at placed
        revert placed
        decide

/-- The profile reads the shared strings of the scanner, or none at all. -/
theorem strings_agree (conforming : Conforming runtime) {scanned profiled : List String}
    (scan : scanStrings runtime parts limits = .ok scanned) (profile : readStrings runtime parts limits = .ok profiled) :
    profiled = [] ∨ profiled = scanned := by
  unfold scanStrings at scan
  unfold readStrings at profile
  cases found : parts.get "xl/sharedstrings.xml" with
  | none =>
      rw [found] at profile
      cases profile
      exact .inl rfl
  | some part =>
      rw [found] at scan profile
      obtain ⟨root, read, profile⟩ := bind_ok_iff.mp profile
      obtain ⟨final, pass, done⟩ := bind_ok_iff.mp scan
      obtain rfl := Except.ok.inj done
      obtain ⟨document, events, _, allowed, admissible, rfl⟩ := tree_ok conforming read
      rcases string_root admissible profile with empty | ⟨noItem, noText⟩
      · exact .inl empty
      right
      have ran := (xml_ok pass).2
      rw [events] at ran
      obtain ⟨s₀, s₁, s₂, s₃, before, opened, inside, closed, after⟩ := Handler.run_document_ok.mp ran
      obtain rfl := Handler.run_chunks (fun _ _ _ => string_idle) _ rfl before
      obtain ⟨_, _, opened⟩ := bind_ok_iff.mp opened
      simp only [noItem, noText, if_false, false_and] at opened
      obtain rfl := Except.ok.inj opened
      obtain ⟨strings, idle⟩ := string_items admissible profile inside rfl
      simp only [stringHandler, noItem, noText, if_false] at closed
      obtain rfl := Except.ok.inj closed
      obtain rfl := Handler.run_chunks (fun _ _ _ => string_idle) _ idle after
      simpa using strings.symm

end DataVault.Workbook
