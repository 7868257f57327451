/-
Module: DataVault.Workbook.Profile
Layer: Proof
Purpose: What the strict profile knows of a part that it accepts. A conforming XML parser reports a document with
  its namespaces resolved; `tree` then returns the elements of that document, each with a rule, below a parent that
  allows it, and under no other namespace declarations than the two usual ones.
Imports: Mathlib.Data.List.Find, DataVault.Workbook.Sanitize
Trusted boundary: none
Main exports: Conforming, TagAllowed, Admissible, elementsOf, elementOf, tree_ok, relationshipId_eq,
  tableParser, tableParser_conforming
-/
import Mathlib.Data.List.Find
import DataVault.Workbook.Sanitize

namespace DataVault.Workbook

open DataVault.Control DataVault.Guard DataVault.Xml

/-! ### Conforming parsers -/

def XMLNS : String := "http://www.w3.org/2000/xmlns/"

/-- What the qualifiers of names are bound to; the empty one is that of the default namespace. -/
abbrev Scope := String → Option String

/-- Outside the root only the reserved qualifiers are bound. -/
def outerScope : Scope := fun qualifier =>
  if qualifier = "xml" then some "http://www.w3.org/XML/1998/namespace"
  else if qualifier = "xmlns" then some XMLNS
  else none

/-- The scope inside a tag. -/
def SaxesTag.scope (tag : SaxesTag) (outer : Scope) : Scope := fun qualifier =>
  (tag.attr (if qualifier = "" then "xmlns" else "xmlns:" ++ qualifier)).or (outer qualifier)

/-- The name of an attribute is taken apart at its colon and its qualifier is resolved. -/
def SaxesAttribute.Resolved (scope : Scope) (one : SaxesAttribute) : Prop :=
  (':' ∉ one.name.toList ∧ one.localName = one.name ∧ one.uri = if one.name = "xmlns" then XMLNS else "") ∨
    ∃ qualifier, ':' ∉ qualifier.toList ∧ one.name = qualifier ++ ":" ++ one.localName ∧
      scope qualifier = some one.uri

/-- Every attribute is resolved in the scope of its tag. -/
def Namespaced (outer : Scope) : Content SaxesTag → Prop
  | .empty => True
  | .text _ rest => Namespaced outer rest
  | .element tag inner rest =>
      (∀ one ∈ tag.attributes, one.Resolved (tag.scope outer)) ∧ Namespaced (tag.scope outer) inner ∧
        Namespaced outer rest

/-- A conforming parser: where it reports no error, it has reported a document. -/
def Conforming (runtime : WorkbookRuntime) : Prop :=
  ∀ part, (runtime.saxes part).outcome = .complete → ∃ document : Document SaxesTag,
    (runtime.saxes part).events = document.events ∧
      Namespaced outerScope (.element document.root document.inner .empty)

/-! ### Accepted content -/

/-- The tag has a rule and keeps it. -/
def TagAllowed (tag : SaxesTag) : Prop :=
  tag.uri = MAIN ∧ ∃ rule, allowed tag.localName = some rule ∧
    ∀ one ∈ tag.attributes, isDeclaration one = true ∨ one.name ∈ rule.attrs

/-- The content may stand in an element of that name: each of its elements is one of the children allowed there, keeps
the rule of its tag, and its own content may stand in it. -/
def Admissible (parent : String) : Content SaxesTag → Prop
  | .empty => True
  | .text _ rest => Admissible parent rest
  | .element tag inner rest =>
      TagAllowed tag ∧ tag.localName ∈ childNames parent ∧ Admissible tag.localName inner ∧ Admissible parent rest

/-- The attributes that `tree` keeps. -/
def ownAttrs (tag : SaxesTag) : Attrs :=
  (tag.attributes.filter fun one => !isDeclaration one).map fun one => (one.name, one.value)

/-- The elements of the content. -/
def elementsOf : Content SaxesTag → List Element
  | .empty => []
  | .text _ rest => elementsOf rest
  | .element tag inner rest => ⟨tag.localName, ownAttrs tag, inner.ownText, elementsOf inner⟩ :: elementsOf rest

def elementOf (tag : SaxesTag) (inner : Content SaxesTag) : Element :=
  ⟨tag.localName, ownAttrs tag, inner.ownText, elementsOf inner⟩

@[simp] theorem elementsOf_element (tag : SaxesTag) (inner rest : Content SaxesTag) :
    elementsOf (.element tag inner rest) = elementOf tag inner :: elementsOf rest := rfl

variable {runtime : WorkbookRuntime} {limits : GuardLimits}

theorem openTree_ok {tag : SaxesTag} {s s' : TreeState} (opened : (treeHandler limits).opening tag s = .ok s') :
    TagAllowed tag ∧ (∀ top ∈ s.stack.head?, tag.localName ∈ childNames top.name) ∧
      s' = { s with stack := ⟨tag.localName, ownAttrs tag, "", []⟩ :: s.stack } := by
  obtain ⟨rule, found, opened⟩ := bind_ok_iff.mp opened
  obtain ⟨_, placed, opened⟩ := bind_ok_iff.mp opened
  obtain ⟨attrs, kept, opened⟩ := bind_ok_iff.mp opened
  obtain ⟨_, _, opened⟩ := bind_ok_iff.mp opened
  cases opened
  obtain ⟨_, ruled, kept⟩ := bind_ok_iff.mp kept
  cases kept
  have placed := require_ok_iff.mp placed
  simp only [Bool.and_eq_true, decide_eq_true_eq, Option.all_eq_true] at placed
  have ruled := List.all_eq_true.mp (require_ok_iff.mp ruled)
  refine ⟨⟨placed.1, rule, orFail_ok_iff.mp found, fun one mem => ?_⟩, fun top head => ?_, rfl⟩
  · cases declared : isDeclaration one with
    | true => exact .inl rfl
    | false => exact .inr (by simpa using ruled one (List.mem_filter.mpr ⟨mem, by simp [declared]⟩))
  · simpa using placed.2 top head

theorem chunkTree_ok {text : String} {top : Element} {rest : List Element} {root : Option Element} {s' : TreeState}
    (read : (treeHandler limits).chunk text ⟨top :: rest, root⟩ = .ok s') :
    s' = ⟨{ top with text := top.text ++ text } :: rest, root⟩ := by
  obtain ⟨_, _, read⟩ := bind_ok_iff.mp read
  obtain ⟨_, _, read⟩ := bind_ok_iff.mp read
  cases read
  rfl

/-- The content of an element ends up in that element. -/
theorem run_tree_content {content : Content SaxesTag} {top : Element} {rest : List Element} {root : Option Element}
    {s' : TreeState} (ran : (treeHandler limits).run content.events ⟨top :: rest, root⟩ = .ok s') :
    Admissible top.name content ∧ s' = ⟨{ top with
      text := top.text ++ content.ownText
      children := top.children ++ elementsOf content } :: rest, root⟩ := by
  induction content generalizing top rest s' with
  | empty =>
      obtain rfl := Handler.run_empty_ok.mp ran
      refine ⟨trivial, ?_⟩
      cases top
      simp [Content.ownText, elementsOf]
  | text chunk content ih =>
      obtain ⟨s₁, here, there⟩ := Handler.run_text_ok.mp ran
      obtain rfl := chunkTree_ok here
      obtain ⟨admissible, rfl⟩ := ih there
      exact ⟨admissible, by simp [Content.ownText, elementsOf, String.append_assoc]⟩
  | element tag inner content ihInner ihContent =>
      obtain ⟨s₁, s₂, s₃, opened, inside, closed, after⟩ := Handler.run_element_ok.mp ran
      obtain ⟨allowed, placed, rfl⟩ := openTree_ok opened
      obtain ⟨within, rfl⟩ := ihInner inside
      cases closed
      obtain ⟨admissible, rfl⟩ := ihContent after
      refine ⟨⟨allowed, placed top rfl, within, admissible⟩, ?_⟩
      simp [Content.ownText, elementOf, List.append_assoc]

theorem run_tree_blank {chunks : List String} {root : Option Element} {s' : TreeState}
    (ran : (treeHandler limits).run (chunks.map .chunk) ⟨[], root⟩ = .ok s') : s' = ⟨[], root⟩ := by
  refine Handler.run_chunks (P := fun s => s.stack = []) (fun text s s₁ empty read => ?_) chunks rfl ran
  obtain ⟨stack, root⟩ := s
  cases (empty : stack = [])
  obtain ⟨_, _, read⟩ := bind_ok_iff.mp read
  cases read
  rfl

/-- What `tree` returns is the root element of the document that the parser has reported. -/
theorem tree_ok (conforming : Conforming runtime) {part : Bytes} {root : Element}
    (read : tree runtime part limits = .ok root) :
    ∃ document : Document SaxesTag, (runtime.saxes part).events = document.events ∧
      Namespaced outerScope (.element document.root document.inner .empty) ∧ TagAllowed document.root ∧
      Admissible document.root.localName document.inner ∧ root = elementOf document.root document.inner := by
  obtain ⟨s', parsed, found⟩ := bind_ok_iff.mp read
  obtain ⟨complete, ran⟩ := xml_ok parsed
  obtain ⟨document, events, namespaced⟩ := conforming part complete
  rw [events] at ran
  obtain ⟨s₀, s₁, s₂, s₃, before, opened, inside, closed, after⟩ := Handler.run_document_ok.mp ran
  obtain rfl := run_tree_blank before
  obtain ⟨allowed, _, rfl⟩ := openTree_ok opened
  obtain ⟨within, rfl⟩ := run_tree_content inside
  cases closed
  obtain rfl := run_tree_blank after
  refine ⟨document, events, namespaced, allowed, within, ?_⟩
  have found := Option.some.inj (orFail_ok_iff.mp found)
  rw [← found]
  simp [elementOf]

/-! ### Attributes -/

/-- A kept attribute has the value that the tag has. -/
theorem lookup_ownAttrs {tag : SaxesTag} {name : String} (plain : name ≠ "xmlns") (unqualified : name ≠ "xmlns:r") :
    (ownAttrs tag).lookup name = tag.attr name := by
  unfold ownAttrs SaxesTag.attr
  induction tag.attributes with
  | nil => rfl
  | cons one rest ih =>
      by_cases same : one.name = name
      · have kept : isDeclaration one = false := by simp [isDeclaration, same, plain, unqualified]
        rw [List.filter_cons_of_pos (by simp [kept]), List.map_cons, List.find?_cons_of_pos (by simp [same])]
        rw [List.lookup_cons, same, beq_self_eq_true]
        rfl
      · rw [List.find?_cons_of_neg (by simpa using same)]
        cases declared : isDeclaration one with
        | true =>
            rw [List.filter_cons_of_neg (by simp [declared])]
            exact ih
        | false =>
            rw [List.filter_cons_of_pos (by simp [declared]), List.map_cons, List.lookup_cons, ih]
            have differs : (name == one.name) = false := by simpa using Ne.symm same
            rw [differs]

theorem undeclared_of_allowed {name : String} {rule : ElementRule} (found : allowed name = some rule) :
    "xmlns:r" ∉ rule.attrs := by
  unfold allowed at found
  split at found <;> (try split at found) <;> cases found <;> decide

/-! ### The id of the relationship of a sheet -/

/-- The qualifier of the relationships is bound to their namespace, if at all. -/
def SafeScope (scope : Scope) : Prop := ∀ uri, scope "r" = some uri → uri = OFFICE

theorem outerScope_safe : SafeScope outerScope := by
  intro uri bound
  cases bound

theorem attr_mem {tag : SaxesTag} {name value : String} (found : tag.attr name = some value) :
    ∃ one ∈ tag.attributes, one.name = name ∧ one.value = value := by
  obtain ⟨one, found, same⟩ := Option.map_eq_some_iff.mp found
  exact ⟨one, List.mem_of_find?_eq_some found, by simpa using List.find?_some found, same⟩

theorem TagAllowed.safe {tag : SaxesTag} {outer : Scope} (allowed : TagAllowed tag) (safe : SafeScope outer) :
    SafeScope (tag.scope outer) := by
  intro uri bound
  have bound : (tag.attr "xmlns:r").or (outer "r") = some uri := bound
  cases declared : tag.attr "xmlns:r" with
  | none =>
      rw [declared, Option.none_or] at bound
      exact safe uri bound
  | some value =>
      rw [declared, Option.some_or] at bound
      obtain ⟨one, mem, named, valued⟩ := attr_mem declared
      obtain ⟨_, rule, found, kept⟩ := allowed
      rcases kept one mem with usual | ruled
      · simp only [isDeclaration, named, Bool.or_eq_true, Bool.and_eq_true, decide_eq_true_eq] at usual
        rcases usual with ⟨other, _⟩ | ⟨_, office⟩
        · cases (by decide : "xmlns:r" ≠ "xmlns") other
        · rw [← Option.some.inj bound, ← valued, office]
      · rw [named] at ruled
        exact absurd ruled (undeclared_of_allowed found)

/-- The parts of a qualified name. -/
theorem split_at_colon {name qualifier local' : String} (plain : ':' ∉ qualifier.toList)
    (joined : name = qualifier ++ ":" ++ local') :
    qualifier.toList = name.toList.takeWhile (· ≠ ':') ∧
      local'.toList = (name.toList.dropWhile (· ≠ ':')).tail := by
  have pass : ∀ c ∈ qualifier.toList, (fun c => decide (c ≠ ':')) c = true := by
    intro c mem
    simp only [decide_eq_true_eq]
    rintro rfl
    exact plain mem
  have chars : name.toList = qualifier.toList ++ ':' :: local'.toList := by
    rw [joined]
    simp [String.toList_append]
  rw [chars, List.takeWhile_append_of_pos pass, List.dropWhile_append_of_pos pass]
  simp

/-- In a sheet that the profile accepts, the attribute `r:id` and no other is the id in the namespace of the
relationships. -/
theorem relationshipId_eq {tag : SaxesTag} {outer : Scope} (sheet : tag.localName = "sheet")
    (allowed : TagAllowed tag) (safe : SafeScope outer)
    (resolved : ∀ one ∈ tag.attributes, one.Resolved (tag.scope outer)) : tag.relationshipId = tag.attr "r:id" := by
  have within := allowed.safe safe
  obtain ⟨_, rule, found, kept⟩ := allowed
  rw [sheet] at found
  cases found
  unfold SaxesTag.relationshipId SaxesTag.attr
  congr 1
  refine List.find?_congr fun one mem => ?_
  have names : one.name ∈ ["xmlns", "xmlns:r", "name", "sheetId", "state", "r:id"] := by
    rcases kept one mem with usual | ruled
    · simp only [isDeclaration, Bool.or_eq_true, Bool.and_eq_true, decide_eq_true_eq] at usual
      rcases usual with ⟨named, _⟩ | ⟨named, _⟩ <;> simp [named]
    · simp only [List.mem_cons] at ruled ⊢
      exact .inr (.inr ruled)
  rcases resolved one mem with ⟨plain, same, _⟩ | ⟨qualifier, plain, joined, bound⟩
  · have other : one.name ≠ "r:id" := by
      intro named
      rw [named] at plain
      exact plain (by decide)
    have different : one.localName ≠ "id" := by
      intro named
      rw [same] at named
      rw [named] at names
      revert names
      decide
    simp [other, different]
  · obtain ⟨before, after⟩ := split_at_colon plain joined
    have colon : ':' ∈ one.name.toList := by
      rw [joined]
      simp
    by_cases named : one.name = "r:id"
    · rw [named] at before after
      have of_r : qualifier = "r" := String.toList_injective before
      have of_id : one.localName = "id" := String.toList_injective after
      rw [of_r] at bound
      simp [named, of_id, within _ bound]
    · have different : one.localName ≠ "id" := by
        intro id
        simp only [List.mem_cons, List.not_mem_nil, or_false] at names
        rcases names with same | same | same | same | same | same
        · rw [same] at colon
          revert colon
          decide
        · rw [same, id] at after
          revert after
          decide
        · rw [same] at colon
          revert colon
          decide
        · rw [same] at colon
          revert colon
          decide
        · rw [same] at colon
          revert colon
          decide
        · exact named same
      simp [named, different]

/-! ### A parser of known documents -/

/-- An attribute whose qualifier is resolved in the scope, by its name. -/
def SaxesAttribute.resolvedBy (scope : Scope) (one : SaxesAttribute) (qualifier : String) : Bool :=
  !qualifier.toList.contains ':' && one.name = qualifier ++ ":" ++ one.localName && scope qualifier = some one.uri

def SaxesAttribute.isResolved (scope : Scope) (one : SaxesAttribute) : Bool :=
  (!one.name.toList.contains ':' && one.localName = one.name && one.uri = if one.name = "xmlns" then XMLNS else "") ||
    ["xml", "xmlns", "r"].any (one.resolvedBy scope)

def isNamespaced (outer : Scope) : Content SaxesTag → Bool
  | .empty => true
  | .text _ rest => isNamespaced outer rest
  | .element tag inner rest =>
      tag.attributes.all (·.isResolved (tag.scope outer)) && isNamespaced (tag.scope outer) inner &&
        isNamespaced outer rest

theorem SaxesAttribute.resolved_of_isResolved {scope : Scope} {one : SaxesAttribute}
    (checked : one.isResolved scope = true) : one.Resolved scope := by
  simp only [isResolved, Bool.or_eq_true, Bool.and_eq_true, decide_eq_true_eq, Bool.not_eq_true',
    List.any_eq_true] at checked
  rcases checked with ⟨⟨unqualified, same⟩, uri⟩ | ⟨qualifier, _, resolved⟩
  · left
    exact ⟨by simpa using unqualified, same, uri⟩
  · right
    simp only [resolvedBy, Bool.and_eq_true, decide_eq_true_eq, Bool.not_eq_true'] at resolved
    exact ⟨qualifier, by simpa using resolved.1.1, resolved.1.2, resolved.2⟩

theorem namespaced_of_isNamespaced {outer : Scope} {content : Content SaxesTag}
    (checked : isNamespaced outer content = true) : Namespaced outer content := by
  induction content generalizing outer with
  | empty => trivial
  | text chunk rest ih => exact ih checked
  | element tag inner rest ihInner ihRest =>
      simp only [isNamespaced, Bool.and_eq_true, List.all_eq_true] at checked
      rcases checked with ⟨⟨attributes, inside⟩, after⟩
      exact ⟨fun one mem => SaxesAttribute.resolved_of_isResolved (attributes one mem), ihInner inside, ihRest after⟩

/-- A parser that knows some documents, and rejects every other text. -/
def tableParser (table : List (String × Document SaxesTag)) (part : Bytes) : SaxesRun :=
  match table.find? fun entry => entry.1.toUTF8.data.toList = part with
  | some entry => ⟨entry.2.events, .complete⟩
  | none => ⟨[], .rejected⟩

theorem tableParser_conforming {table : List (String × Document SaxesTag)} {runtime : WorkbookRuntime}
    (parser : runtime.saxes = tableParser table)
    (namespaced : (table.all fun entry =>
      isNamespaced outerScope (.element entry.2.root entry.2.inner .empty)) = true) : Conforming runtime := by
  intro part complete
  rw [parser] at complete ⊢
  unfold tableParser at complete ⊢
  cases found : table.find? fun entry => entry.1.toUTF8.data.toList = part with
  | none =>
      rw [found] at complete
      cases complete
  | some entry =>
      have known := List.all_eq_true.mp namespaced entry (List.mem_of_find?_eq_some found)
      exact ⟨entry.2, rfl, namespaced_of_isNamespaced known⟩

end DataVault.Workbook
