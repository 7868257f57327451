/-
Module: DataVault.Xml.Content
Layer: Library
Purpose: XML content as a tree and as the events of a streaming parser, and handlers that fold over the events with
  a state and may fail. A handler that runs over the events of a tree can be followed along the tree.
Imports: DataVault.Control.Fallible
Trusted boundary: none
Main exports: Event, Content, Document, Handler, Handler.run, Handler.run_text_ok, Handler.run_element_ok,
  Handler.run_document_ok, Handler.ofTags, Handler.run_ofTags
-/
import DataVault.Control.Fallible

namespace DataVault.Xml

open DataVault.Control

/-! ### Trees and events -/

inductive Event (Tag : Type) where
  | opening (tag : Tag)
  | chunk (text : String)
  | closing (tag : Tag)
deriving DecidableEq, Repr

/-- The content of an element, item by item; character data comes in chunks. -/
inductive Content (Tag : Type) where
  | empty
  | text (chunk : String) (rest : Content Tag)
  | element (tag : Tag) (inner rest : Content Tag)
deriving DecidableEq, Repr

variable {Tag σ ε : Type}

namespace Content

/-- What a parser reports of the content. -/
def events : Content Tag → List (Event Tag)
  | .empty => []
  | .text chunk rest => .chunk chunk :: rest.events
  | .element tag inner rest => .opening tag :: (inner.events ++ .closing tag :: rest.events)

/-- The tags in document order. -/
def tags : Content Tag → List Tag
  | .empty => []
  | .text _ rest => rest.tags
  | .element tag inner rest => tag :: (inner.tags ++ rest.tags)

/-- The character data that no element encloses. -/
def ownText : Content Tag → String
  | .empty => ""
  | .text chunk rest => chunk ++ rest.ownText
  | .element _ _ rest => rest.ownText

end Content

/-- One root element; character data around it is reported too. -/
structure Document (Tag : Type) where
  before : List String
  root : Tag
  inner : Content Tag
  after : List String
deriving DecidableEq, Repr

namespace Document

def events (document : Document Tag) : List (Event Tag) :=
  document.before.map .chunk ++
    (.opening document.root :: (document.inner.events ++ .closing document.root :: document.after.map .chunk))

def tags (document : Document Tag) : List Tag := document.root :: document.inner.tags

end Document

/-! ### Handlers -/

structure Handler (Tag σ ε : Type) where
  opening : Tag → σ → Except ε σ
  chunk : String → σ → Except ε σ
  closing : Tag → σ → Except ε σ

namespace Handler

variable (handler : Handler Tag σ ε)

def step : Event Tag → σ → Except ε σ
  | .opening tag, s => handler.opening tag s
  | .chunk text, s => handler.chunk text s
  | .closing tag, s => handler.closing tag s

/-- The events one after another, up to the first failure. -/
def run : List (Event Tag) → σ → Except ε σ
  | [], s => pure s
  | event :: rest, s => handler.step event s >>= run rest

/-- A handler that looks at the tags only. -/
def ofTags (opening : Tag → σ → Except ε σ) : Handler Tag σ ε where
  opening := opening
  chunk _ := pure
  closing _ := pure

variable {handler} {s s' : σ}

theorem run_append (first second : List (Event Tag)) (s : σ) :
    handler.run (first ++ second) s = handler.run first s >>= handler.run second := by
  induction first generalizing s with
  | nil => rfl
  | cons event rest ih =>
      simp only [List.cons_append, run, bind_assoc]
      congr 1
      funext s'
      exact ih s'

/-- What no event breaks holds after all of them. -/
theorem run_keeps {P : σ → Prop} (opening : ∀ tag s s', P s → handler.opening tag s = .ok s' → P s')
    (chunk : ∀ text s s', P s → handler.chunk text s = .ok s' → P s')
    (closing : ∀ tag s s', P s → handler.closing tag s = .ok s' → P s') {events : List (Event Tag)}
    (start : P s) (ran : handler.run events s = .ok s') : P s' := by
  induction events generalizing s with
  | nil =>
      cases ran
      exact start
  | cons event rest ih =>
      rcases bind_ok_iff.mp ran with ⟨between, here, there⟩
      cases event with
      | opening tag => exact ih (opening tag s between start here) there
      | chunk text => exact ih (chunk text s between start here) there
      | closing tag => exact ih (closing tag s between start here) there

theorem run_empty_ok : handler.run (Content.empty : Content Tag).events s = .ok s' ↔ s = s' := by
  constructor
  · intro ran
    exact Except.ok.inj ran
  · rintro rfl
    rfl

theorem run_text_ok {chunk : String} {rest : Content Tag} :
    handler.run (Content.text chunk rest).events s = .ok s' ↔
      ∃ s₁, handler.chunk chunk s = .ok s₁ ∧ handler.run rest.events s₁ = .ok s' := by
  rw [Content.events, run]
  exact bind_ok_iff

theorem run_element_ok {tag : Tag} {inner rest : Content Tag} :
    handler.run (Content.element tag inner rest).events s = .ok s' ↔
      ∃ s₁ s₂ s₃, handler.opening tag s = .ok s₁ ∧ handler.run inner.events s₁ = .ok s₂ ∧
        handler.closing tag s₂ = .ok s₃ ∧ handler.run rest.events s₃ = .ok s' := by
  rw [Content.events, run, bind_ok_iff]
  constructor
  · rintro ⟨s₁, opened, ran⟩
    rw [run_append, bind_ok_iff] at ran
    obtain ⟨s₂, inside, ran⟩ := ran
    obtain ⟨s₃, closed, after⟩ := bind_ok_iff.mp ran
    exact ⟨s₁, s₂, s₃, opened, inside, closed, after⟩
  · rintro ⟨s₁, s₂, s₃, opened, inside, closed, after⟩
    refine ⟨s₁, opened, ?_⟩
    rw [run_append, bind_ok_iff]
    exact ⟨s₂, inside, bind_ok_iff.mpr ⟨s₃, closed, after⟩⟩

theorem run_document_ok {document : Document Tag} :
    handler.run document.events s = .ok s' ↔
      ∃ s₀ s₁ s₂ s₃, handler.run (document.before.map .chunk) s = .ok s₀ ∧
        handler.opening document.root s₀ = .ok s₁ ∧ handler.run document.inner.events s₁ = .ok s₂ ∧
        handler.closing document.root s₂ = .ok s₃ ∧ handler.run (document.after.map .chunk) s₃ = .ok s' := by
  rw [Document.events, run_append, bind_ok_iff]
  constructor
  · rintro ⟨s₀, before, ran⟩
    obtain ⟨s₁, opened, ran⟩ := bind_ok_iff.mp ran
    rw [run_append, bind_ok_iff] at ran
    obtain ⟨s₂, inside, ran⟩ := ran
    obtain ⟨s₃, closed, after⟩ := bind_ok_iff.mp ran
    exact ⟨s₀, s₁, s₂, s₃, before, opened, inside, closed, after⟩
  · rintro ⟨s₀, s₁, s₂, s₃, before, opened, inside, closed, after⟩
    refine ⟨s₀, before, bind_ok_iff.mpr ⟨s₁, opened, ?_⟩⟩
    rw [run_append, bind_ok_iff]
    exact ⟨s₂, inside, bind_ok_iff.mpr ⟨s₃, closed, after⟩⟩

/-- Chunks that change nothing. -/
theorem run_chunks {P : σ → Prop} (idle : ∀ text s s', P s → handler.chunk text s = .ok s' → s' = s)
    (chunks : List String) (holds : P s) (ran : handler.run (chunks.map .chunk) s = .ok s') : s' = s := by
  induction chunks with
  | nil => exact (Except.ok.inj ran).symm
  | cons text rest ih =>
      obtain ⟨s₁, here, there⟩ := bind_ok_iff.mp ran
      obtain rfl := idle text s s₁ holds here
      exact ih there

/-! ### Handlers of tags -/

theorem run_ofTags_content (opening : Tag → σ → Except ε σ) (content : Content Tag) (s : σ) :
    (ofTags opening).run content.events s = content.tags.foldlM (fun s tag => opening tag s) s := by
  induction content generalizing s with
  | empty => rfl
  | text chunk rest ih => exact ih s
  | element tag inner rest ihInner ihRest =>
      rw [Content.events, run, Content.tags, List.foldlM_cons]
      congr 1
      funext s₁
      rw [run_append, List.foldlM_append, ihInner]
      congr 1
      funext s₂
      exact ihRest s₂

theorem run_ofTags_chunks (opening : Tag → σ → Except ε σ) (chunks : List String) (s : σ) :
    (ofTags opening).run (chunks.map .chunk) s = .ok s := by
  induction chunks with
  | nil => rfl
  | cons text rest ih => exact ih

/-- A handler that looks at the tags only is a fold over them. -/
theorem run_ofTags (opening : Tag → σ → Except ε σ) (document : Document Tag) (s : σ) :
    (ofTags opening).run document.events s = document.tags.foldlM (fun s tag => opening tag s) s := by
  rw [Document.events, run_append, run_ofTags_chunks, Document.tags, List.foldlM_cons]
  show opening document.root s >>= _ = _
  congr 1
  funext s₁
  rw [run_append, run_ofTags_content]
  refine (congrArg _ (funext fun s₂ => ?_)).trans (bind_pure _)
  exact run_ofTags_chunks opening document.after s₂

end Handler

end DataVault.Xml
