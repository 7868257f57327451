/-
Module: DataVault.Store.Collection
Layer: Library
Purpose: The single-collection operations of a document database over lists of documents: count, update of
  the first match, update of all matches, deletion of the first match or of all. Each operation has one lemma that
  splits the collection at the document it touches and one that says how it changes a count.
Imports: Mathlib.Data.List.Basic, Mathlib.Data.List.Nodup
Trusted boundary: none
Main exports: findOneAndUpdate, findOneAndUpdate_map, updateMany, updateMany_map, findOneAndDelete, findOneAndDelete_filter,
  findOneAndDelete_only, deleteMany, countDocuments, countDocuments_update, countDocuments_updateMany_le,
  countDocuments_delete_le
-/
import Mathlib.Data.List.Basic
import Mathlib.Data.List.Nodup
import Mathlib.Tactic.Common

namespace DataVault.Store

variable {α : Type}

/-- The number of documents that match a filter. -/
def countDocuments (documents : List α) (filter : α → Bool) : Nat := documents.countP filter

/-- Updates the first document that matches; returns it as updated (`new: true`) with the collection. -/
def findOneAndUpdate (filter : α → Bool) (update : α → α) : List α → Option (α × List α)
  | [] => none
  | document :: rest =>
      if filter document then some (update document, update document :: rest)
      else (findOneAndUpdate filter update rest).map fun found => (found.1, document :: found.2)

/-- Updates every document that matches. -/
def updateMany (filter : α → Bool) (update : α → α) (documents : List α) : List α :=
  documents.map fun document => if filter document then update document else document

/-- Removes the first document that matches and returns it. -/
def findOneAndDelete (filter : α → Bool) : List α → Option (α × List α)
  | [] => none
  | document :: rest =>
      if filter document then some (document, rest)
      else (findOneAndDelete filter rest).map fun found => (found.1, document :: found.2)

/-- Removes every document that matches. -/
def deleteMany (filter : α → Bool) (documents : List α) : List α := documents.filter fun document => !filter document

@[simp] theorem countDocuments_cons (document : α) (documents : List α) (filter : α → Bool) :
    countDocuments (document :: documents) filter =
      countDocuments documents filter + if filter document then 1 else 0 := by
  simp [countDocuments, List.countP_cons]

@[simp] theorem countDocuments_append (first second : List α) (filter : α → Bool) :
    countDocuments (first ++ second) filter =
      countDocuments first filter + countDocuments second filter :=
  List.countP_append

theorem countDocuments_eq_zero {documents : List α} {filter : α → Bool}
    (none : ∀ document ∈ documents, filter document = false) : countDocuments documents filter = 0 := by
  rw [countDocuments, List.countP_eq_zero]
  intro document mem
  simp [none document mem]

theorem countDocuments_le {filter wider : α → Bool} (documents : List α)
    (implies : ∀ document, filter document → wider document) :
    countDocuments documents filter ≤ countDocuments documents wider :=
  List.countP_mono_left fun document _ => implies document

/-- Two filters that exclude each other and imply a third are together at most as frequent. -/
theorem countDocuments_add_le {first second wider : α → Bool} (documents : List α)
    (of_first : ∀ document, first document → wider document)
    (of_second : ∀ document, second document → wider document)
    (disjoint : ∀ document, first document → second document → False) :
    countDocuments documents first + countDocuments documents second ≤ countDocuments documents wider := by
  induction documents with
  | nil => simp [countDocuments]
  | cons document rest ih =>
      have one := of_first document
      have two := of_second document
      have both := disjoint document
      simp only [countDocuments_cons]
      by_cases is_first : first document <;> by_cases is_second : second document <;>
        simp_all <;> omega

/-- An update replaces one document that matches, the first one, and nothing else. -/
theorem findOneAndUpdate_split {filter : α → Bool} {update : α → α} {documents changed : List α}
    {updated : α} (found : findOneAndUpdate filter update documents = some (updated, changed)) :
    ∃ before document after, documents = before ++ document :: after ∧ filter document ∧
      documents.find? filter = some document ∧
      updated = update document ∧ changed = before ++ update document :: after := by
  induction documents generalizing changed with
  | nil => cases found
  | cons document rest ih =>
      simp only [findOneAndUpdate] at found
      split at found
      · rename_i matched
        cases found
        exact ⟨[], document, rest, rfl, matched, by simp [matched], rfl, rfl⟩
      · rename_i unmatched
        obtain ⟨⟨_, _⟩, inRest, same⟩ := Option.map_eq_some_iff.mp found
        cases same
        obtain ⟨before, hit, after, rfl, matched, first, rfl, rfl⟩ := ih inRest
        refine ⟨document :: before, hit, after, rfl, matched, ?_, rfl, rfl⟩
        rw [List.find?_cons_of_neg unmatched]
        exact first

/-- Where a key tells the documents apart, an update is a change of the document with one key. -/
theorem findOneAndUpdate_map {key : α → Nat} {filter : α → Bool} {update : α → α} {documents changed : List α}
    {updated : α} (distinct : (documents.map key).Nodup)
    (found : findOneAndUpdate filter update documents = some (updated, changed)) :
    ∃ document ∈ documents, filter document ∧ updated = update document ∧
      changed = documents.map fun other => if key other = key document then update document else other := by
  obtain ⟨before, document, after, split, matched, _, same, rfl⟩ := findOneAndUpdate_split found
  have mem : document ∈ documents := by simp [split]
  refine ⟨document, mem, matched, same, ?_⟩
  rw [split, List.map_append, List.map_cons, List.nodup_append] at distinct
  obtain ⟨_, distinct, apart⟩ := distinct
  have earlier : ∀ other ∈ before, key other ≠ key document := fun other otherMem =>
    apart _ (List.mem_map.mpr ⟨other, otherMem, rfl⟩) _ List.mem_cons_self
  have later : ∀ other ∈ after, key other ≠ key document := fun other otherMem equal =>
    (List.nodup_cons.mp distinct).1 (List.mem_map.mpr ⟨other, otherMem, equal⟩)
  have kept : ∀ others : List α, (∀ other ∈ others, key other ≠ key document) →
      others.map (fun other => if key other = key document then update document else other) = others := by
    intro others differ
    rw [List.map_congr_left fun other otherMem => if_neg (differ other otherMem), List.map_id']
  rw [split, List.map_append, List.map_cons, kept before earlier, kept after later, if_pos rfl]

theorem findOneAndUpdate_none_iff {filter : α → Bool} {update : α → α} {documents : List α} :
    findOneAndUpdate filter update documents = none ↔ documents.find? filter = none := by
  induction documents with
  | nil => simp [findOneAndUpdate]
  | cons document rest ih =>
      simp only [findOneAndUpdate]
      split
      · rename_i matched
        simp [matched]
      · rename_i unmatched
        rw [List.find?_cons_of_neg unmatched, Option.map_eq_none_iff]
        exact ih

/-- A deletion removes one document that matches and nothing else. -/
theorem findOneAndDelete_split {filter : α → Bool} {documents changed : List α} {deleted : α}
    (found : findOneAndDelete filter documents = some (deleted, changed)) :
    ∃ before after, documents = before ++ deleted :: after ∧ filter deleted ∧
      changed = before ++ after := by
  induction documents generalizing changed with
  | nil => cases found
  | cons document rest ih =>
      simp only [findOneAndDelete] at found
      split at found
      · rename_i matched
        cases found
        exact ⟨[], rest, rfl, matched, rfl⟩
      · obtain ⟨⟨_, _⟩, inRest, same⟩ := Option.map_eq_some_iff.mp found
        cases same
        obtain ⟨before, after, rfl, matched, rfl⟩ := ih inRest
        exact ⟨document :: before, after, rfl, matched, rfl⟩

theorem findOneAndDelete_sublist {filter : α → Bool} {documents changed : List α} {deleted : α}
    (found : findOneAndDelete filter documents = some (deleted, changed)) : changed.Sublist documents := by
  obtain ⟨before, after, rfl, _, rfl⟩ := findOneAndDelete_split found
  exact (List.Sublist.refl before).append (List.sublist_cons_self deleted after)

/-- An update that leaves the key of a document leaves the keys of a collection. -/
theorem updateMany_map {β : Type} {key : α → β} {filter : α → Bool} {update : α → α} {documents : List α}
    (keeps : ∀ document, key (update document) = key document) :
    (updateMany filter update documents).map key = documents.map key := by
  rw [updateMany, List.map_map]
  refine List.map_congr_left fun document _ => ?_
  rw [Function.comp_apply]
  split
  · exact keeps document
  · rfl

/-- Where a key tells the documents apart, a deletion leaves the documents with other keys. -/
theorem findOneAndDelete_filter {key : α → Nat} {filter : α → Bool} {documents changed : List α} {deleted : α}
    (distinct : (documents.map key).Nodup) (found : findOneAndDelete filter documents = some (deleted, changed)) :
    deleted ∈ documents ∧ filter deleted ∧ changed = documents.filter fun other => key other ≠ key deleted := by
  obtain ⟨before, after, split, matched, rfl⟩ := findOneAndDelete_split found
  refine ⟨by simp [split], matched, ?_⟩
  rw [split, List.map_append, List.map_cons, List.nodup_middle, List.nodup_cons, ← List.map_append] at distinct
  have kept : ∀ others : List α, others ⊆ before ++ after →
      others.filter (fun other => key other ≠ key deleted) = others := by
    intro others among
    rw [List.filter_eq_self]
    intro other mem
    refine decide_eq_true fun same => ?_
    exact distinct.1 (List.mem_map.mpr ⟨other, among mem, same⟩)
  rw [split, List.filter_append, List.filter_cons_of_neg (by simp), kept before (List.subset_append_left _ _),
    kept after (List.subset_append_right _ _)]

/-- Where a wider filter has one match, which the filter of a deletion accepts, the deletion takes that one. -/
theorem findOneAndDelete_only {filter wider : α → Bool} {documents : List α} {document : α}
    (only : documents.filter wider = [document]) (narrower : ∀ other, filter other = true → wider other = true)
    (accepted : filter document = true) :
    findOneAndDelete filter documents = some (document, documents.filter fun other => !wider other) := by
  induction documents with
  | nil => cases only
  | cons first rest ih =>
      rw [findOneAndDelete]
      cases matched : wider first with
      | true =>
          rw [List.filter_cons_of_pos matched] at only
          obtain ⟨rfl, others⟩ := List.cons.inj only
          have kept : rest.filter (fun other => !wider other) = rest := by
            rw [List.filter_eq_self]
            intro other mem
            simpa using List.filter_eq_nil_iff.mp others other mem
          rw [if_pos accepted, List.filter_cons_of_neg (by simp [matched]), kept]
      | false =>
          have passed : ¬filter first = true := fun hit => by simp [narrower first hit] at matched
          rw [List.filter_cons_of_neg (by simp [matched])] at only
          rw [if_neg passed, ih only, List.filter_cons_of_pos (by simp [matched])]
          rfl

/-- What an update does to a count is what it does to the updated document. -/
theorem countDocuments_update (counted : α → Bool) {filter : α → Bool} {update : α → α} {documents changed : List α}
    {updated : α} (found : findOneAndUpdate filter update documents = some (updated, changed)) :
    ∃ document, documents.find? filter = some document ∧ filter document ∧ updated = update document ∧
      countDocuments changed counted + (if counted document then 1 else 0) =
        countDocuments documents counted + (if counted (update document) then 1 else 0) := by
  obtain ⟨before, document, after, rfl, matched, first, rfl, rfl⟩ := findOneAndUpdate_split found
  refine ⟨document, first, matched, rfl, ?_⟩
  simp only [countDocuments_append, countDocuments_cons]
  omega

/-- Updating all matches lowers a count that no update raises. -/
theorem countDocuments_updateMany_le {filter counted : α → Bool} {update : α → α} (documents : List α)
    (lowers : ∀ document, filter document → counted (update document) → counted document) :
    countDocuments (updateMany filter update documents) counted ≤ countDocuments documents counted := by
  unfold updateMany countDocuments
  rw [List.countP_map]
  refine List.countP_mono_left fun document _ counts => ?_
  simp only [Function.comp] at counts
  split at counts
  · exact lowers document ‹_› counts
  · exact counts

/-- A deletion never raises a count. -/
theorem countDocuments_delete_le {filter counted : α → Bool} {documents changed : List α} {deleted : α}
    (found : findOneAndDelete filter documents = some (deleted, changed)) :
    countDocuments changed counted ≤ countDocuments documents counted := by
  obtain ⟨before, after, rfl, _, rfl⟩ := findOneAndDelete_split found
  simp only [countDocuments_append, countDocuments_cons]
  omega

end DataVault.Store
