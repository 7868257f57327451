/-
Module: DataVault.Store.Listing
Layer: Library
Purpose: Listings of documents by the time of their creation, ties by id (`sort({ createdAt, _id })`), their pages, and
  what is left of a collection when the end of a listing is removed.
Imports: DataVault.Store.Collection, Mathlib.Data.List.Sort
Trusted boundary: none
Main exports: Stamp, olderFirst, newerFirst, newerFirst_congr, pageOf, pages_eq_take, ListsIds, ListsIds.mem_drop,
  countDocuments_kept
-/
import DataVault.Store.Collection
import Mathlib.Data.List.Sort

namespace DataVault.Store

variable {α : Type}

/-- What documents are sorted by. -/
structure Stamp where
  createdAt : Int
  id : Nat
deriving DecidableEq, Repr

namespace Stamp

/-- The order of `{ createdAt: 1, _id: 1 }`. -/
def Before (one two : Stamp) : Prop :=
  one.createdAt < two.createdAt ∨ one.createdAt = two.createdAt ∧ one.id ≤ two.id

instance (one two : Stamp) : Decidable (one.Before two) := inferInstanceAs (Decidable (_ ∨ _))

theorem before_total (one two : Stamp) : one.Before two ∨ two.Before one := by
  unfold Before
  omega

theorem before_trans {one two three : Stamp} (first : one.Before two) (second : two.Before three) :
    one.Before three := by
  unfold Before at *
  omega

theorem before_antisymm {one two : Stamp} (first : one.Before two) (second : two.Before one) : one = two := by
  cases one
  cases two
  simp only [Before, mk.injEq] at *
  omega

/-- Created earlier, or at the same time with a lower id. -/
def Older (one two : Stamp) : Prop :=
  one.createdAt < two.createdAt ∨ one.createdAt = two.createdAt ∧ one.id < two.id

instance (one two : Stamp) : Decidable (one.Older two) := inferInstanceAs (Decidable (_ ∨ _))

theorem Older.asymm {one two : Stamp} (older : one.Older two) : ¬two.Older one := by
  unfold Older at *
  omega

theorem Before.older {one two : Stamp} (before : one.Before two) (differ : one.id ≠ two.id) : one.Older two := by
  unfold Before at before
  unfold Older
  omega

end Stamp

variable (stamp : α → Stamp)

/-- `sort({ createdAt: 1, _id: 1 })`. -/
def olderFirst (documents : List α) : List α :=
  documents.insertionSort fun one two => (stamp one).Before (stamp two)

/-- `sort({ createdAt: -1, _id: -1 })`. -/
def newerFirst (documents : List α) : List α :=
  documents.insertionSort fun one two => (stamp two).Before (stamp one)

theorem olderFirst_perm (documents : List α) : (olderFirst stamp documents).Perm documents :=
  List.perm_insertionSort _ _

theorem newerFirst_perm (documents : List α) : (newerFirst stamp documents).Perm documents :=
  List.perm_insertionSort _ _

theorem olderFirst_pairwise (documents : List α) :
    (olderFirst stamp documents).Pairwise fun one two => (stamp one).Before (stamp two) := by
  have total : Std.Total fun one two : α => (stamp one).Before (stamp two) := ⟨fun _ _ => Stamp.before_total _ _⟩
  have trans : IsTrans α fun one two => (stamp one).Before (stamp two) := ⟨fun _ _ _ => Stamp.before_trans⟩
  exact List.pairwise_insertionSort _ _

theorem newerFirst_pairwise (documents : List α) :
    (newerFirst stamp documents).Pairwise fun one two => (stamp two).Before (stamp one) := by
  have total : Std.Total fun one two : α => (stamp two).Before (stamp one) := ⟨fun _ _ => Stamp.before_total _ _⟩
  have trans : IsTrans α fun one two => (stamp two).Before (stamp one) :=
    ⟨fun _ _ _ first second => Stamp.before_trans second first⟩
  exact List.pairwise_insertionSort _ _

variable {stamp}

/-- A listing depends on the documents alone, where their stamps differ. -/
theorem newerFirst_congr {documents others : List α} (same : documents.Perm others)
    (distinct : ∀ one ∈ documents, ∀ two ∈ documents, stamp one = stamp two → one = two) :
    newerFirst stamp documents = newerFirst stamp others := by
  have perm : (newerFirst stamp documents).Perm (newerFirst stamp others) :=
    (newerFirst_perm stamp documents).trans (same.trans (newerFirst_perm stamp others).symm)
  refine perm.eq_of_pairwise (fun one two here there before after => ?_) (newerFirst_pairwise stamp documents)
    (newerFirst_pairwise stamp others)
  have one_mem := (newerFirst_perm stamp documents).mem_iff.mp here
  have two_mem := same.mem_iff.mpr ((newerFirst_perm stamp others).mem_iff.mp there)
  exact distinct one one_mem two two_mem (Stamp.before_antisymm after before)

/-! ### Pages -/

/-- `skip((page - 1) * take).limit(take)`. -/
def pageOf (take page : Nat) (documents : List α) : List α := (documents.drop ((page - 1) * take)).take take

/-- The first pages, one after the other. -/
theorem pages_eq_take (take : Nat) (documents : List α) (count : Nat) :
    (List.range count).flatMap (fun page => pageOf take (page + 1) documents) = documents.take (count * take) := by
  induction count with
  | zero => simp
  | succ count ih =>
      rw [List.range_succ, List.flatMap_append, ih, List.flatMap_singleton, pageOf, Nat.add_sub_cancel, ← List.take_add,
        Nat.succ_mul]

theorem pageOf_eq_nil {take page : Nat} {documents : List α} (beyond : documents.length ≤ (page - 1) * take) :
    pageOf take page documents = [] := by
  rw [pageOf, List.drop_eq_nil_of_le beyond, List.take_nil]

/-! ### Ends

A listing that is cut behind its first `keep` documents leaves over those that have `keep` documents before them. Stated
so, the end of a listing is a fact about the collection alone: the number of older or newer documents decides. -/

/-- In a strictly sorted list the elements behind the first `keep` are those that have so many before them. -/
theorem mem_drop_iff {before : α → α → Prop} [DecidableRel before]
    (asymm : ∀ one two, before one two → ¬before two one) {listing : List α} (sorted : listing.Pairwise before)
    {keep : Nat} {document : α} :
    document ∈ listing.drop keep ↔
      document ∈ listing ∧ keep ≤ listing.countP fun other => decide (before other document) := by
  induction listing generalizing keep with
  | nil => simp
  | cons first rest ih =>
      rcases List.pairwise_cons.mp sorted with ⟨leads, sorted⟩
      have itself : ¬before first first := fun loop => asymm first first loop loop
      cases keep with
      | zero => simp
      | succ keep =>
          rw [List.drop_succ_cons, ih sorted, List.mem_cons, List.countP_cons]
          constructor
          · rintro ⟨mem, enough⟩
            have one : before first document := leads document mem
            simp only [one, decide_true, if_true]
            exact ⟨.inr mem, Nat.succ_le_succ enough⟩
          · rintro ⟨mem, enough⟩
            rcases mem with rfl | mem
            · have none_before : rest.countP (fun other => decide (before other document)) = 0 := by
                rw [List.countP_eq_zero]
                intro other inside
                simpa using asymm document other (leads other inside)
              simp [none_before, itself] at enough
            · have one : before first document := leads document mem
              simp only [one, decide_true, if_true] at enough
              exact ⟨mem, Nat.le_of_succ_le_succ enough⟩

variable (stamp) in
/-- The ids of documents, sorted: every document comes before those that `before` puts behind it. -/
def ListsIds (before : Stamp → Stamp → Prop) (documents : List α) (ids : List Nat) : Prop :=
  ∃ listing : List α, listing.Perm documents ∧ (listing.Pairwise fun one two => before (stamp one) (stamp two)) ∧
    ids = listing.map fun document => (stamp document).id

variable {documents : List α}

theorem olderFirst_listsIds (distinct : (documents.map fun document => (stamp document).id).Nodup) :
    ListsIds stamp Stamp.Older documents ((olderFirst stamp documents).map fun document => (stamp document).id) := by
  have apart : (olderFirst stamp documents).Pairwise fun one two => (stamp one).id ≠ (stamp two).id :=
    List.pairwise_map.mp (((olderFirst_perm stamp documents).map _).nodup_iff.mpr distinct)
  have sorted := (olderFirst_pairwise stamp documents).imp₂ (fun _ _ before differ => before.older differ) apart
  exact ⟨_, olderFirst_perm stamp documents, sorted, rfl⟩

theorem newerFirst_listsIds (distinct : (documents.map fun document => (stamp document).id).Nodup) :
    ListsIds stamp (fun one two => two.Older one) documents
      ((newerFirst stamp documents).map fun document => (stamp document).id) := by
  have apart : (newerFirst stamp documents).Pairwise fun one two => (stamp one).id ≠ (stamp two).id :=
    List.pairwise_map.mp (((newerFirst_perm stamp documents).map _).nodup_iff.mpr distinct)
  have sorted := (newerFirst_pairwise stamp documents).imp₂ (fun _ _ before differ => before.older differ.symm) apart
  exact ⟨_, newerFirst_perm stamp documents, sorted, rfl⟩

namespace ListsIds

variable {before : Stamp → Stamp → Prop} {ids : List Nat}

theorem length_eq (lists : ListsIds stamp before documents ids) : ids.length = documents.length := by
  obtain ⟨listing, perm, _, rfl⟩ := lists
  rw [List.length_map, perm.length_eq]

/-- The ids that are left over belong to the documents with `keep` documents before them. -/
theorem mem_drop [DecidableRel before] (asymm : ∀ one two, before one two → ¬before two one)
    (lists : ListsIds stamp before documents ids) {keep id : Nat} :
    id ∈ ids.drop keep ↔ ∃ document ∈ documents, (stamp document).id = id ∧
      keep ≤ documents.countP fun other => decide (before (stamp other) (stamp document)) := by
  obtain ⟨listing, perm, sorted, rfl⟩ := lists
  rw [← List.map_drop, List.mem_map]
  constructor
  · rintro ⟨document, mem, rfl⟩
    rw [mem_drop_iff (fun _ _ => asymm _ _) sorted, perm.mem_iff, perm.countP_eq] at mem
    exact ⟨document, mem.1, rfl, mem.2⟩
  · rintro ⟨document, mem, rfl, enough⟩
    refine ⟨document, ?_, rfl⟩
    rw [mem_drop_iff (fun _ _ => asymm _ _) sorted, perm.mem_iff, perm.countP_eq]
    exact ⟨mem, enough⟩

end ListsIds

/-- Of the documents that match, those whose id does not stand behind the first `keep` of a listing are `keep` at
most. -/
theorem countDocuments_kept {documents listing : List α} {filter : α → Bool} (id : α → Nat) (keep : Nat)
    (lists : listing.Perm (documents.filter filter)) :
    (countDocuments documents fun document =>
      filter document && !((listing.drop keep).map id).contains (id document)) ≤ keep := by
  have split : (documents.countP fun document =>
      filter document && !((listing.drop keep).map id).contains (id document)) =
        listing.countP fun document => !((listing.drop keep).map id).contains (id document) := by
    rw [lists.countP_eq, List.countP_filter]
    simp only [Bool.and_comm]
  have behind : (listing.drop keep).countP
      (fun document => !((listing.drop keep).map id).contains (id document)) = 0 := by
    rw [List.countP_eq_zero]
    intro document mem
    have there := List.mem_map_of_mem (f := id) mem
    simpa using there
  calc
    _ = (listing.take keep ++ listing.drop keep).countP
          fun document => !((listing.drop keep).map id).contains (id document) := by
        rw [List.take_append_drop]
        exact split
    _ ≤ (listing.take keep).length := by
        rw [List.countP_append, behind]
        exact List.countP_le_length
    _ ≤ keep := List.length_take_le _ _

end DataVault.Store
