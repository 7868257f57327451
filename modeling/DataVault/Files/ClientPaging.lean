/-
Module: DataVault.Files.ClientPaging
Layer: Proof
Purpose: The loop of frontend/lib/api.js that collects all pages of a listing, against `findAll`. It stops at the first
  page that shows nothing, which need not be the last one: pages whose rows are all hidden can stand before pages that
  show files.
Imports: DataVault.Files.Visibility
Trusted boundary: human-reviewed spec
Main exports: collectionLoop, collection, allFiles, HiddenPage, client_paging_misses, client_paging
-/
import DataVault.Files.Visibility

namespace DataVault.Files

open DataVault.Control DataVault.Guard DataVault.Store DataVault.Users

/-! ### The client -/

/-- The loop of `collection`, for at most `fuel` requests. -/
def collectionLoop (request : Nat → FilePage) : Nat → Nat → List FileMetadata → Option (List FileMetadata)
  | 0, _, _ => none
  | fuel + 1, page, items =>
      let result := request page
      let items := items ++ result.files
      if items.length < result.total && !result.files.isEmpty then collectionLoop request fuel (page + 1) items
      else some items

/-- `collection('/files', 'files')`, with `findAll` as the answer to its requests. -/
def collection (store : FileStore) (actor : AuthenticatedUser) (fuel : Nat) : Option (List FileMetadata) :=
  collectionLoop (fun page => store.findAll actor page 30) fuel 1 []

/-- `ceil(total / 30)` -/
def pageCount (store : FileStore) (actor : AuthenticatedUser) : Nat := ((store.findAll actor 1 30).total + 29) / 30

/-- The first pages of `findAll`, one after the other. -/
def firstPages (store : FileStore) (actor : AuthenticatedUser) (count : Nat) : List FileMetadata :=
  (List.range count).flatMap fun page => (store.findAll actor (page + 1) 30).files

def allFiles (store : FileStore) (actor : AuthenticatedUser) : List FileMetadata :=
  firstPages store actor (pageCount store actor)

/-- Every row of a page is a copy whose source the actor cannot see. -/
def HiddenPage (store : FileStore) (actor : AuthenticatedUser) (page : Nat) : Prop :=
  ∀ file ∈ pageOf 30 page (store.listing actor), store.assertLineage actor file ≠ .ok ()

variable {store : FileStore} {actor : AuthenticatedUser} {page count fuel : Nat}

/-! ### Pages -/

theorem firstPages_succ :
    firstPages store actor (count + 1) = firstPages store actor count ++ (store.findAll actor (count + 1) 30).files := by
  rw [firstPages, List.range_succ, List.flatMap_append, List.flatMap_singleton]
  rfl

theorem findAll_total : (store.findAll actor page 30).total = (store.listing actor).length := by
  rw [FileStore.listing, (newerFirst_perm _ _).length_eq, ← List.countP_eq_length_filter]
  rfl

theorem files_eq_nil_iff : (store.findAll actor page 30).files = [] ↔ HiddenPage store actor page := by
  rw [FileStore.findAll_files, List.map_eq_nil_iff, FileStore.shown, List.filter_eq_nil_iff]
  apply forall₂_congr
  intro file mem
  cases store.assertLineage actor file <;> simp [Except.isOk, Except.toBool]

/-- Behind the last page there is nothing. -/
theorem files_beyond (beyond : pageCount store actor ≤ count) : (store.findAll actor (count + 1) 30).files = [] := by
  rw [pageCount, findAll_total] at beyond
  have nothing : pageOf 30 (count + 1) (store.listing actor) = [] := pageOf_eq_nil (by omega)
  rw [files_eq_nil_iff, HiddenPage, nothing]
  intro file mem
  cases mem

theorem firstPages_initial {more : Nat} (le : count ≤ more) :
    firstPages store actor count <+: firstPages store actor more := by
  induction le with
  | refl => exact List.prefix_refl _
  | step _ ih =>
      rw [Nat.succ_eq_add_one, firstPages_succ]
      exact ih.trans (List.prefix_append _ _)

/-- What is shown is at most what is counted. -/
theorem allFiles_length_le : (allFiles store actor).length ≤ (store.listing actor).length := by
  rw [allFiles, firstPages, FileStore.findAll_pages, List.length_map, FileStore.shown]
  exact (List.length_filter_le _ _).trans (List.length_take_le' _ _)

/-! ### The loop -/

theorem collectionLoop_mono {request : Nat → FilePage} {more : Nat} {items result : List FileMetadata}
    (le : fuel ≤ more) (returned : collectionLoop request fuel page items = some result) :
    collectionLoop request more page items = some result := by
  induction fuel generalizing more page items with
  | zero => cases returned
  | succ fuel ih =>
      obtain ⟨more, rfl⟩ : ∃ rest, more = rest + 1 := ⟨more - 1, by omega⟩
      unfold collectionLoop at returned ⊢
      dsimp only at returned ⊢
      split at returned
      · rename_i continues
        rw [if_pos continues]
        exact ih (by omega) returned
      · rename_i stops
        rw [if_neg stops]
        exact returned

/-- Where the loop stops: at a page that shows nothing or completes the total, and no page before it shows nothing. -/
theorem collectionLoop_stops :
    ∀ {fuel count : Nat}, count ≤ pageCount store actor → pageCount store actor < fuel + count →
      ∃ last, count ≤ last ∧ last ≤ pageCount store actor ∧
        collectionLoop (fun page => store.findAll actor page 30) fuel (count + 1) (firstPages store actor count) =
          some (firstPages store actor (last + 1)) ∧
        ((store.listing actor).length ≤ (firstPages store actor (last + 1)).length ∨ HiddenPage store actor (last + 1)) ∧
        ∀ before, count ≤ before → before < last → ¬HiddenPage store actor (before + 1)
  | 0, count, le, enough => absurd enough (by omega)
  | fuel + 1, count, le, enough => by
      unfold collectionLoop
      simp only [← firstPages_succ]
      split
      · rename_i continues
        simp only [Bool.and_eq_true, decide_eq_true_eq, Bool.not_eq_true', List.isEmpty_eq_false_iff] at continues
        have shows := continues.2
        have inside : count < pageCount store actor := by
          by_contra outside
          exact shows (files_beyond (Nat.not_lt.mp outside))
        have rest : pageCount store actor < fuel + (count + 1) := by omega
        obtain ⟨last, after, within, returns, stops, open_⟩ := collectionLoop_stops inside rest
        refine ⟨last, by omega, within, returns, stops, fun before from_ to_ => ?_⟩
        rcases Nat.eq_or_lt_of_le from_ with rfl | later
        · exact fun hidden => shows (files_eq_nil_iff.mpr hidden)
        · exact open_ before later to_
      · rename_i stops
        refine ⟨count, Nat.le_refl _, le, rfl, ?_, fun before from_ to_ => absurd from_ (by omega)⟩
        simp only [Bool.and_eq_true, decide_eq_true_eq, Bool.not_eq_true', List.isEmpty_eq_false_iff, not_and_or,
          Nat.not_lt, not_not, findAll_total] at stops
        rw [files_eq_nil_iff] at stops
        exact stops

/-! ### The client and the server -/

/-- No page that shows nothing stands before one that shows something. A page can show nothing although files follow,
since copies are filtered out after the page was cut. -/
def HiddenLast (store : FileStore) (actor : AuthenticatedUser) : Prop :=
  ∀ earlier later, earlier < later → later < pageCount store actor → HiddenPage store actor (earlier + 1) →
    HiddenPage store actor (later + 1)

/-- Pages that show nothing add nothing. -/
theorem firstPages_of_hidden {more : Nat} (le : count ≤ more)
    (hidden : ∀ page, count ≤ page → page < more → HiddenPage store actor (page + 1)) :
    firstPages store actor more = firstPages store actor count := by
  induction le with
  | refl => rfl
  | @step more le ih =>
      rw [Nat.succ_eq_add_one, firstPages_succ, files_eq_nil_iff.mpr (hidden more le (Nat.lt_succ_self more)),
        List.append_nil]
      exact ih fun page from_ to_ => hidden page from_ (Nat.lt_succ_of_lt to_)

theorem collected_all (last : Nat) (hiddenLast : HiddenLast store actor)
    (stops : (store.listing actor).length ≤ (firstPages store actor (last + 1)).length ∨
      HiddenPage store actor (last + 1)) (within : last ≤ pageCount store actor) :
    firstPages store actor (last + 1) = allFiles store actor := by
  rcases Nat.eq_or_lt_of_le within with rfl | inside
  · rw [firstPages_succ, files_beyond (Nat.le_refl _), List.append_nil]
    rfl
  · have small : firstPages store actor (last + 1) <+: allFiles store actor := firstPages_initial inside
    rcases stops with complete | hidden
    · exact small.eq_of_length_le (allFiles_length_le.trans complete)
    · refine (firstPages_of_hidden inside fun page from_ to_ => ?_).symm
      exact hiddenLast last page from_ to_ hidden

/-- Whatever the state of the server, the loop ends, with the same files for every larger number of requests allowed;
and it has collected all of them exactly where no page that shows nothing stands before one that shows something. -/
theorem client_paging (store : FileStore) (actor : AuthenticatedUser) :
    ∃ items, (∀ fuel, pageCount store actor < fuel → collection store actor fuel = some items) ∧
      (items = allFiles store actor ↔ HiddenLast store actor) := by
  have enough : pageCount store actor < pageCount store actor + 1 + 0 := Nat.lt_succ_self _
  obtain ⟨last, _, within, returns, stops, open_⟩ := collectionLoop_stops (Nat.zero_le _) enough
  refine ⟨firstPages store actor (last + 1), fun fuel enough => collectionLoop_mono enough returns,
    fun all earlier later order inside hidden => ?_, fun hiddenLast => collected_all last hiddenLast stops within⟩
  by_contra shows
  -- the loop did not get past the hidden page, so the later page is missing
  have stopped : last ≤ earlier := by
    by_contra passed
    exact open_ earlier (Nat.zero_le _) (Nat.not_le.mp passed) hidden
  have missing : (firstPages store actor (last + 1)).length < (firstPages store actor (later + 1)).length := by
    have shorter : (firstPages store actor (last + 1)).length ≤ (firstPages store actor later).length :=
      (firstPages_initial (by omega)).length_le
    have more := List.length_pos_iff.mpr fun nothing => shows (files_eq_nil_iff.mp nothing)
    have grows : (firstPages store actor (later + 1)).length =
        (firstPages store actor later).length + (store.findAll actor (later + 1) 30).files.length := by
      rw [firstPages_succ, List.length_append]
    omega
  have rest : (firstPages store actor (later + 1)).length ≤ (allFiles store actor).length :=
    (firstPages_initial inside).length_le
  rw [all] at missing
  omega

/-! A company with one file, and thirty newer copies of a file that has been deleted. -/

def copyOfDeleted (id : Nat) : StoredFile where
  id := id
  companyId := 1
  uploaderId := 2
  storageKey := .guardCopy 1 id
  fileType := .xlsx
  size := 10
  visibility := some .restricted
  restrictedUserIds := [2]
  derivation := some ⟨1, id⟩
  originalFilename := "sanitized.xlsx"
  mimeType := ""
  createdAt := id
  updatedAt := id

def hiddenStore : FileStore where
  rows :=
    { id := 2, companyId := 1, uploaderId := 2, storageKey := .upload 1 2, fileType := .csv, size := 3
      originalFilename := "data.csv", mimeType := "text/csv", createdAt := 0, updatedAt := 0 } ::
      (List.range 30).map fun number => copyOfDeleted (number + 3)
  distinct := by decide +kernel

/-- The owner's client stops at the first page and shows nothing. -/
theorem client_paging_misses :
    (∀ fuel, 2 < fuel → collection hiddenStore ⟨2, 1, .companyOwner⟩ fuel = some []) ∧
      (allFiles hiddenStore ⟨2, 1, .companyOwner⟩).map (·.originalFilename) = ["data.csv"] := by
  have first : collection hiddenStore ⟨2, 1, .companyOwner⟩ 1 = some [] := by decide +kernel
  refine ⟨fun fuel enough => collectionLoop_mono (by omega) first, ?_⟩
  decide +kernel

end DataVault.Files
