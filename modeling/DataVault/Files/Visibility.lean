/-
Module: DataVault.Files.Visibility
Layer: Proof
Purpose: Who sees which file. One notion of visibility stands behind the pages of `findAll`, `findOne` and the lookup of
  `download`, and it depends on the files of the actor's company alone.
Imports: DataVault.Files.Access
Trusted boundary: none
Main exports: Visible, findOne_ok_iff, mem_findAll_iff, Visible.congr, file_visibility
-/
import DataVault.Files.Access

namespace DataVault.Files

open DataVault.Control DataVault.Guard DataVault.Store DataVault.Users

variable {store other : FileStore} {actor : AuthenticatedUser} {file source : StoredFile} {fileId take : Nat}

/-! ### Visibility -/

/-- The original that a copy was made from, where the actor can see it. -/
structure VisibleSource (store : FileStore) (actor : AuthenticatedUser) (derivation : FileDerivation)
    (source : StoredFile) : Prop where
  stored : source ∈ store.rows
  named : source.id = derivation.sourceFileId
  accessible : accessible actor source = true
  original : source.derivation = none

/-- A file that the actor can see: it passes the filter, and so does the original it was made from. -/
structure Visible (store : FileStore) (actor : AuthenticatedUser) (file : StoredFile) : Prop where
  stored : file ∈ store.rows
  accessible : accessible actor file = true
  lineage : ∀ derivation, file.derivation = some derivation → ∃ source, VisibleSource store actor derivation source

/-- An original that the actor can see is visible. -/
theorem VisibleSource.visible {derivation : FileDerivation} (shown : VisibleSource store actor derivation source) :
    Visible store actor source where
  stored := shown.stored
  accessible := shown.accessible
  lineage derivation derived := by
    rw [shown.original] at derived
    cases derived

/-! ### Lookups -/

namespace FileStore

theorem unique (here : file ∈ store.rows) (there : source ∈ store.rows) (same : file.id = source.id) : file = source :=
  List.inj_on_of_nodup_map store.distinct here there same

/-- A lookup by id. -/
theorem find_eq_some_iff {condition : StoredFile → Bool} :
    (store.rows.find? fun file => file.id = fileId && condition file) = some file ↔
      file ∈ store.rows ∧ file.id = fileId ∧ condition file = true := by
  constructor
  · intro found
    have holds := List.find?_some found
    simp only [Bool.and_eq_true, decide_eq_true_eq] at holds
    exact ⟨List.mem_of_find?_eq_some found, holds⟩
  · rintro ⟨stored, named, holds⟩
    cases found : store.rows.find? fun file => file.id = fileId && condition file with
    | none =>
        have absent := List.find?_eq_none.mp found file stored
        simp [named, holds] at absent
    | some first =>
        have matched := List.find?_some found
        simp only [Bool.and_eq_true, decide_eq_true_eq] at matched
        rw [unique (List.mem_of_find?_eq_some found) stored (matched.1.trans named.symm)]

theorem sourceOf_eq_some_iff {derivation : FileDerivation} :
    store.sourceOf actor derivation = some source ↔ VisibleSource store actor derivation source := by
  rw [sourceOf, find_eq_some_iff]
  simp only [Bool.and_eq_true, decide_eq_true_eq]
  constructor
  · rintro ⟨stored, named, accessible, original⟩
    exact ⟨stored, named, accessible, original⟩
  · intro shown
    exact ⟨shown.stored, shown.named, shown.accessible, shown.original⟩

theorem assertLineage_ok_iff :
    store.assertLineage actor file = .ok () ↔
      ∀ derivation, file.derivation = some derivation → ∃ source, VisibleSource store actor derivation source := by
  unfold assertLineage
  cases file.derivation with
  | none =>
      simp only [reduceCtorEq, false_implies, implies_true, iff_true]
      rfl
  | some derivation =>
      simp only [bind_ok_iff, orFail_ok_iff, sourceOf_eq_some_iff, Option.some.injEq, forall_eq']
      constructor
      · rintro ⟨source, shown, _⟩
        exact ⟨source, shown⟩
      · rintro ⟨source, shown⟩
        exact ⟨source, shown, rfl⟩

theorem findStoredFile_ok_iff :
    store.findStoredFile actor fileId true = .ok file ↔ Visible store actor file ∧ file.id = fileId := by
  unfold findStoredFile
  simp only [bind_ok_iff, orFail_ok_iff, find_eq_some_iff, if_true]
  constructor
  · rintro ⟨file, ⟨stored, named, accessible⟩, _, lineage, done⟩
    cases done
    exact ⟨⟨stored, accessible, assertLineage_ok_iff.mp lineage⟩, named⟩
  · rintro ⟨visible, named⟩
    exact ⟨file, ⟨visible.stored, named, visible.accessible⟩, (), assertLineage_ok_iff.mpr visible.lineage, rfl⟩

theorem findOne_ok_iff {metadata : FileMetadata} :
    store.findOne actor fileId = .ok metadata ↔
      ∃ file, Visible store actor file ∧ file.id = fileId ∧ metadata = publicMetadata file := by
  unfold findOne
  simp only [bind_ok_iff, orFail_ok_iff, find_eq_some_iff]
  constructor
  · rintro ⟨file, ⟨stored, named, accessible⟩, _, lineage, done⟩
    cases done
    exact ⟨file, ⟨stored, accessible, assertLineage_ok_iff.mp lineage⟩, named, rfl⟩
  · rintro ⟨file, visible, named, rfl⟩
    exact ⟨file, ⟨visible.stored, named, visible.accessible⟩, (), assertLineage_ok_iff.mpr visible.lineage, rfl⟩

/-! ### Listings -/

theorem mem_listing : file ∈ store.listing actor ↔ file ∈ store.rows ∧ accessible actor file = true := by
  rw [listing, (newerFirst_perm _ _).mem_iff, List.mem_filter]

theorem listing_ids_nodup : ((store.listing actor).map (·.id)).Nodup := by
  have perm := (newerFirst_perm StoredFile.stamp (store.rows.filter (accessible actor))).map (·.id)
  rw [listing, perm.nodup_iff]
  exact store.distinct.sublist (List.filter_sublist.map _)

/-- The rows of a page that `findAll` shows. -/
def shown (store : FileStore) (actor : AuthenticatedUser) (files : List StoredFile) : List StoredFile :=
  files.filter fun file => (store.assertLineage actor file).isOk

theorem mem_shown {files : List StoredFile} (listed : ∀ file ∈ files, file ∈ store.listing actor) :
    file ∈ store.shown actor files ↔ file ∈ files ∧ Visible store actor file := by
  have passes : (store.assertLineage actor file).isOk = true ↔ store.assertLineage actor file = .ok () := by
    cases store.assertLineage actor file <;> simp [Except.isOk, Except.toBool]
  rw [shown, List.mem_filter, passes, assertLineage_ok_iff]
  constructor
  · rintro ⟨mem, lineage⟩
    obtain ⟨stored, accessible⟩ := mem_listing.mp (listed file mem)
    exact ⟨mem, stored, accessible, lineage⟩
  · rintro ⟨mem, visible⟩
    exact ⟨mem, visible.lineage⟩

theorem findAll_files {page : Nat} :
    (store.findAll actor page take).files =
      (store.shown actor (pageOf (min take 30) page (store.listing actor))).map publicMetadata := rfl

/-- The first pages of `findAll`, one after the other. -/
theorem findAll_pages (count : Nat) :
    (List.range count).flatMap (fun page => (store.findAll actor (page + 1) take).files) =
      (store.shown actor ((store.listing actor).take (count * min take 30))).map publicMetadata := by
  rw [← pages_eq_take, shown, List.filter_flatMap, List.map_flatMap]
  rfl

/-- Every row of the listing is on one of its first pages. -/
theorem take_pages (positive : 1 ≤ take) :
    (store.listing actor).take ((store.listing actor).length * min take 30) = store.listing actor :=
  List.take_of_length_le (Nat.le_mul_of_pos_right _ (by omega))

theorem mem_findAll_iff (positive : 1 ≤ take) {metadata : FileMetadata} :
    (∃ page, 1 ≤ page ∧ metadata ∈ (store.findAll actor page take).files) ↔
      ∃ file, Visible store actor file ∧ metadata = publicMetadata file := by
  constructor
  · rintro ⟨page, _, mem⟩
    rw [findAll_files] at mem
    obtain ⟨file, there, rfl⟩ := List.mem_map.mp mem
    have listed : ∀ file ∈ pageOf (min take 30) page (store.listing actor), file ∈ store.listing actor :=
      fun file mem => List.mem_of_mem_drop (List.mem_of_mem_take mem)
    exact ⟨file, ((mem_shown listed).mp there).2, rfl⟩
  · rintro ⟨file, visible, rfl⟩
    have listed : file ∈ store.shown actor (store.listing actor) :=
      (mem_shown fun _ mem => mem).mpr ⟨mem_listing.mpr ⟨visible.stored, visible.accessible⟩, visible⟩
    have mem := List.mem_map_of_mem (f := publicMetadata) listed
    rw [← take_pages positive, ← findAll_pages, List.mem_flatMap] at mem
    obtain ⟨page, _, mem⟩ := mem
    exact ⟨page + 1, Nat.succ_pos page, mem⟩

theorem findAll_nodup (count : Nat) :
    ((List.range count).flatMap fun page => (store.findAll actor (page + 1) take).files.map (·.id)).Nodup := by
  rw [← List.map_flatMap, findAll_pages, List.map_map]
  have ids : (fun metadata : FileMetadata => metadata.id) ∘ publicMetadata = fun file => file.id := rfl
  have whole : ((store.listing actor).map (·.id)).Nodup := listing_ids_nodup
  rw [ids]
  exact whole.sublist ((List.filter_sublist.trans (List.take_sublist _ _)).map _)

/-! ### Isolation -/

/-- Two stores with the same files of one company. -/
def Agree (companyId : Nat) (store other : FileStore) : Prop :=
  ∀ file, file.companyId = companyId → (file ∈ store.rows ↔ file ∈ other.rows)

theorem company_of_accessible (accessible : accessible actor file = true) : file.companyId = actor.companyId := by
  simp only [Files.accessible, accessFilter, Bool.and_eq_true, decide_eq_true_eq] at accessible
  exact accessible.1

section Isolation

variable (agree : Agree actor.companyId store other)
include agree

theorem find_congr {condition : StoredFile → Bool}
    (needs : ∀ file, condition file = true → accessible actor file = true) :
    (store.rows.find? fun file => file.id = fileId && condition file) =
      other.rows.find? fun file => file.id = fileId && condition file := by
  apply Option.ext
  intro file
  rw [find_eq_some_iff, find_eq_some_iff]
  constructor
  · rintro ⟨stored, named, holds⟩
    exact ⟨(agree file (company_of_accessible (needs file holds))).mp stored, named, holds⟩
  · rintro ⟨stored, named, holds⟩
    exact ⟨(agree file (company_of_accessible (needs file holds))).mpr stored, named, holds⟩

theorem assertLineage_congr : store.assertLineage actor file = other.assertLineage actor file := by
  have sources : ∀ derivation, store.sourceOf actor derivation = other.sourceOf actor derivation := by
    intro derivation
    apply find_congr agree
    intro source holds
    simp only [Bool.and_eq_true] at holds
    exact holds.1
  unfold assertLineage
  simp only [sources]

theorem findStoredFile_congr {lineage : Bool} :
    store.findStoredFile actor fileId lineage = other.findStoredFile actor fileId lineage := by
  unfold findStoredFile
  simp only [find_congr agree fun _ holds => holds, assertLineage_congr agree]

theorem findOne_congr : store.findOne actor fileId = other.findOne actor fileId := by
  unfold findOne
  simp only [find_congr agree fun _ holds => holds, assertLineage_congr agree]

theorem matching_perm : (store.rows.filter (accessible actor)).Perm (other.rows.filter (accessible actor)) := by
  have nodup : ∀ store : FileStore, (store.rows.filter (accessible actor)).Nodup :=
    fun store => (List.Nodup.of_map _ store.distinct).filter _
  rw [List.perm_ext_iff_of_nodup (nodup store) (nodup other)]
  intro file
  simp only [List.mem_filter]
  constructor
  · rintro ⟨stored, holds⟩
    exact ⟨(agree file (company_of_accessible holds)).mp stored, holds⟩
  · rintro ⟨stored, holds⟩
    exact ⟨(agree file (company_of_accessible holds)).mpr stored, holds⟩

theorem findAll_congr {page : Nat} : store.findAll actor page take = other.findAll actor page take := by
  have listings : store.listing actor = other.listing actor := by
    refine newerFirst_congr (matching_perm agree) fun one here two there same => ?_
    exact unique (List.mem_of_mem_filter here) (List.mem_of_mem_filter there) (congrArg Stamp.id same)
  have totals : countDocuments store.rows (accessible actor) = countDocuments other.rows (accessible actor) := by
    simp only [countDocuments, List.countP_eq_length_filter]
    exact (matching_perm agree).length_eq
  unfold findAll
  simp only [listings, totals, assertLineage_congr agree]

end Isolation

end FileStore

/-- All pages of `findAll` together, `findOne` and the lookup of `download` agree on what an actor sees, without a
repetition; a copy is seen only beside an original that is seen as well; and files of other companies change nothing. -/
theorem file_visibility (store : FileStore) (actor : AuthenticatedUser) (take : Nat) (positive : 1 ≤ take) :
    (∀ metadata, (∃ page, 1 ≤ page ∧ metadata ∈ (store.findAll actor page take).files) ↔
      store.findOne actor metadata.id = .ok metadata) ∧
    (∀ fileId, (∃ metadata, store.findOne actor fileId = .ok metadata) ↔
      ∃ file, store.findStoredFile actor fileId true = .ok file) ∧
    (∀ count, ((List.range count).flatMap fun page =>
      (store.findAll actor (page + 1) take).files.map (·.id)).Nodup) ∧
    (∀ fileId metadata derivation, store.findOne actor fileId = .ok metadata →
      metadata.derivation = some derivation → ∃ source ∈ store.rows, source.id = derivation.sourceFileId ∧
        source.derivation = none ∧ store.findOne actor source.id = .ok (publicMetadata source)) ∧
    (∀ other : FileStore, FileStore.Agree actor.companyId store other →
      (∀ page, store.findAll actor page take = other.findAll actor page take) ∧
      (∀ fileId, store.findOne actor fileId = other.findOne actor fileId) ∧
      ∀ (Content : Type) (getObject : StorageKey → Except FileFailure Content) fileId,
        store.download actor getObject fileId = other.download actor getObject fileId) := by
  refine ⟨fun metadata => ?_, fun fileId => ?_, FileStore.findAll_nodup, fun fileId metadata derivation found derived => ?_,
    fun other agree => ⟨fun _ => FileStore.findAll_congr agree, fun _ => FileStore.findOne_congr agree,
      fun _ _ _ => ?_⟩⟩
  · rw [FileStore.mem_findAll_iff positive, FileStore.findOne_ok_iff]
    constructor
    · rintro ⟨file, visible, rfl⟩
      exact ⟨file, visible, rfl, rfl⟩
    · rintro ⟨file, visible, _, same⟩
      exact ⟨file, visible, same⟩
  · simp only [FileStore.findOne_ok_iff, FileStore.findStoredFile_ok_iff]
    constructor
    · rintro ⟨_, file, visible, named, _⟩
      exact ⟨file, visible, named⟩
    · rintro ⟨file, visible, named⟩
      exact ⟨_, file, visible, named, rfl⟩
  · obtain ⟨file, visible, _, rfl⟩ := FileStore.findOne_ok_iff.mp found
    obtain ⟨origin, origin_of, rfl⟩ := Option.map_eq_some_iff.mp derived
    obtain ⟨source, shown⟩ := visible.lineage origin origin_of
    exact ⟨source, shown.stored, shown.named, shown.original,
      FileStore.findOne_ok_iff.mpr ⟨source, shown.visible, rfl, rfl⟩⟩
  · unfold FileStore.download
    rw [FileStore.findStoredFile_congr agree]

/-! A company with a file and a copy that was made from it. -/

def copiedStore : FileStore where
  rows :=
    [{ id := 1, companyId := 1, uploaderId := 2, storageKey := .upload 1 1, fileType := .xlsx, size := 10
       originalFilename := "table.xlsx", mimeType := "", createdAt := 0, updatedAt := 0 },
     { id := 2, companyId := 1, uploaderId := 2, storageKey := .guardCopy 1 9, fileType := .xlsx, size := 10
       visibility := some .restricted, restrictedUserIds := [2], derivation := some ⟨1, 9⟩
       originalFilename := "sanitized-9.xlsx", mimeType := "", createdAt := 5, updatedAt := 5 }]
  distinct := by decide

/-- Its uploader sees both, one on each page. -/
theorem file_visibility_copy :
    ((copiedStore.findAll ⟨2, 1, .companyMember⟩ 1 1).files.map (·.id) = [2]) ∧
      ∃ metadata, copiedStore.findOne ⟨2, 1, .companyMember⟩ 1 = .ok metadata := by
  have first : (copiedStore.findAll ⟨2, 1, .companyMember⟩ 1 1).files.map (·.id) = [2] := by decide +kernel
  have second : (copiedStore.findAll ⟨2, 1, .companyMember⟩ 2 1).files.map (·.id) = [1] := by decide +kernel
  have mem : 1 ∈ (copiedStore.findAll ⟨2, 1, .companyMember⟩ 2 1).files.map (·.id) := by simp [second]
  obtain ⟨metadata, shown, named⟩ := List.mem_map.mp mem
  have found := ((file_visibility copiedStore ⟨2, 1, .companyMember⟩ 1 (by decide)).1 metadata).mp
    ⟨2, by decide, shown⟩
  rw [named] at found
  exact ⟨first, metadata, found⟩

end DataVault.Files
