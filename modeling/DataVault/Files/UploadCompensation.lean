/-
Module: DataVault.Files.UploadCompensation
Layer: Proof
Purpose: What an upload leaves in the two stores, however its requests end. The object of a stored row is never
  deleted, a success is a committed row with its usage, and an object without a row is left only where the storage or
  the commit gave no certain answer.
Imports: DataVault.Files.Upload
Trusted boundary: none
Main exports: CommittedUpload, Settled, upload_compensation_lost_put, upload_compensation
-/
import DataVault.Files.Upload

namespace DataVault.Files

open DataVault.Control DataVault.Guard DataVault.Interleaving DataVault.Subscriptions DataVault.Users

variable {enabled : Bool} {start w : UploadWorld} {key : StorageKey} {row : StoredFile}
variable {now : Option Int} {actor : AuthenticatedUser} {α : Type}

/-! ### What is left -/

/-- The database is what the transaction callback made of it: the row and its usage were stored together. -/
structure CommittedUpload (enabled : Bool) (start : FileDb) (row : StoredFile) (db : FileDb) : Prop where
  files : db.files = row :: start.files
  usage : ∃ instant, start.counted.recordFileUploads enabled row.companyId 1 instant = .ok db.accounting

/-- Every object was there before, or has a row, or something went wrong. -/
def Settled (start w : UploadWorld) : Prop :=
  ∀ key ∈ w.objects, key ∈ start.objects ∨ (∃ row ∈ w.db.files, row.storageKey = key) ∨ w.troubles ≠ []

theorem CommittedUpload.of_record {db db' : FileDb} {instant : Int}
    (recorded : recordUpload enabled db row instant = .ok db') : CommittedUpload enabled db row db' := by
  obtain ⟨accounting, counted, recorded⟩ := bind_ok_iff.mp recorded
  obtain ⟨_, _, recorded⟩ := bind_ok_iff.mp recorded
  cases recorded
  refine ⟨rfl, instant, ?_⟩
  cases result : db.counted.recordFileUploads enabled row.companyId 1 instant with
  | error failure =>
      rw [result] at counted
      cases counted
  | ok accounting =>
      rw [result] at counted
      cases counted
      rfl

/-- Where the key was free, the only row with it is the committed one. -/
theorem CommittedUpload.unique {other : StoredFile} (committed : CommittedUpload enabled start.db row w.db)
    (free : start.Free key) (mem : other ∈ w.db.files) (keyed : other.storageKey = key) : other = row := by
  rw [committed.files] at mem
  rcases List.mem_cons.mp mem with rfl | before
  · rfl
  · exact absurd keyed (free.files other before)

theorem Settled.of_trouble (troubled : w.troubles ≠ []) : Settled start w := fun _ _ => .inr (.inr troubled)

theorem Settled.of_fewer (fewer : ∀ key ∈ w.objects, key ∈ start.objects) : Settled start w :=
  fun key mem => .inl (fewer key mem)

/-! ### Following the method

The method awaits the storage and the database in turn, and each answer may be lost. After the PUT three states are
told apart: the commit is known to have failed, it is known to have succeeded, or neither; only in the first is the
object deleted. -/

/-- No object of a stored row is deleted, and in the end the stores are settled. -/
def Uploads (enabled : Bool) (start : UploadWorld) (process : UploadHandler α) (Q : α → UploadWorld → Prop)
    (w : UploadWorld) : Prop :=
  process.run.Ensures (UploadEnv enabled)
    (fun w act => ∀ key, act = .deleteObject key → ∀ row ∈ w.db.files, row.storageKey ≠ key)
    (Ends Q fun _ w => Settled start w) w

/-- A successful answer shows the committed row, whose object is stored. -/
def Answers (enabled : Bool) (start : UploadWorld) (metadata : FileMetadata) (w : UploadWorld) : Prop :=
  (∃ row, CommittedUpload enabled start.db row w.db ∧ row.storageKey ∈ w.objects ∧ metadata = publicMetadata row) ∧
    Settled start w

theorem uploads_compensate_known {failure : FileFailure} (known : hasUnknownCommitResult failure = false)
    (free : start.Free key) :
    Uploads enabled start (compensate actor.companyId key failure) (Answers enabled start) (start.put key) := by
  unfold compensate
  rw [known]
  constructor
  · intro other deletes row mem
    cases deletes
    exact free.files row mem
  · intro answer w' leaves
    cases leaves with
    | deleted =>
        apply Settled.of_fewer
        intro other mem
        simp only [UploadWorld.remove, UploadWorld.put, List.mem_filter, List.mem_cons, decide_eq_true_eq] at mem
        exact mem.1.resolve_left mem.2
    | deleteRefused | deleteLost => exact Settled.of_trouble (List.cons_ne_nil _ _)

/-- After an unknown result: the callback took effect with this key, or not at all. -/
def Undecided (enabled : Bool) (start : UploadWorld) (key : StorageKey) (w : UploadWorld) : Prop :=
  w.troubles ≠ [] ∧ key ∈ w.objects ∧
    (w.db = start.db ∨ ∃ row, CommittedUpload enabled start.db row w.db ∧ row.storageKey = key)

theorem uploads_compensate_unknown {failure : FileFailure} (unknown : hasUnknownCommitResult failure = true)
    (free : start.Free key) (undecided : Undecided enabled start key w) :
    Uploads enabled start (compensate actor.companyId key failure) (Answers enabled start) w := by
  obtain ⟨troubled, stored, written⟩ := undecided
  have settled : Settled start w := .of_trouble troubled
  unfold compensate
  rw [unknown]
  constructor
  · intro other deletes
    cases deletes
  · intro answer w' leaves
    cases leaves with
    | unseen | unread => exact settled
    | @confirmed _ _ _ row mem company keyed =>
        refine ⟨?_, settled⟩
        rcases written with same | ⟨committed, written, named⟩
        · rw [same] at mem
          exact absurd keyed (free.files row mem)
        · obtain rfl := written.unique free mem keyed
          exact ⟨row, written, keyed ▸ stored, rfl⟩

/-- The transaction with its handler, once the object is stored. -/
theorem uploads_transaction {created : NewFile} (free : start.Free created.storageKey) :
    Uploads enabled start
      (Process.recover (do
        let metadata ← ExceptT.mk (await (.transaction created now))
        pure (publicMetadata metadata)) (compensate actor.companyId created.storageKey))
      (Answers enabled start) (start.put created.storageKey) := by
  have here : created.storageKey ∈ (start.put created.storageKey).objects := List.mem_cons_self
  refine Process.ensures_recover (E := fun failure w =>
    (hasUnknownCommitResult failure = false ∧ w = start.put created.storageKey) ∨
      (hasUnknownCommitResult failure = true ∧ Undecided enabled start created.storageKey w)) ?_ ?_
  · constructor
    · intro other deletes
      cases deletes
    · intro answer w' leaves
      cases leaves with
      | committed commits =>
          cases commits with
          | stored at_now recorded =>
              refine ⟨⟨_, .of_record recorded, here, rfl⟩, fun key mem => ?_⟩
              rcases List.mem_cons.mp mem with rfl | before
              · exact .inr (.inl ⟨_, (CommittedUpload.of_record recorded).files ▸ List.mem_cons_self, rfl⟩)
              · exact .inl before
      | aborted known => exact .inl ⟨known, rfl⟩
      | unknownAborted unknown => exact .inr ⟨unknown, List.cons_ne_nil _ _, here, .inl rfl⟩
      | unknownCommitted unknown commits =>
          cases commits with
          | stored at_now recorded =>
              exact .inr ⟨unknown, List.cons_ne_nil _ _, here, .inr ⟨_, .of_record recorded, rfl⟩⟩
  · intro failure w failed
    rcases failed with ⟨known, rfl⟩ | ⟨unknown, undecided⟩
    · exact uploads_compensate_known known free
    · exact uploads_compensate_unknown unknown free undecided

theorem uploads_validatePermissions {permissions : UploadFilePermissions} :
    Uploads enabled start (validatePermissions actor permissions) (fun _ w => w = start) start := by
  have settled : Settled start start := .of_fewer fun _ mem => mem
  refine Process.ensures_liftExcept (fun visibility _ => ?_) fun _ _ => settled
  refine Process.ensures_liftExcept (fun _ _ => ?_) fun _ _ => settled
  refine Process.ensures_liftExcept (fun _ _ => ?_) fun _ _ => settled
  refine Process.ensures_liftExcept (fun _ _ => ?_) fun _ _ => settled
  refine Process.ensures_liftExcept (fun ids _ => ?_) fun _ _ => settled
  by_cases empty : ids.isEmpty = true
  · rw [if_pos empty]
    exact rfl
  · rw [if_neg empty]
    constructor
    · intro other deletes
      cases deletes
    · intro answer w' leaves
      cases leaves with
      | counted =>
          cases answer with
          | error failure => exact settled
          | ok matching => exact Process.ensures_liftExcept (fun _ _ => rfl) fun _ _ => settled

theorem uploads_upload {runtime : FileRuntime} {config : FileConfig} {supplied : Option UploadedCompanyFile}
    {permissions : UploadFilePermissions} :
    Uploads enabled start (upload runtime config actor supplied permissions now) (Answers enabled start) start := by
  have settled : Settled start start := .of_fewer fun _ mem => mem
  refine Process.ensures_liftExcept (fun validated _ => ?_) fun _ _ => settled
  refine Process.ensures_bind uploads_validatePermissions fun permitted w same => ?_
  subst same
  constructor
  · intro other deletes
    cases deletes
  · intro answer w' leaves
    cases leaves with
    | checked =>
        cases answer with
        | error failure => exact settled
        | ok availability =>
            refine Process.ensures_liftExcept (fun _ _ => ?_) fun _ _ => settled
            refine Process.ensures_lift (fun _ deletes => by cases deletes) fun uuid w' drawn => ?_
            cases drawn with
            | drawn free =>
                constructor
                · intro other deletes
                  cases deletes
                · intro answer w' leaves
                  cases leaves with
                  | put => exact uploads_transaction (free actor.companyId)
                  | putRefused | putLost => exact Settled.of_trouble (List.cons_ne_nil _ _)

/-- However its requests end, an upload never deletes the object of a stored row, answers with metadata only when the
row and its usage are committed and the object is stored, and leaves an object without a row only where the storage
failed to confirm the object, the commit was unknown or the deletion failed. -/
theorem upload_compensation (runtime : FileRuntime) (config : FileConfig) (actor : AuthenticatedUser)
    (supplied : Option UploadedCompanyFile) (permissions : UploadFilePermissions) (now : Option Int) (db : FileDb)
    (objects : List StorageKey) {steps : List (Step UploadAct UploadAct.Res)}
    {process : Process UploadAct UploadAct.Res (Except FileFailure FileMetadata)} {w : UploadWorld}
    (course : (upload runtime config actor supplied permissions now).run.Course (UploadEnv config.paymentsEnabled)
      { db := db, objects := objects } steps process w) :
    (∀ key, process.awaited = some (.deleteObject key) → ∀ row ∈ w.db.files, row.storageKey ≠ key) ∧
    (∀ metadata, process = .done (.ok metadata) → ∃ row, CommittedUpload config.paymentsEnabled db row w.db ∧
      row.storageKey ∈ w.objects ∧ metadata = publicMetadata row) ∧
    (∀ outcome, process = .done outcome → ∀ key ∈ w.objects,
      key ∈ objects ∨ (∃ row ∈ w.db.files, row.storageKey = key) ∨ .putFailed ∈ w.troubles ∨
        .commitUnknown ∈ w.troubles ∨ .deleteFailed ∈ w.troubles) := by
  have whole : Uploads config.paymentsEnabled { db := db, objects := objects }
      (upload runtime config actor supplied permissions now) (Answers config.paymentsEnabled _) _ := uploads_upload
  have ensures := whole.course course
  refine ⟨fun key awaits => ensures.isDue awaits key rfl, fun metadata returned => ?_,
    fun outcome returned key mem => ?_⟩
  · subst returned
    exact ensures.1
  · have settled : Settled { db := db, objects := objects } w := by
      subst returned
      cases outcome with
      | ok metadata => exact ensures.2
      | error failure => exact ensures
    rcases settled key mem with before | stored | troubled
    · exact .inl before
    · exact .inr (.inl stored)
    · obtain ⟨trouble, mem⟩ := List.exists_mem_of_ne_nil _ troubled
      cases trouble with
      | putFailed => exact .inr (.inr (.inl mem))
      | commitUnknown => exact .inr (.inr (.inr (.inl mem)))
      | deleteFailed => exact .inr (.inr (.inr (.inr mem)))

/-! An employee uploads a table to a Free company. -/

def asciiRuntime : FileRuntime where
  normalizeNFC := id
  toLowerCase := id
  toString bytes := String.ofList (bytes.map fun byte => Char.ofNat byte.toNat)
  decodeUtf8 bytes := some (String.ofList (bytes.map fun byte => Char.ofNat byte.toNat))

def uploadConfig : FileConfig := ⟨false, 100⟩

def tableUpload : UploadedCompanyFile := ⟨"data.csv", "text/csv", 3, some [97, 44, 98]⟩

def tableFile : NewFile := ⟨1, 5, "data.csv", .upload 1 7, .csv, "text/csv", 3, .companyWide, []⟩

def freeCompany : FileDb where
  accounting :=
    { subscriptions := fun companyId =>
        if companyId = 1 then some { companyId := 1, activatedAt := 0, planChangedAt := 0 } else none }

def employee : AuthenticatedUser := ⟨5, 1, .companyMember⟩

theorem tableUpload_valid :
    validateCompanyFile asciiRuntime (some tableUpload) uploadConfig.maxSizeBytes =
      .ok ⟨"data.csv", .csv, "text/csv", 3, [97, 44, 98]⟩ := by decide +kernel

theorem free_of_empty {db : FileDb} (none : db.files = []) {key : StorageKey} :
    UploadWorld.Free { db := db } key where
  objects := nofun
  files := by simp [none]

/-- The first steps of this request. -/
theorem tableUpload_course {answer : Except FileFailure Unit} {steps : List (Step UploadAct UploadAct.Res)}
    {process : Process UploadAct UploadAct.Res (Except FileFailure FileMetadata)} {w' : UploadWorld}
    (put : UploadEnv false { db := freeCompany } (.putObject (.upload 1 7)) answer w)
    (rest : (ExceptT.run (m := Process UploadAct UploadAct.Res) (do
      let () ← ExceptT.mk (.done answer)
      Process.recover (do
        let metadata ← ExceptT.mk (await (.transaction tableFile none))
        pure (publicMetadata metadata)) (compensate 1 (.upload 1 7)))).Course (UploadEnv false) w steps process w') :
    (upload asciiRuntime uploadConfig employee (some tableUpload) {} none).run.Course (UploadEnv false)
      { db := freeCompany } (⟨.checkFileUpload 1 none, .ok ⟨true, 10⟩⟩ :: ⟨.randomUUID, (7 : Nat)⟩ ::
        ⟨.putObject (.upload 1 7), answer⟩ :: steps) process w' := by
  have checked : UploadEnv false { db := freeCompany } (.checkFileUpload 1 none) (.ok ⟨true, 10⟩)
      { db := freeCompany } := .checked
  have drawn : UploadEnv false { db := freeCompany } .randomUUID 7 { db := freeCompany } :=
    .drawn fun _ => free_of_empty rfl
  unfold upload
  rw [tableUpload_valid]
  exact .cons checked (.cons drawn (.cons put rest))

/-- The storage keeps the object but its answer is lost: no commit and no deletion is tried, and the object has no
row. -/
theorem upload_compensation_lost_put :
    ∃ steps w, (upload asciiRuntime uploadConfig employee (some tableUpload) {} none).run.Course (UploadEnv false)
        { db := freeCompany } steps
        (.done (.error (.service (.serviceUnavailable "Could not upload file")))) w ∧
      w.objects = [.upload 1 7] ∧ w.db.files = [] ∧ .commitUnknown ∉ w.troubles ∧ .deleteFailed ∉ w.troubles ∧
      ∀ step ∈ steps, (∀ file now, step.1 ≠ .transaction file now) ∧ ∀ key, step.1 ≠ .deleteObject key := by
  have lost : UploadEnv false { db := freeCompany } (.putObject (.upload 1 7))
      (.error (.service (.serviceUnavailable "Could not upload file")))
      ((UploadWorld.put { db := freeCompany } (.upload 1 7)).trouble .putFailed) := .putLost
  refine ⟨_, _, tableUpload_course lost (.nil _ _), rfl, rfl, by decide, by decide, ?_⟩
  simp

/-- The upload goes through. -/
theorem upload_compensation_stored :
    ∃ db row, CommittedUpload false freeCompany row db ∧ row.originalFilename = "data.csv" := by
  have recorded : (recordUpload false freeCompany (tableFile.row 3 60000) 60000).isOk = true := by decide +kernel
  cases result : recordUpload false freeCompany (tableFile.row 3 60000) 60000 with
  | error failure =>
      rw [result] at recorded
      cases recorded
  | ok db =>
      have put : UploadEnv false { db := freeCompany } (.putObject (.upload 1 7)) (.ok ())
          (UploadWorld.put { db := freeCompany } (.upload 1 7)) := .put
      have committed : UploadEnv false (UploadWorld.put { db := freeCompany } (.upload 1 7))
          (.transaction tableFile none) (.ok (tableFile.row 3 60000))
          { UploadWorld.put { db := freeCompany } (.upload 1 7) with db := db } := .committed (.stored rfl result)
      have course := tableUpload_course put (.cons committed (.nil _ _))
      obtain ⟨row, written, _, same⟩ :=
        (upload_compensation asciiRuntime uploadConfig employee (some tableUpload) {} none freeCompany [] course).2.1 _ rfl
      exact ⟨_, row, written, (congrArg FileMetadata.originalFilename same).symm⟩

end DataVault.Files
