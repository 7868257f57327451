/-
Module: DataVault.Files.Upload
Layer: Model
Purpose: `upload` of files/files.service.ts over two stores that share no transaction: the object storage and the
  database with the file rows and the usage. The environment answers every action in each way it can end: a request
  that fails may have taken effect, a commit may be answered with an unknown result, a majority read that finds nothing
  proves nothing.
Imports: DataVault.Files.Entity, DataVault.Files.Validation, DataVault.Interleaving.Course,
  DataVault.Subscriptions.UsageAccounting
Trusted boundary: human-reviewed spec
Main exports: FileDb, recordUpload, UploadWorld, UploadAct, upload, UploadEnv
-/
import DataVault.Files.Entity
import DataVault.Files.Validation
import DataVault.Interleaving.Course
import DataVault.Subscriptions.UsageAccounting

namespace DataVault.Files

open DataVault.Control DataVault.Guard DataVault.Interleaving DataVault.Payments DataVault.Store
open DataVault.Subscriptions DataVault.Users

/-! ### The two stores -/

/-- The file rows beside the collections that uploads are counted in. -/
structure FileDb where
  accounting : AccountingDb := {}
  files : List StoredFile := []

/-- The collections as an upload transaction reads them: the stored files are counted. -/
def FileDb.counted (db : FileDb) : AccountingDb :=
  { db.accounting with
    storedFiles := fun companyId => countDocuments db.files fun file => file.companyId = companyId }

/-- The callback of the upload transaction, on the row that it creates. -/
def recordUpload (enabled : Bool) (db : FileDb) (row : StoredFile) (instant : Int) : Except FileFailure FileDb := do
  let accounting ← (db.counted.recordFileUploads enabled row.companyId 1 instant).mapError .service
  require (!db.files.any fun file => file.storageKey = row.storageKey) (.service .duplicateKey)
  pure { accounting := accounting, files := row :: db.files }

/-- What went wrong in a request. -/
inductive Trouble where
  | putFailed
  | commitUnknown
  | deleteFailed
deriving DecidableEq, Repr

/-- The objects in the storage, and what went wrong so far, which nobody keeps. -/
structure UploadWorld where
  db : FileDb := {}
  objects : List StorageKey := []
  troubles : List Trouble := []

namespace UploadWorld

variable (w : UploadWorld)

def put (key : StorageKey) : UploadWorld := { w with objects := key :: w.objects }

def remove (key : StorageKey) : UploadWorld := { w with objects := w.objects.filter (· ≠ key) }

def trouble (trouble : Trouble) : UploadWorld := { w with troubles := trouble :: w.troubles }

/-- No object and no row has this key. -/
structure Free (key : StorageKey) : Prop where
  objects : key ∉ w.objects
  files : ∀ file ∈ w.db.files, file.storageKey ≠ key

end UploadWorld

/-! ### Actions -/

/-- What a row is created from. -/
structure NewFile where
  companyId : Nat
  uploaderId : Nat
  originalFilename : String
  storageKey : StorageKey
  fileType : CompanyFileType
  mimeType : String
  size : Nat
  visibility : CompanyFileVisibility
  restrictedUserIds : List Nat
deriving DecidableEq, Repr

/-- The created row, with its id and its timestamps. -/
def NewFile.row (file : NewFile) (id : Nat) (createdAt : Int) : StoredFile where
  id := id
  companyId := file.companyId
  uploaderId := file.uploaderId
  originalFilename := file.originalFilename
  storageKey := file.storageKey
  fileType := file.fileType
  mimeType := file.mimeType
  size := file.size
  visibility := some file.visibility
  restrictedUserIds := file.restrictedUserIds
  createdAt := createdAt
  updatedAt := createdAt

/-- What `checkFileUpload` answers. -/
structure FileAvailability where
  allowed : Bool
  includedFilesPerMonth : Nat
deriving DecidableEq, Repr

inductive UploadAct where
  | countEmployees (companyId : Nat) (ids : List Nat)
  | checkFileUpload (companyId : Nat) (now : Option Int)
  | randomUUID
  | putObject (key : StorageKey)
  | transaction (file : NewFile) (now : Option Int)
  | confirm (companyId : Nat) (key : StorageKey)
  | deleteObject (key : StorageKey)
deriving DecidableEq, Repr

abbrev UploadAct.Res : UploadAct → Type
  | .countEmployees .. => Except FileFailure Nat
  | .checkFileUpload .. => Except FileFailure FileAvailability
  | .randomUUID => Nat
  | .putObject _ | .deleteObject _ => Except FileFailure Unit
  | .transaction .. => Except FileFailure StoredFile
  | .confirm .. => Except FileFailure (Option StoredFile)

abbrev UploadHandler (α : Type) := ExceptT FileFailure (Process UploadAct UploadAct.Res) α

/-- Awaits one action. -/
def await (act : UploadAct) : Process UploadAct UploadAct.Res act.Res := Process.call act

/-! ### The service -/

/-- The settings `upload` reads. -/
structure FileConfig where
  paymentsEnabled : Bool
  maxSizeBytes : Nat

/-- An id in a request: an object id or some other text. -/
inductive SuppliedId where
  | objectId (id : Nat)
  | other (text : String)
deriving DecidableEq, Repr

def SuppliedId.objectId? : SuppliedId → Option Nat
  | .objectId id => some id
  | .other _ => none

/-- `UploadFilePermissionsDto`; a visibility that is none of the enumeration is `none`. -/
structure UploadFilePermissions where
  visibility : Option CompanyFileVisibility := some .companyWide
  restrictedUserIds : List SuppliedId := []
deriving DecidableEq, Repr

/-- `validatePermissions` -/
def validatePermissions (actor : AuthenticatedUser) (permissions : UploadFilePermissions) :
    UploadHandler (CompanyFileVisibility × List Nat) := do
  let visibility ← liftExcept (orFail permissions.visibility (badRequest "File visibility is invalid"))
  let supplied := permissions.restrictedUserIds
  let restricted := supplied.dedup
  liftExcept (require (restricted.length = supplied.length) (badRequest "Restricted employees must be unique"))
  liftExcept (require (visibility ≠ .companyWide || restricted.isEmpty)
    (badRequest "Company-wide files cannot have restricted employees"))
  liftExcept (require (visibility ≠ .restricted || !restricted.isEmpty)
    (badRequest "Restricted files require at least one employee"))
  let ids ← liftExcept (orFail (restricted.mapM SuppliedId.objectId?) (badRequest "Restricted employees are invalid"))
  if ids.isEmpty then pure (visibility, ids)
  else do
    let matching ← ExceptT.mk (await (.countEmployees actor.companyId ids))
    liftExcept (require (matching = ids.length)
      (badRequest "Restricted employees must be active members of the company"))
    pure (visibility, ids)

def hasUnknownCommitResult : FileFailure → Bool
  | .driver errorLabels => errorLabels.contains "UnknownTransactionCommitResult"
  | _ => false

/-- The handler of a failed transaction. -/
def compensate (companyId : Nat) (key : StorageKey) (error : FileFailure) : UploadHandler FileMetadata := do
  if hasUnknownCommitResult error then do
    match ← liftM (await (.confirm companyId key)) with
    | .ok (some committed) => pure (publicMetadata committed)
    | _ => throw error
  else do
    let _ ← liftM (await (.deleteObject key))
    throw error

def upload (runtime : FileRuntime) (config : FileConfig) (actor : AuthenticatedUser)
    (supplied : Option UploadedCompanyFile) (permissions : UploadFilePermissions) (now : Option Int) :
    UploadHandler FileMetadata := do
  let file ← liftExcept (validateCompanyFile runtime supplied config.maxSizeBytes)
  let (visibility, restrictedUserIds) ← validatePermissions actor permissions
  let availability ← ExceptT.mk (await (.checkFileUpload actor.companyId now))
  liftExcept (require availability.allowed
    (FileFailure.service (.fileLimitReached "The stored file limit has been reached. Delete a file to upload another."
      availability.includedFilesPerMonth)))
  let uuid ← liftM (await .randomUUID)
  let key := StorageKey.upload actor.companyId uuid
  ExceptT.mk (await (.putObject key))
  let created : NewFile :=
    { companyId := actor.companyId
      uploaderId := actor.id
      originalFilename := file.originalFilename
      storageKey := key
      fileType := file.fileType
      mimeType := file.mimeType
      size := file.size
      visibility := visibility
      restrictedUserIds := restrictedUserIds }
  Process.recover (do
    let metadata ← ExceptT.mk (await (.transaction created now))
    pure (publicMetadata metadata)) (compensate actor.companyId key)

/-! ### The environment -/

/-- The upload transaction takes effect. -/
inductive Commits (enabled : Bool) (w : UploadWorld) (file : NewFile) (now : Option Int) :
    StoredFile → UploadWorld → Prop where
  | stored {id : Nat} {createdAt instant : Int} {db : FileDb} (at_now : now.all (· = instant))
      (recorded : recordUpload enabled w.db (file.row id createdAt) instant = .ok db) :
      Commits enabled w file now (file.row id createdAt) { w with db := db }

/-- What the actions answer and leave. A drawn id is new; a request to the storage that fails, and a commit with an
unknown result, may have taken effect. -/
inductive UploadEnv (enabled : Bool) : Environment UploadAct UploadAct.Res UploadWorld where
  | counted {w companyId ids answer} : UploadEnv enabled w (.countEmployees companyId ids) answer w
  | checked {w companyId now answer} : UploadEnv enabled w (.checkFileUpload companyId now) answer w
  | drawn {w uuid} (free : ∀ companyId, w.Free (.upload companyId uuid)) : UploadEnv enabled w .randomUUID uuid w
  | put {w key} : UploadEnv enabled w (.putObject key) (.ok ()) (w.put key)
  | putRefused {w key failure} : UploadEnv enabled w (.putObject key) (.error failure) (w.trouble .putFailed)
  | putLost {w key failure} :
      UploadEnv enabled w (.putObject key) (.error failure) ((w.put key).trouble .putFailed)
  | committed {w file now row w'} (commits : Commits enabled w file now row w') :
      UploadEnv enabled w (.transaction file now) (.ok row) w'
  | aborted {w file now failure} (known : hasUnknownCommitResult failure = false) :
      UploadEnv enabled w (.transaction file now) (.error failure) w
  | unknownAborted {w file now failure} (unknown : hasUnknownCommitResult failure = true) :
      UploadEnv enabled w (.transaction file now) (.error failure) (w.trouble .commitUnknown)
  | unknownCommitted {w file now failure row w'} (unknown : hasUnknownCommitResult failure = true)
      (commits : Commits enabled w file now row w') :
      UploadEnv enabled w (.transaction file now) (.error failure) (w'.trouble .commitUnknown)
  | confirmed {w companyId key row} (mem : row ∈ w.db.files) (company : row.companyId = companyId)
      (keyed : row.storageKey = key) : UploadEnv enabled w (.confirm companyId key) (.ok (some row)) w
  | unseen {w companyId key} : UploadEnv enabled w (.confirm companyId key) (.ok none) w
  | unread {w companyId key failure} : UploadEnv enabled w (.confirm companyId key) (.error failure) w
  | deleted {w key} : UploadEnv enabled w (.deleteObject key) (.ok ()) (w.remove key)
  | deleteRefused {w key failure} : UploadEnv enabled w (.deleteObject key) (.error failure) (w.trouble .deleteFailed)
  | deleteLost {w key failure} :
      UploadEnv enabled w (.deleteObject key) (.error failure) ((w.remove key).trouble .deleteFailed)

end DataVault.Files
