/-
Module: DataVault.Files.Access
Layer: Model
Purpose: The reads of files/files.service.ts: `findAll` with its pages, `findOne`, `download` and the lookup of a
  source behind a derived copy.
Imports: DataVault.Files.Entity, DataVault.Files.Validation
Trusted boundary: human-reviewed spec
Main exports: FileStore, FileStore.assertLineage, FileStore.findStoredFile, FileStore.findOne, FileStore.download,
  FilePage, FileStore.findAll
-/
import DataVault.Files.Entity
import DataVault.Files.Validation

namespace DataVault.Files

open DataVault.Control DataVault.Guard DataVault.Store DataVault.Users

/-- The file rows of all companies. -/
structure FileStore where
  rows : List StoredFile
  distinct : (rows.map (·.id)).Nodup

/-- `accessFilter(actor)` on a row. -/
def accessible (actor : AuthenticatedUser) (file : StoredFile) : Bool := accessFilter actor file.toCompanyFile

def fileNotFound : FileFailure := .service (.notFound "File not found")

/-- What `findAll` answers. -/
structure FilePage where
  files : List FileMetadata
  total : Nat
  page : Nat
  take : Nat
deriving DecidableEq, Repr

namespace FileStore

variable (store : FileStore) (actor : AuthenticatedUser)

/-- The source that `assertLineage` looks for. -/
def sourceOf (derivation : FileDerivation) : Option StoredFile :=
  store.rows.find? fun source =>
    source.id = derivation.sourceFileId && (accessible actor source && source.derivation = none)

/-- `assertLineage` -/
def assertLineage (file : StoredFile) : Except FileFailure Unit :=
  match file.derivation with
  | none => pure ()
  | some derivation => do
      let _ ← orFail (store.sourceOf actor derivation) fileNotFound
      pure ()

/-- `findStoredFile` -/
def findStoredFile (fileId : Nat) (lineage : Bool) : Except FileFailure StoredFile := do
  let file ← orFail (store.rows.find? fun file => file.id = fileId && accessible actor file) fileNotFound
  if lineage then store.assertLineage actor file else pure ()
  pure file

def findOne (fileId : Nat) : Except FileFailure FileMetadata := do
  let file ← orFail (store.rows.find? fun file => file.id = fileId && accessible actor file) fileNotFound
  store.assertLineage actor file
  pure (publicMetadata file)

def download {Content : Type} (getObject : StorageKey → Except FileFailure Content) (fileId : Nat) :
    Except FileFailure (StoredFile × Content) := do
  let file ← store.findStoredFile actor fileId true
  let stored ← getObject file.storageKey
  pure (file, stored)

/-- The rows that match the filter of `findAll`, in its order. -/
def listing : List StoredFile := newerFirst StoredFile.stamp (store.rows.filter (accessible actor))

/-- `findAll`: what is left of the page once the copies are gone whose source the actor cannot see. -/
def findAll (page take : Nat) : FilePage :=
  let take := min take 30
  { files := ((pageOf take page (store.listing actor)).filter fun file =>
      (store.assertLineage actor file).isOk).map publicMetadata
    total := countDocuments store.rows (accessible actor)
    page := page
    take := take }

end FileStore

end DataVault.Files
