/-
Module: DataVault.Files.Entity
Layer: Model
Purpose: A row of `companyFile` with what its readers are shown (files/entities/company-file.entity.ts) and
  `publicMetadata` of files/files.service.ts.
Imports: DataVault.Guard.Entities, DataVault.Store.Listing
Trusted boundary: human-reviewed spec
Main exports: StoredFile, FileMetadata, publicMetadata
-/
import DataVault.Guard.Entities
import DataVault.Store.Listing

namespace DataVault.Files

open DataVault.Guard DataVault.Store

/-- A file with its names and dates; the last two of a derivation are set where there is one. -/
structure StoredFile extends CompanyFile where
  originalFilename : String
  mimeType : String
  createdAt : Int
  updatedAt : Int
  strategyVersion : String := ""
  derivedAt : Int := 0
deriving DecidableEq, Repr

/-- What files are sorted by. -/
def StoredFile.stamp (file : StoredFile) : Stamp := ⟨file.createdAt, file.id⟩

structure DerivationMetadata where
  sourceFileId : Nat
  jobId : Nat
  strategyVersion : String
  createdAt : Int
deriving DecidableEq, Repr

structure FileMetadata where
  id : Nat
  derivation : Option DerivationMetadata
  uploaderId : Nat
  originalFilename : String
  fileType : CompanyFileType
  mimeType : String
  size : Nat
  visibility : CompanyFileVisibility
  restrictedUserIds : List Nat
  createdAt : Int
  updatedAt : Int
deriving DecidableEq, Repr

/-- `publicMetadata`. -/
def publicMetadata (file : StoredFile) : FileMetadata where
  id := file.id
  derivation := file.derivation.map fun derivation =>
    { sourceFileId := derivation.sourceFileId
      jobId := derivation.jobId
      strategyVersion := file.strategyVersion
      createdAt := file.derivedAt }
  uploaderId := file.uploaderId
  originalFilename := file.originalFilename
  fileType := file.fileType
  mimeType := file.mimeType
  size := file.size
  visibility := file.visibility.getD .companyWide
  restrictedUserIds := file.restrictedUserIds
  createdAt := file.createdAt
  updatedAt := file.updatedAt

end DataVault.Files
