/-
Module: DataVault.Guard.Entities
Layer: Model
Purpose: The documents of the sensitive-data guard and the values they are made of
  (sensitive-data-guard/guard.constants.ts, sensitive-data-guard/entities, files/entities/company-file.entity.ts).
  Object ids, user ids and request keys are natural numbers, instants are milliseconds.
Imports: Mathlib.Data.List.Sort, DataVault.Users.Entity
Trusted boundary: human-reviewed spec
Main exports: Category, GuardState, GuardErrorCode, GuardLimits, GuardRuntimePolicy, SafeFinding, ScanResult,
  GuardRequest, GuardJob, GuardFinding, GuardEvent, StorageKey, CompanyFile, GuardFailure
-/
import Mathlib.Data.List.Sort
import DataVault.Users.Entity

namespace DataVault.Guard

open DataVault.Users

/-! ### Constants -/

inductive Category where
  | email
  | phone
  | paymentCard
  | iban
  | ip
deriving DecidableEq, Repr

/-- The position of a category's name in the order of strings. -/
def Category.rank : Category → Nat
  | .email => 0
  | .iban => 1
  | .ip => 2
  | .paymentCard => 3
  | .phone => 4

/-- `[...categories].sort()`. -/
def sortCategories (categories : List Category) : List Category :=
  List.insertionSort (fun first second : Category => first.rank ≤ second.rank) categories

inductive GuardState where
  | queued
  | processing
  | completed
  | failed
  | cancelled
deriving DecidableEq, Repr

/-- No step leaves these states. -/
def GuardState.terminal : GuardState → Bool
  | .completed | .failed | .cancelled => true
  | .queued | .processing => false

inductive GuardPhase where
  | queued
  | fetching
  | scanning
  | transforming
  | publishing
  | completed
  | failed
  | cancelled
deriving DecidableEq, Repr

/-- `SAFE_ERRORS`. -/
inductive GuardErrorCode where
  | invalidWorkbook
  | limitExceeded
  | timeout
  | accessRevoked
  | storageUnavailable
  | workerUnavailable
  | internalError
  | profileUnsupported
  | selectionInvalid
  | sourceChanged
  | outputVerificationFailed
  | quotaExceeded
deriving DecidableEq, Repr

/-- `GuardLimits`, with `DEFAULT_LIMITS`. -/
structure GuardLimits where
  compressedBytes : Nat := 10 * 1024 * 1024
  expandedBytes : Nat := 32 * 1024 * 1024
  entryBytes : Nat := 8 * 1024 * 1024
  entries : Nat := 500
  ratio : Nat := 100
  sheets : Nat := 20
  rows : Nat := 100000
  columns : Nat := 512
  cells : Nat := 100000
  textBytes : Nat := 8192
  findings : Nat := 5000
  leaseMs : Nat := 120000
deriving DecidableEq, Repr

/-- `GuardRuntimePolicy`, with `DEFAULT_RUNTIME_POLICY`. -/
structure GuardRuntimePolicy where
  isolationApproved : Bool := false
  sanitizationApproved : Bool := false
deriving DecidableEq, Repr

/-- `engineVersion`: `ooxml_scan_v1` or `SANITIZATION_VERSION`. -/
inductive EngineVersion where
  | ooxmlScanV1
  | plainOoxmlRedactionV1
deriving DecidableEq, Repr

/-- `COMPATIBILITY_FLAGS`. -/
inductive CompatibilityFlag where
  | cellTextOnly
  | metadataNotScanned
  | unsupportedParts
  | hyperlinks
  | definedNames
  | formulas
  | unsupportedElements
  | mergedCells
  | unreferencedSharedStrings
deriving DecidableEq, Repr

inductive Coverage where
  | supported
  | limited
deriving DecidableEq, Repr

inductive Evidence where
  | formatValid
  | checksumValid
deriving DecidableEq, Repr

/-! ### Findings -/

structure SafeFinding where
  ordinal : Nat
  sheetIndex : Nat
  row : Nat
  column : Nat
  category : Category
  evidence : Evidence
  hidden : Bool
deriving DecidableEq, Repr

/-- A scan result that the runner let through: its findings are numbered in order. -/
structure ScanResult where
  findings : List SafeFinding
  processedCells : Nat
  sheets : Nat
  compatibilityFlags : List CompatibilityFlag
  coverage : Coverage
  numbered : findings.map (·.ordinal) = List.range findings.length

structure RedactionColumn where
  sheetIndex : Nat
  column : Nat
  includeHeader : Bool
deriving DecidableEq, Repr

structure RedactionSelection where
  categories : List Category
  columns : List RedactionColumn
deriving DecidableEq, Repr

/-! ### Files -/

/-- Object keys: `companies/<company>/files/<uuid>.<type>` of an upload and
`companies/<company>/files/guard-<job>.xlsx` of a sanitized copy. -/
inductive StorageKey where
  | upload (companyId uuid : Nat)
  | guardCopy (companyId jobId : Nat)
deriving DecidableEq, Repr

inductive CompanyFileType where
  | csv
  | xls
  | xlsx
deriving DecidableEq, Repr

inductive CompanyFileVisibility where
  | companyWide
  | restricted
deriving DecidableEq, Repr

structure FileDerivation where
  sourceFileId : Nat
  jobId : Nat
deriving DecidableEq, Repr

/-- A row of `companyFile`; rows from before the field have no visibility. -/
structure CompanyFile where
  id : Nat
  companyId : Nat
  uploaderId : Nat
  storageKey : StorageKey
  fileType : CompanyFileType
  size : Nat
  visibility : Option CompanyFileVisibility := some .companyWide
  restrictedUserIds : List Nat := []
  derivation : Option FileDerivation := none
deriving DecidableEq, Repr

/-- `accessFilter`. -/
def accessFilter (actor : AuthenticatedUser) (file : CompanyFile) : Bool :=
  file.companyId = actor.companyId &&
    (actor.role = .companyOwner || file.visibility = some .companyWide || file.visibility = none ||
      file.uploaderId = actor.id || file.restrictedUserIds.contains actor.id)

/-- What `resolve` asks of a company. -/
structure CompanyStanding where
  activated : Bool
  suspended : Bool
deriving DecidableEq, Repr

/-! ### Jobs -/

inductive GuardKind where
  | scan
  | sanitize
deriving DecidableEq, Repr

/-- What a request key stands for: the hashed JSON of the request. -/
inductive Fingerprint where
  | scan (fileId : Nat) (categories : List Category) (phoneRegion : Option String)
  | copy (scanId : Nat) (selection : RedactionSelection)
deriving DecidableEq, Repr

/-- The immutable paths of a job. -/
structure GuardRequest where
  id : Nat
  kind : GuardKind := .scan
  scanId : Option Nat := none
  columns : List RedactionColumn := []
  resultFileId : Option Nat := none
  outputStorageKey : Option StorageKey := none
  companyId : Nat
  requestedBy : Nat
  sourceFileId : Nat
  requestKey : Nat
  fingerprint : Fingerprint
  categories : List Category
  phoneRegion : Option String := none
  engineVersion : EngineVersion := .ooxmlScanV1
  createdAt : Int
deriving DecidableEq, Repr

/-- `GuardJob`. Digests are what a hash function yields; a lease token is the number of the pass that took it. -/
structure GuardJob extends GuardRequest where
  outputDigest : Option Nat := none
  cleanupPending : Bool := false
  cleanupAfter : Option Int := none
  redactedCells : Nat := 0
  status : GuardState := .queued
  active : Bool := true
  phase : GuardPhase := .queued
  attempts : Nat := 0
  leaseToken : Option Nat := none
  leaseExpiresAt : Option Int := none
  startedAt : Option Int := none
  finishedAt : Option Int := none
  errorCode : Option GuardErrorCode := none
  sourceDigest : Option Nat := none
  processedCells : Nat := 0
  findingCount : Nat := 0
  sheets : Nat := 0
  compatibilityFlags : List CompatibilityFlag := []
  coverage : Option Coverage := none
deriving DecidableEq, Repr

/-- A row of `guardFinding`; `run`, which the code does not keep, is the pass that stored it. -/
structure GuardFinding where
  companyId : Nat
  jobId : Nat
  run : Nat
  finding : SafeFinding
deriving DecidableEq, Repr

inductive GuardAction where
  | queued
  | completed
  | failed
  | cancelled
deriving DecidableEq, Repr

structure GuardEvent where
  companyId : Nat
  jobId : Nat
  actorId : Nat
  action : GuardAction
deriving DecidableEq, Repr

/-! ### Failures -/

/-- What the guard services raise; `database` and `duplicateKey` come from the driver, `storage` from the object
store. -/
inductive GuardFailure where
  | scanError (code : GuardErrorCode)
  | badRequest (message : String)
  | notFound (message : String)
  | forbidden (message : String)
  | conflict (message : String)
  | http (message : String) (status : Nat)
  | serviceUnavailable (message : String)
  | database
  | duplicateKey
  | storage
deriving DecidableEq, Repr

/-- `error instanceof HttpException`. -/
def GuardFailure.isHttp : GuardFailure → Bool
  | .badRequest _ | .notFound _ | .forbidden _ | .conflict _ | .http .. | .serviceUnavailable _ => true
  | .scanError _ | .database | .duplicateKey | .storage => false

/-- The code that `run` stores for what it caught. -/
def GuardFailure.errorCode : GuardFailure → GuardErrorCode
  | .scanError code => code
  | .notFound _ => .accessRevoked
  | _ => .internalError

end DataVault.Guard
