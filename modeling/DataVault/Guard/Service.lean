/-
Module: DataVault.Guard.Service
Layer: Model
Purpose: The guard services, statement by statement, as processes over the actions of DataVault.Guard.World:
  submission, cancellation, the pass of the worker with its recovery and cleanup, sanitization, and the deletion
  of a file (sensitive-data-guard/guard.service.ts, guard.worker.ts, guard-sanitization.service.ts,
  guard.runner.ts, files/files.service.ts). A document in memory is a value.
Imports: DataVault.Guard.World, DataVault.Interleaving.Process
Trusted boundary: human-reviewed spec
Main exports: GuardHandler, submitScan, submitCopy, cancelJob, sanitizeJob, cleanup, recoverExpired, workerRun,
  deleteFile, GuardRequestJob, guardMachine
-/
import DataVault.Guard.World
import DataVault.Interleaving.Process

namespace DataVault.Guard

open DataVault.Control DataVault.Interleaving DataVault.Users

abbrev GuardHandler (α : Type) := ExceptT GuardFailure (Process GuardAct GuardAct.Res) α

/-! ### Single actions -/

/-- Awaits one action. -/
def await (act : GuardAct) : Process GuardAct GuardAct.Res act.Res := Process.call act

def query (read : GuardQuery) : GuardHandler read.Res := ExceptT.mk (await (.query read))

def write (command : GuardCommand) : GuardHandler command.Res := ExceptT.mk (await (.command command))

def aborted : GuardHandler Bool := liftM (await .aborted)

def putObject (job : Nat) (key : StorageKey) (body : Bytes) : GuardHandler Unit :=
  ExceptT.mk (await (.putObject job key body))

def deleteObject (cleanup : Option Nat) (key : StorageKey) : GuardHandler Unit :=
  ExceptT.mk (await (.deleteObject cleanup key))

/-- A check without an await; a failure is thrown. -/
def check {α : Type} (outcome : Except GuardFailure α) : GuardHandler α := liftExcept outcome

/-! ### Access -/

/-- `processingSource` outside a transaction. -/
def processingSource (actor : AuthenticatedUser) (fileId : Nat) : GuardHandler CompanyFile := do
  let file ← check (orFail (← query (.accessibleFile actor fileId)) (.notFound "File not found"))
  match file.derivation with
  | none => pure file
  | some _ => do
      check (require (← query (.lineage actor file)) (.notFound "File not found"))
      pure file

/-- `resolve` outside a transaction. -/
def resolve (userId companyId fileId : Nat) : GuardHandler AuthenticatedUser := do
  let user ← query (.user userId companyId)
  let company ← query (.company companyId)
  let user ← check (orFail user (.notFound "Scan not found"))
  check (require company (.notFound "Scan not found"))
  let actor : AuthenticatedUser := ⟨userId, companyId, user.role⟩
  let _ ← processingSource actor fileId
  pure actor

/-- `authorized`. -/
def authorized (actor : AuthenticatedUser) (id : Nat) : GuardHandler GuardJob := do
  let job ← check (orFail (← query (.authorizedJob actor id)) (.notFound "Scan not found"))
  Process.recover (do
    let _ ← resolve actor.id actor.companyId job.sourceFileId
    pure job) fun _ => throw (.notFound "Scan not found")

/-! ### Requests of users -/

structure GuardScanDto where
  requestKey : Nat
  categories : List Category
  phoneRegion : Option String
deriving DecidableEq, Repr

structure GuardRedactDto where
  requestKey : Nat
  categories : List Category
  columns : List RedactionColumn
deriving DecidableEq, Repr

/-- `replay`. -/
def replay (job : GuardJob) (fingerprint : Fingerprint) : GuardHandler GuardJob := do
  check (require (job.fingerprint = fingerprint) (.conflict "guard_request_conflict"))
  pure job

/-- `submit` of a scan. -/
def submitScan (config : GuardConfig) (actor : AuthenticatedUser) (fileId : Nat) (dto : GuardScanDto) :
    GuardHandler GuardJob := do
  let _ ← resolve actor.id actor.companyId fileId
  let source ← processingSource actor fileId
  check (require (source.fileType = .xlsx) (.badRequest "guard_unsupported_format"))
  check (require (source.size ≤ config.limits.compressedBytes) (.http "guard_limit_exceeded" 413))
  check (require config.runtime.isolationApproved (.serviceUnavailable "guard_runtime_not_approved"))
  let fingerprint := Fingerprint.scan fileId (sortCategories dto.categories) dto.phoneRegion
  match ← query (.byIdentity actor.companyId actor.id dto.requestKey) with
  | some existing => replay existing fingerprint
  | none => do
      check (require ((← query (.recentJobs actor.companyId)) < 10) (.http "guard_rate_limited" 429))
      Process.recover (write (.createScan actor fileId dto.requestKey dto.categories dto.phoneRegion))
        fun failure => do
          match ← query (.byIdentity actor.companyId actor.id dto.requestKey) with
          | some committed => replay committed fingerprint
          | none =>
              if failure = .duplicateKey then throw (.conflict "guard_active_scan_exists")
              else if failure.isHttp then throw failure
              else throw (.serviceUnavailable "guard_submission_unconfirmed")

/-- `approved`. -/
def approved (config : GuardConfig) : Except GuardFailure Unit :=
  require (config.runtime.isolationApproved && config.runtime.sanitizationApproved)
    (.serviceUnavailable "guard_runtime_not_approved")

/-- `a.sheetIndex - b.sheetIndex || a.column - b.column`. -/
def columnOrder (first second : RedactionColumn) : Bool :=
  first.sheetIndex < second.sheetIndex ||
    (first.sheetIndex = second.sheetIndex && first.column ≤ second.column)

/-- The canonical selection of a request. -/
def GuardRedactDto.selection (dto : GuardRedactDto) : RedactionSelection where
  categories := sortCategories dto.categories
  columns := dto.columns.insertionSort fun first second => columnOrder first second

/-- A selection that the scan does not cover. -/
def selectionInvalid (scan : GuardJob) (selection : RedactionSelection) : Bool :=
  (selection.categories.isEmpty && selection.columns.isEmpty) ||
    selection.categories.any (fun category => !scan.categories.contains category) ||
    selection.columns.any (fun column => column.sheetIndex ≥ scan.sheets) ||
    !(selection.columns.map fun column => (column.sheetIndex, column.column)).Nodup

/-- `submit` of a sanitization. -/
def submitCopy (config : GuardConfig) (actor : AuthenticatedUser) (scanId : Nat) (dto : GuardRedactDto) :
    GuardHandler GuardJob := do
  let scan ← authorized actor scanId
  check (approved config)
  check (require (scan.kind ≠ .sanitize && scan.status = .completed && scan.engineVersion = .ooxmlScanV1)
    (.conflict "guard_scan_not_eligible"))
  let source ← processingSource actor scan.sourceFileId
  check (require (source.derivation = none && source.fileType = .xlsx) (.conflict "guard_scan_not_eligible"))
  check (require (!selectionInvalid scan dto.selection) (.conflict "guard_selection_invalid"))
  let fingerprint := Fingerprint.copy scan.id dto.selection
  match ← query (.byIdentity actor.companyId actor.id dto.requestKey) with
  | some existing => do
      check (require (existing.kind = .sanitize && existing.fingerprint = fingerprint)
        (.conflict "guard_request_conflict"))
      pure existing
  | none =>
      Process.recover (write (.createCopy actor scan dto.requestKey dto.selection)) fun failure => do
        match ← query (.byIdentity actor.companyId actor.id dto.requestKey) with
        | some committed =>
            if committed.kind = .sanitize && committed.fingerprint = fingerprint then pure committed
            else throw (match failure with
              | .conflict message => .conflict message
              | _ => .conflict "guard_admission_uncertain_or_busy")
        | none => throw (match failure with
            | .conflict message => .conflict message
            | _ => .conflict "guard_admission_uncertain_or_busy")

/-- `cancel`. -/
def cancelJob (actor : AuthenticatedUser) (id : Nat) : GuardHandler GuardJob := do
  let job ← authorized actor id
  write (.cancel actor job)
  authorized actor id

/-- `FilesService.delete`. -/
def deleteFile (actor : AuthenticatedUser) (fileId : Nat) : GuardHandler Unit := do
  let file ← check (orFail (← query (.accessibleFile actor fileId)) (.notFound "File not found"))
  check (require (actor.role = .companyOwner || file.uploaderId = actor.id)
    (.forbidden "Only the uploader or company owner can delete this file"))
  match file.derivation with
  | some derivation => write (.tombstone file derivation)
  | none => pure ()
  deleteObject none file.storageKey
  if ← write (.deleteFile actor file) then pure () else throw (.notFound "File not found")

/-! ### The runner -/

/-- What `execute` checks of a finding. -/
def soundFinding (limits : GuardLimits) (sheets : Nat) (finding : SafeFinding) : Bool :=
  finding.sheetIndex ≤ sheets - 1 && 1 ≤ finding.row && finding.row ≤ limits.rows &&
    1 ≤ finding.column && finding.column ≤ limits.columns

/-- The checks of `execute` on the answer to a scan. -/
def acceptScan (limits : GuardLimits) (response : ScanResponse) : Except GuardFailure ScanResult :=
  if response.findings.length > limits.findings || response.processedCells > limits.cells ||
      response.sheets < 1 || response.sheets > limits.sheets || response.coverage ≠ .limited ||
      response.compatibilityFlags.length > 9 || !response.findings.all (soundFinding limits response.sheets) then
    .error (.scanError .invalidWorkbook)
  else if numbered : response.findings.map (·.ordinal) = List.range response.findings.length then
    .ok
      { findings := response.findings
        processedCells := response.processedCells
        sheets := response.sheets
        compatibilityFlags := response.compatibilityFlags
        coverage := response.coverage
        numbered := numbered }
  else .error (.scanError .invalidWorkbook)

/-- The checks of `execute` on the answer to a sanitization. -/
def acceptSanitization (config : GuardConfig) (response : SanitizationResponse) :
    Except GuardFailure SanitizationResponse :=
  if response.output.isEmpty || response.output.length > config.limits.compressedBytes ||
      response.redactedCells < 1 || response.redactedCells > config.limits.cells ||
      config.sha256 response.output ≠ response.outputDigest then
    .error (.scanError .invalidWorkbook)
  else .ok response

/-- `GuardRunner.run`. -/
def runScan (config : GuardConfig) (bytes : Bytes) (categories : List Category) (phoneRegion : Option String) :
    GuardHandler ScanResult := do
  let response ← (ExceptT.mk (await (.scan bytes categories phoneRegion)) : GuardHandler ScanResponse)
  check (acceptScan config.limits response)

/-- `GuardRunner.sanitize`. -/
def runSanitize (config : GuardConfig) (bytes : Bytes) (options : SanitizationOptions) :
    GuardHandler SanitizationResponse := do
  let response ← (ExceptT.mk (await (.sanitize bytes options)) : GuardHandler SanitizationResponse)
  check (acceptSanitization config response)

/-! ### Sanitization -/

/-- The failures that `process` does not pass on. -/
def publicationFailure : GuardFailure → GuardFailure
  | .forbidden _ => .scanError .quotaExceeded
  | .scanError code => .scanError code
  | .notFound message => .notFound message
  | _ => .scanError .internalError

/-- The `try` block of `process`. -/
def publishOutput (job : GuardJob) (actor : AuthenticatedUser) (key : StorageKey)
    (result : SanitizationResponse) : GuardHandler Unit := do
  putObject job.id key result.output
  if ← aborted then throw (.scanError .accessRevoked)
  else write (.publishCopy job actor result.output.length result.redactedCells)

/-- `process`. -/
def sanitizeJob (config : GuardConfig) (job : GuardJob) (bytes : Bytes) : GuardHandler Unit := do
  check (approved config)
  check (require (job.engineVersion = .plainOoxmlRedactionV1) (.scanError .profileUnsupported))
  let scan ← check (orFail (← query (.completedScan job)) (.scanError .sourceChanged))
  check (require (scan.kind ≠ .sanitize && scan.sourceDigest = some (config.sha256 bytes))
    (.scanError .sourceChanged))
  let findings ← query (.findingsOf job.companyId scan.id)
  check (require (findings.length = scan.findingCount && findings.length ≤ config.limits.findings)
    (.scanError .sourceChanged))
  let result ← runSanitize config bytes
    { selection := ⟨job.categories, job.columns⟩
      categories := scan.categories
      phoneRegion := scan.phoneRegion
      findingsDigest := config.findingsDigest (findings.map (·.finding)) }
  match job.outputStorageKey, job.resultFileId with
  | some key, some _ => do
      if ← aborted then throw (.scanError .accessRevoked)
      else do
        let actor ← write (.recordOutput job result.outputDigest)
        if ← aborted then throw (.scanError .accessRevoked)
        else Process.recover (publishOutput job actor key result) fun failure => throw (publicationFailure failure)
  | _, _ => throw (.scanError .accessRevoked)

/-- The body of the loop of `cleanup`. -/
def compensate (job : GuardJob) : GuardHandler Unit := do
  write (.postponeCleanup job)
  match job.outputStorageKey, job.resultFileId with
  | some key, some fileId => do
      if (← query (.copyExists job.companyId fileId)).isSome then pure ()
      else if key ≠ .guardCopy job.companyId job.id then pure ()
      else deleteObject (some job.id) key
  | _, _ => pure ()

/-- The loop of `cleanup`; every failure is caught. -/
def compensateAll : List GuardJob → GuardHandler Unit
  | [] => pure ()
  | job :: rest => do
      Process.recover (compensate job) fun _ => pure ()
      compensateAll rest

def cleanup (config : GuardConfig) : GuardHandler Unit := do
  if config.runtime.isolationApproved && config.runtime.sanitizationApproved then do
    let pending ← query .pendingCleanup
    compensateAll pending
  else pure ()

/-! ### The worker -/

/-- The loop of `recover`. -/
def recoverAll : List GuardJob → GuardHandler Unit
  | [] => pure ()
  | job :: rest => do
      write (.recoverJob job)
      recoverAll rest

/-- `recover`. -/
def recoverExpired : GuardHandler Unit := do
  let expired ← query .expired
  recoverAll expired

/-- `check`. -/
def stillClaimed (job : GuardJob) : GuardHandler Bool := do
  if ← query (.claimed job) then do
    let _ ← resolve job.requestedBy job.companyId job.sourceFileId
    pure true
  else pure false

/-- `read`: what is no scan error is a storage error. -/
def readSource (actor : AuthenticatedUser) (fileId : Nat) : GuardHandler Bytes :=
  Process.recover (ExceptT.mk (await (.download actor fileId))) fun failure =>
    match failure with
    | .scanError code => throw (.scanError code)
    | _ => throw (.scanError .storageUnavailable)

/-- The `try` block of `run`. -/
def workOn (config : GuardConfig) (job : GuardJob) : GuardHandler Unit := do
  check (require (← stillClaimed job) (.scanError .accessRevoked))
  let actor ← resolve job.requestedBy job.companyId job.sourceFileId
  let bytes ← readSource actor job.sourceFileId
  check (require (← stillClaimed job) (.scanError .accessRevoked))
  if job.kind = .sanitize then do
    check (require config.runtime.sanitizationApproved (.scanError .workerUnavailable))
    write (.setPhase job .transforming)
    sanitizeJob config job bytes
  else do
    write (.setPhase job .scanning)
    let result ← runScan config bytes job.categories job.phoneRegion
    write (.publish job result (config.sha256 bytes))

/-- `run`. -/
def run (config : GuardConfig) : GuardHandler Unit := do
  recoverExpired
  cleanup config
  match ← write .claimNext with
  | none => pure ()
  | some job => Process.recover (workOn config job) fun failure => write (.terminal job failure.errorCode)

/-- `tick`, of a worker that is not running. -/
def tick (config : GuardConfig) : GuardHandler Unit := do
  if config.runtime.isolationApproved then Process.recover (run config) fun _ => pure ()
  else pure ()

/-! ### The machine -/

inductive GuardRequestJob where
  | submitScan (actor : AuthenticatedUser) (fileId : Nat) (dto : GuardScanDto)
  | submitCopy (actor : AuthenticatedUser) (scanId : Nat) (dto : GuardRedactDto)
  | cancel (actor : AuthenticatedUser) (id : Nat)
  | deleteFile (actor : AuthenticatedUser) (fileId : Nat)
  | tick

/-- What a request answers: a job, or nothing. -/
abbrev GuardReply := Except GuardFailure (Option GuardJob)

def GuardRequestJob.handler (config : GuardConfig) : GuardRequestJob → GuardHandler (Option GuardJob)
  | .submitScan actor fileId dto => do
      let job ← Guard.submitScan config actor fileId dto
      pure (some job)
  | .submitCopy actor scanId dto => do
      let job ← Guard.submitCopy config actor scanId dto
      pure (some job)
  | .cancel actor id => do
      let job ← cancelJob actor id
      pure (some job)
  | .deleteFile actor fileId => do
      Guard.deleteFile actor fileId
      pure none
  | .tick => do
      Guard.tick config
      pure none

/-- Every request of every user and every pass of every worker. -/
def guardMachine (config : GuardConfig) :
    Machine GuardAct GuardAct.Res GuardWorld GuardChoice GuardDrift GuardRequestJob GuardReply where
  handler job := (job.handler config).run
  exec := guardExec config
  drift := guardDrift

abbrev GuardSystem := System GuardAct GuardAct.Res GuardWorld GuardReply
abbrev GuardSystemEvent := Event GuardChoice GuardDrift GuardRequestJob

end DataVault.Guard
