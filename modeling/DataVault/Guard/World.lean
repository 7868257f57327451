/-
Module: DataVault.Guard.World
Layer: Model
Purpose: What the guard services act on: the collections, the object store, and each database statement or
  transaction as one action (sensitive-data-guard/guard.worker.ts, guard.service.ts,
  guard-sanitization.service.ts, guard-access.service.ts, files/files.service.ts). A transaction takes effect at
  once, since it writes the job that it has read. A caller's `new Date()` may be older than the statement it is
  part of. Logs of claims, requeues, charges, copies, PUTs and cleanups are kept beside the collections.
Imports: DataVault.Control.Fallible, DataVault.Guard.Entities, Mathlib.Logic.Function.Basic
Trusted boundary: human-reviewed spec
Main exports: GuardConfig, GuardDb, GuardCommand, GuardDb.execute, GuardQuery, GuardDb.answer, GuardAct, GuardWorld,
  GuardChoice, guardExec, GuardDrift, guardDrift
-/
import DataVault.Control.Fallible
import DataVault.Guard.Entities
import Mathlib.Logic.Function.Basic

namespace DataVault.Guard

open DataVault.Control DataVault.Users

abbrev Bytes := List UInt8

/-- The settings. `sha256` hashes bytes, `findingsDigest` the JSON of a list of findings. -/
structure GuardConfig where
  limits : GuardLimits := {}
  runtime : GuardRuntimePolicy
  fileMaxSizeBytes : Nat
  sha256 : Bytes → Nat
  findingsDigest : List SafeFinding → Nat

/-! ### The database -/

/-- One claim of a job: the token and the document that it returned. -/
structure Lease where
  token : Nat
  job : GuardJob
deriving DecidableEq, Repr

/-- The collections. What follows `nextId` is not kept by the code: the claims, newest first, the jobs that
`recover` put back, the jobs that an upload was charged for, those that a file was created for, and the files
that were removed. -/
structure GuardDb where
  users : Nat → Option User := fun _ => none
  companies : Nat → Option CompanyStanding := fun _ => none
  files : Nat → Option CompanyFile := fun _ => none
  jobs : Nat → Option GuardJob := fun _ => none
  findings : List GuardFinding := []
  events : List GuardEvent := []
  nextId : Nat := 0
  leases : List Lease := []
  requeues : List Nat := []
  charges : List Nat := []
  copies : List Nat := []
  removed : List Nat := []

namespace GuardDb

variable (db : GuardDb)

/-- The jobs in the order of their ids. -/
def allJobs : List GuardJob := (List.range db.nextId).filterMap db.jobs

/-- `updateOne` by id: the document is replaced if it matches. -/
def setJob (job : GuardJob) : GuardDb := { db with jobs := Function.update db.jobs job.id (some job) }

def addEvent (job : GuardJob) (actorId : Nat) (action : GuardAction) : GuardDb :=
  { db with events := ⟨job.companyId, job.id, actorId, action⟩ :: db.events }

/-! #### Access -/

def userOf (userId companyId : Nat) : Option User :=
  (db.users userId).filter fun user => user.companyId = companyId

def companyInOrder (companyId : Nat) : Bool :=
  (db.companies companyId).any fun company => company.activated && !company.suspended

def accessibleFile (actor : AuthenticatedUser) (fileId : Nat) : Option CompanyFile :=
  (db.files fileId).filter (accessFilter actor)

/-- The condition of `assertLineage` on a file. -/
def lineage (actor : AuthenticatedUser) (file : CompanyFile) : Bool :=
  file.derivation.all fun derivation =>
    (db.accessibleFile actor derivation.sourceFileId).any fun source => source.derivation = none

/-- `resolve` in a transaction. -/
def resolve (userId companyId fileId : Nat) : Except GuardFailure AuthenticatedUser := do
  let user ← orFail (db.userOf userId companyId) (.notFound "Scan not found")
  require (db.companyInOrder companyId) (.notFound "Scan not found")
  let actor : AuthenticatedUser := ⟨userId, companyId, user.role⟩
  let file ← orFail (db.accessibleFile actor fileId) (.notFound "File not found")
  require (db.lineage actor file) (.notFound "File not found")
  pure actor

/-! #### Jobs -/

/-- `claim(job, token)`: the filter of the writes of a pass. -/
def claimed (job : GuardJob) (token : Nat) (now : Int) : Option GuardJob :=
  (db.jobs job.id).filter fun stored =>
    stored.companyId = job.companyId && stored.status = .processing && stored.active &&
      stored.leaseToken = some token && stored.leaseExpiresAt.any (now < ·)

/-- The queued job that was created first. -/
def firstQueued (sanitizationApproved : Bool) : Option GuardJob :=
  ((db.allJobs.filter fun job =>
    job.status = .queued && job.active && (sanitizationApproved || job.kind ≠ .sanitize)).insertionSort
      fun first second => first.createdAt ≤ second.createdAt).head?

/-- The filter of `recover`, with its limit. -/
def expired (sanitizationApproved : Bool) (now : Int) : List GuardJob :=
  (db.allJobs.filter fun job =>
    job.status = .processing && job.active && (sanitizationApproved || job.kind ≠ .sanitize) &&
      job.leaseExpiresAt.any (· ≤ now)).take 20

/-- `sort({ cleanupAfter: 1, _id: 1 })`; a missing date comes first. -/
def cleanupOrder (first second : GuardJob) : Bool :=
  match first.cleanupAfter, second.cleanupAfter with
  | none, none => first.id ≤ second.id
  | none, some _ => true
  | some _, none => false
  | some one, some other => one < other || (one = other && first.id ≤ second.id)

/-- The filter of `cleanup`, with its limit. -/
def pendingCleanup (now : Int) : List GuardJob :=
  ((db.allJobs.filter fun job =>
    job.kind = .sanitize && !job.active && (job.cleanupPending || job.status = .completed) &&
      job.cleanupAfter.all (· ≤ now)).insertionSort fun first second => cleanupOrder first second).take 1

def byIdentity (companyId requestedBy requestKey : Nat) : Option GuardJob :=
  db.allJobs.find? fun job =>
    job.companyId = companyId && job.requestedBy = requestedBy && job.requestKey = requestKey

/-- The jobs a company has created within a minute. -/
def recentJobs (companyId : Nat) (now : Int) : Nat :=
  db.allJobs.countP fun job => job.companyId = companyId && now - 60000 ≤ job.createdAt

/-- The unique indexes of `guardJob`: one job a request key, one active job a company. -/
def admits (companyId requestedBy requestKey : Nat) : Bool :=
  (db.byIdentity companyId requestedBy requestKey).isNone &&
    !db.allJobs.any fun job => job.companyId = companyId && job.active

/-- The unique indexes of `guardFinding` and of the storage keys of `companyFile`. -/
def ordinalFree (job : GuardJob) (ordinal : Nat) : Bool :=
  !db.findings.any fun row => row.companyId = job.companyId && row.jobId = job.id && row.finding.ordinal = ordinal

def keyFree (key : StorageKey) : Bool :=
  (List.range db.nextId).all fun id => (db.files id).all (·.storageKey ≠ key)

def findingsOf (companyId jobId : Nat) : List GuardFinding :=
  (db.findings.filter fun row => row.companyId = companyId && row.jobId = jobId).insertionSort
    fun first second => first.finding.ordinal ≤ second.finding.ordinal

end GuardDb

/-! ### Statements and transactions -/

/-- The writes of the database. A pass acts on the document that it holds in memory; its token is its number. -/
inductive GuardCommand where
  | createScan (actor : AuthenticatedUser) (fileId requestKey : Nat) (categories : List Category)
      (phoneRegion : Option String)
  | createCopy (actor : AuthenticatedUser) (scan : GuardJob) (requestKey : Nat) (selection : RedactionSelection)
  | claimNext
  | setPhase (job : GuardJob) (phase : GuardPhase)
  | publish (job : GuardJob) (result : ScanResult) (digest : Nat)
  | terminal (job : GuardJob) (errorCode : GuardErrorCode)
  | recoverJob (expired : GuardJob)
  | cancel (actor : AuthenticatedUser) (job : GuardJob)
  | recordOutput (job : GuardJob) (outputDigest : Nat)
  | publishCopy (job : GuardJob) (actor : AuthenticatedUser) (size redactedCells : Nat)
  | postponeCleanup (job : GuardJob)
  | tombstone (file : CompanyFile) (derivation : FileDerivation)
  | deleteFile (actor : AuthenticatedUser) (file : CompanyFile)

abbrev GuardCommand.Res : GuardCommand → Type
  | .createScan .. | .createCopy .. => GuardJob
  | .claimNext => Option GuardJob
  | .recordOutput .. => AuthenticatedUser
  | .deleteFile .. => Bool
  | _ => Unit

/-- The instants of the `new Date()` of a statement and, within a transaction, of a second one; and what
`recordFileUploads` answers. -/
structure Moment where
  now : Int
  later : Int
  quota : Except GuardFailure Unit

/-- The unset fields of a lease. -/
def GuardJob.unlease (job : GuardJob) : GuardJob := { job with leaseToken := none, leaseExpiresAt := none }

namespace GuardJob

variable (job : GuardJob)

/-- The claim of `run`. -/
def takeLease (token : Nat) (now : Int) (leaseMs : Nat) : GuardJob :=
  { job with
    status := .processing
    phase := .fetching
    leaseToken := some token
    leaseExpiresAt := some (now + leaseMs)
    startedAt := some now
    attempts := job.attempts + 1 }

/-- The final writes of a job. -/
def fail (errorCode : GuardErrorCode) (now : Int) : GuardJob :=
  { job.unlease with
    status := .failed
    phase := .failed
    active := false
    errorCode := some errorCode
    finishedAt := some now }

def cancel (now : Int) : GuardJob :=
  { job.unlease with status := .cancelled, phase := .cancelled, active := false, finishedAt := some now }

def completeScan (result : ScanResult) (digest : Nat) (now : Int) : GuardJob :=
  { job.unlease with
    status := .completed
    phase := .completed
    active := false
    finishedAt := some now
    processedCells := result.processedCells
    findingCount := result.findings.length
    sheets := result.sheets
    compatibilityFlags := result.compatibilityFlags
    coverage := some result.coverage
    sourceDigest := some digest }

def completeCopy (redactedCells : Nat) (now : Int) : GuardJob :=
  { job.unlease with
    status := .completed
    phase := .completed
    active := false
    cleanupPending := false
    finishedAt := some now
    redactedCells := redactedCells
    coverage := some .limited }

def requeue : GuardJob := { job.unlease with status := .queued, phase := .queued }

end GuardJob

namespace GuardDb

variable (db : GuardDb)

/-- A new scan. -/
def newScan (actor : AuthenticatedUser) (fileId requestKey : Nat) (categories : List Category)
    (phoneRegion : Option String) (now : Int) : GuardJob where
  id := db.nextId
  companyId := actor.companyId
  requestedBy := actor.id
  sourceFileId := fileId
  requestKey := requestKey
  fingerprint := .scan fileId (sortCategories categories) phoneRegion
  categories := sortCategories categories
  phoneRegion := phoneRegion
  createdAt := now

/-- A new sanitization; the id of its result follows its own. -/
def newCopy (actor : AuthenticatedUser) (scan : GuardJob) (requestKey : Nat) (selection : RedactionSelection)
    (sourceDigest : Nat) (now : Int) : GuardJob where
  id := db.nextId
  kind := .sanitize
  scanId := some scan.id
  columns := selection.columns
  resultFileId := some (db.nextId + 1)
  outputStorageKey := some (.guardCopy actor.companyId db.nextId)
  companyId := actor.companyId
  requestedBy := actor.id
  sourceFileId := scan.sourceFileId
  requestKey := requestKey
  fingerprint := .copy scan.id selection
  categories := selection.categories
  engineVersion := .plainOoxmlRedactionV1
  createdAt := now
  sourceDigest := some sourceDigest

/-- `create` of a job and its first event. -/
def insertJob (job : GuardJob) : Except GuardFailure (GuardJob × GuardDb) := do
  require (db.admits job.companyId job.requestedBy job.requestKey) .duplicateKey
  pure (job, GuardDb.addEvent { db.setJob job with nextId := db.nextId + 2 } job job.requestedBy .queued)

/-- The row of a sanitized copy. -/
def copyRow (job : GuardJob) (actor : AuthenticatedUser) (fileId : Nat) (key : StorageKey) (size : Nat) :
    CompanyFile where
  id := fileId
  companyId := actor.companyId
  uploaderId := actor.id
  storageKey := key
  fileType := .xlsx
  size := size
  visibility := some .restricted
  restrictedUserIds := [actor.id]
  derivation := some ⟨job.sourceFileId, job.id⟩

/-- `publishGuardCopy`: the id of the created row. -/
def publishGuardCopy (config : GuardConfig) (moment : Moment) (job : GuardJob) (actor : AuthenticatedUser)
    (size : Nat) : Except GuardFailure (Nat × GuardDb) := do
  let source ← orFail (db.accessibleFile actor job.sourceFileId) (.notFound "File not found")
  require (source.derivation = none) (.notFound "File not found")
  require (size ≤ config.fileMaxSizeBytes) (.badRequest "guard_limit_exceeded")
  moment.quota
  let fileId ← orFail job.resultFileId .database
  let key ← orFail job.outputStorageKey .database
  require ((db.files fileId).isNone && db.keyFree key) .duplicateKey
  pure (fileId,
    { db with
      files := Function.update db.files fileId (some (copyRow job actor fileId key size))
      charges := job.id :: db.charges
      copies := job.id :: db.copies })

/-- The effect of a command of the pass or request `run`; an error leaves the database as it was. -/
def execute (config : GuardConfig) (run : Nat) (moment : Moment) :
    (command : GuardCommand) → Except GuardFailure (command.Res × GuardDb)
  | .createScan actor fileId requestKey categories phoneRegion => do
      let _ ← db.resolve actor.id actor.companyId fileId
      require (db.recentJobs actor.companyId moment.now < 10) (.http "guard_rate_limited" 429)
      db.insertJob (db.newScan actor fileId requestKey categories phoneRegion moment.later)
  | .createCopy actor scan requestKey selection => do
      let _ ← db.resolve actor.id actor.companyId scan.sourceFileId
      let current := (db.jobs scan.id).filter fun stored =>
        stored.companyId = actor.companyId && stored.requestedBy = actor.id && stored.status = .completed
      let sourceDigest ← orFail (current.bind (·.sourceDigest)) (.conflict "guard_scan_not_eligible")
      require (db.recentJobs actor.companyId moment.now < 10) (.conflict "guard_rate_limited")
      db.insertJob (db.newCopy actor scan requestKey selection sourceDigest moment.later)
  | .claimNext =>
      match db.firstQueued config.runtime.sanitizationApproved with
      | none => .ok (none, db)
      | some job =>
          let taken := job.takeLease run moment.now config.limits.leaseMs
          .ok (some taken, { db.setJob taken with leases := ⟨run, taken⟩ :: db.leases })
  | .setPhase job phase =>
      match db.claimed job run moment.now with
      | none => .ok ((), db)
      | some stored => .ok ((), db.setJob { stored with phase := phase })
  | .publish job result digest =>
      match db.claimed job run moment.now with
      | none => .ok ((), db)
      | some stored => do
          let _ ← db.resolve job.requestedBy job.companyId job.sourceFileId
          require (result.findings.all fun finding => db.ordinalFree job finding.ordinal) .duplicateKey
          let rows := result.findings.map fun finding => GuardFinding.mk job.companyId job.id run finding
          let done := stored.completeScan result digest moment.later
          pure ((), GuardDb.addEvent { db.setJob done with findings := rows ++ db.findings } job job.requestedBy
            .completed)
  | .terminal job errorCode =>
      match db.claimed job run moment.now with
      | none => .ok ((), db)
      | some stored =>
          .ok ((), (db.setJob (stored.fail errorCode moment.later)).addEvent job job.requestedBy .failed)
  | .recoverJob expired =>
      let current := (db.jobs expired.id).filter fun stored =>
        stored.companyId = expired.companyId && stored.status = .processing &&
          stored.leaseToken = expired.leaseToken && stored.leaseExpiresAt.any (· ≤ moment.now)
      match current with
      | none => .ok ((), db)
      | some stored =>
          if expired.attempts ≥ 3 then
            .ok ((), (db.setJob (stored.fail .timeout moment.later)).addEvent expired expired.requestedBy .failed)
          else
            .ok ((), { (db.setJob stored.requeue).addEvent expired expired.requestedBy .queued with
              requeues := expired.id :: db.requeues })
  | .cancel actor job => do
      let _ ← db.resolve actor.id actor.companyId job.sourceFileId
      let current := (db.jobs job.id).filter fun stored =>
        stored.companyId = actor.companyId && stored.requestedBy = actor.id && stored.active
      match current with
      | none => pure ((), db)
      | some stored => pure ((), (db.setJob (stored.cancel moment.now)).addEvent stored actor.id .cancelled)
  | .recordOutput job outputDigest => do
      let stored ← orFail (db.claimed job run moment.now) (.scanError .accessRevoked)
      require (job.outputDigest.all (· = outputDigest)) (.scanError .outputVerificationFailed)
      let actor ← db.resolve job.requestedBy job.companyId job.sourceFileId
      pure (actor, db.setJob
        { stored with phase := .publishing, cleanupPending := true, outputDigest := some outputDigest })
  | .publishCopy job actor size redactedCells => do
      let _ ← orFail (db.claimed job run moment.now) (.scanError .accessRevoked)
      let liveActor ← db.resolve actor.id actor.companyId job.sourceFileId
      let (_, published) ← db.publishGuardCopy config moment job liveActor size
      let stored ← orFail (db.claimed job run moment.later) (.scanError .accessRevoked)
      pure ((), (published.setJob (stored.completeCopy redactedCells moment.later)).addEvent job job.requestedBy
        .completed)
  | .postponeCleanup job =>
      match (db.jobs job.id).filter fun stored => !stored.active with
      | none => .ok ((), db)
      | some stored => .ok ((), db.setJob { stored with cleanupAfter := some (moment.now + 30000) })
  | .tombstone file derivation =>
      let current := (db.jobs derivation.jobId).filter fun stored =>
        stored.companyId = file.companyId && stored.resultFileId = some file.id
      match current with
      | none => .ok ((), db)
      | some stored =>
          .ok ((), db.setJob { stored with cleanupPending := true, cleanupAfter := some moment.now })
  | .deleteFile actor file =>
      match (db.files file.id).filter fun stored =>
        stored.companyId = actor.companyId && stored.storageKey = file.storageKey with
      | none => .ok (false, db)
      | some _ => .ok (true, { db with
          files := Function.update db.files file.id none
          removed := file.id :: db.removed })

end GuardDb

/-! ### Reads -/

inductive GuardQuery where
  | user (userId companyId : Nat)
  | company (companyId : Nat)
  | accessibleFile (actor : AuthenticatedUser) (fileId : Nat)
  | lineage (actor : AuthenticatedUser) (file : CompanyFile)
  | byIdentity (companyId requestedBy requestKey : Nat)
  | recentJobs (companyId : Nat)
  | authorizedJob (actor : AuthenticatedUser) (id : Nat)
  | claimed (job : GuardJob)
  | expired
  | pendingCleanup
  | copyExists (companyId fileId : Nat)
  | completedScan (job : GuardJob)
  | findingsOf (companyId jobId : Nat)

abbrev GuardQuery.Res : GuardQuery → Type
  | .user .. => Option User
  | .company _ => Bool
  | .accessibleFile .. => Option CompanyFile
  | .lineage .. => Bool
  | .byIdentity .. => Option GuardJob
  | .recentJobs _ => Nat
  | .authorizedJob .. => Option GuardJob
  | .claimed _ => Bool
  | .expired => List GuardJob
  | .pendingCleanup => List GuardJob
  | .copyExists .. => Option CompanyFile
  | .completedScan _ => Option GuardJob
  | .findingsOf .. => List GuardFinding

/-- The answer of a query to `run`. -/
def GuardDb.answer (db : GuardDb) (config : GuardConfig) (run : Nat) (now : Int) : (query : GuardQuery) → query.Res
  | .user userId companyId => db.userOf userId companyId
  | .company companyId => db.companyInOrder companyId
  | .accessibleFile actor fileId => db.accessibleFile actor fileId
  | .lineage actor file => db.lineage actor file
  | .byIdentity companyId requestedBy requestKey => db.byIdentity companyId requestedBy requestKey
  | .recentJobs companyId => db.recentJobs companyId now
  | .authorizedJob actor id =>
      (db.jobs id).filter fun job => job.companyId = actor.companyId && job.requestedBy = actor.id
  | .claimed job => (db.claimed job run now).isSome
  | .expired => db.expired config.runtime.sanitizationApproved now
  | .pendingCleanup => db.pendingCleanup now
  | .copyExists companyId fileId => (db.files fileId).filter fun file => file.companyId = companyId
  | .completedScan job =>
      job.scanId.bind fun scanId => (db.jobs scanId).filter fun scan =>
        scan.companyId = job.companyId && scan.requestedBy = job.requestedBy && scan.status = .completed
  | .findingsOf companyId jobId => (db.findingsOf companyId jobId).take (config.limits.findings + 1)

/-! ### Actions -/

/-- What a scan child answers, before the runner has checked it. -/
structure ScanResponse where
  findings : List SafeFinding
  processedCells : Nat
  sheets : Nat
  compatibilityFlags : List CompatibilityFlag
  coverage : Coverage
deriving DecidableEq, Repr

/-- What a sanitizing child answers, before the runner has checked it. -/
structure SanitizationResponse where
  output : Bytes
  redactedCells : Nat
  outputDigest : Nat
deriving DecidableEq, Repr

/-- `SanitizationOptions`. -/
structure SanitizationOptions where
  selection : RedactionSelection
  categories : List Category
  phoneRegion : Option String
  findingsDigest : Nat
deriving DecidableEq, Repr

/-- The actions of a handler. `aborted` reads the signal that the heartbeat may abort at any time; a PUT belongs
to a job, a deletion belongs to a job where `cleanup` issues it. -/
inductive GuardAct where
  | query (query : GuardQuery)
  | command (command : GuardCommand)
  | aborted
  | download (actor : AuthenticatedUser) (fileId : Nat)
  | scan (bytes : Bytes) (categories : List Category) (phoneRegion : Option String)
  | sanitize (bytes : Bytes) (options : SanitizationOptions)
  | putObject (job : Nat) (key : StorageKey) (body : Bytes)
  | deleteObject (cleanup : Option Nat) (key : StorageKey)

abbrev GuardAct.Res : GuardAct → Type
  | .query read => Except GuardFailure read.Res
  | .command write => Except GuardFailure write.Res
  | .aborted => Bool
  | .download .. => Except GuardFailure Bytes
  | .scan .. => Except GuardFailure ScanResponse
  | .sanitize .. => Except GuardFailure SanitizationResponse
  | .putObject .. => Except GuardFailure Unit
  | .deleteObject .. => Except GuardFailure Unit

/-- A request that the object store has not applied yet. -/
inductive StorageRequest where
  | put (key : StorageKey) (body : Bytes)
  | delete (key : StorageKey)
deriving DecidableEq, Repr

/-- A PUT as it was issued. -/
structure IssuedPut where
  job : Nat
  key : StorageKey
  body : Bytes
deriving DecidableEq, Repr

/-- A deletion as `cleanup` issued it. -/
structure IssuedCleanup where
  job : Nat
  key : StorageKey
deriving DecidableEq, Repr

/-- The world; `puts` and `cleanups` are logs that nothing reads. -/
structure GuardWorld where
  clock : Int := 0
  db : GuardDb := {}
  objects : StorageKey → Option Bytes := fun _ => none
  pending : List StorageRequest := []
  puts : List IssuedPut := []
  cleanups : List IssuedCleanup := []

namespace GuardWorld

variable (w : GuardWorld)

/-- The object store applies a request. -/
def apply : StorageRequest → GuardWorld
  | .put key body => { w with objects := Function.update w.objects key (some body) }
  | .delete key => { w with objects := Function.update w.objects key none }

@[simp] theorem apply_db (request : StorageRequest) : (w.apply request).db = w.db := by cases request <;> rfl

@[simp] theorem apply_puts (request : StorageRequest) : (w.apply request).puts = w.puts := by cases request <;> rfl

@[simp] theorem apply_cleanups (request : StorageRequest) : (w.apply request).cleanups = w.cleanups := by
  cases request <;> rfl

end GuardWorld

/-- Whether the answer of an action arrives, is lost after the effect, or the action has not taken effect when
the caller gives up. -/
inductive GuardFate where
  | delivered
  | lostAfter
  | lostBefore
deriving DecidableEq, Repr, Inhabited

/-- What the environment contributes to an action: its fate; how old the caller's `new Date()` is and how long
the transaction takes; whether the signal is aborted; the failure of a request to the object store; and the answers
of the quota, the download and the child. -/
structure GuardChoice where
  fate : GuardFate := .delivered
  stale : Nat := 0
  elapsed : Nat := 0
  aborted : Bool := false
  quota : Except GuardFailure Unit := .ok ()
  storage : GuardFailure := .storage
  download : Except GuardFailure Bytes := .ok []
  scan : Except GuardFailure ScanResponse := .error (.scanError .workerUnavailable)
  sanitize : Except GuardFailure SanitizationResponse := .error (.scanError .workerUnavailable)

namespace GuardWorld

variable (w : GuardWorld) (choice : GuardChoice)

/-- The times of an action. -/
def moment : Moment where
  now := w.clock - choice.stale
  later := w.clock - choice.stale + choice.elapsed
  quota := choice.quota

/-- A command that fails writes nothing; a lost answer may hide a write. -/
def runCommand (config : GuardConfig) (run : Nat) (command : GuardCommand) :
    Except GuardFailure command.Res × GuardWorld :=
  match w.db.execute config run (w.moment choice) command with
  | .error failure => (.error failure, w)
  | .ok (answer, db) =>
      match choice.fate with
      | .delivered => (.ok answer, { w with db := db })
      | .lostAfter => (.error .database, { w with db := db })
      | .lostBefore => (.error .database, w)

/-- A request to the object store; one that is given up stays pending. -/
def request (request : StorageRequest) : Except GuardFailure Unit × GuardWorld :=
  match choice.fate with
  | .delivered => (.ok (), w.apply request)
  | .lostAfter => (.error choice.storage, w.apply request)
  | .lostBefore => (.error choice.storage, { w with pending := request :: w.pending })

@[simp] theorem request_db (asked : StorageRequest) : (w.request choice asked).2.db = w.db := by
  unfold request
  split <;> simp

@[simp] theorem request_puts (asked : StorageRequest) : (w.request choice asked).2.puts = w.puts := by
  unfold request
  split <;> simp

@[simp] theorem request_cleanups (asked : StorageRequest) : (w.request choice asked).2.cleanups = w.cleanups := by
  unfold request
  split <;> simp

end GuardWorld

/-- The claim would take a token that was taken before, which a random UUID rules out. -/
def GuardWorld.repeatsToken (w : GuardWorld) (run : Nat) : GuardCommand → Bool
  | .claimNext => w.db.leases.any fun lease => lease.token = run
  | _ => false

/-- The effect of one action of `run`. -/
def guardExec (config : GuardConfig) (run : Nat) (choice : GuardChoice) : (act : GuardAct) → GuardWorld →
    Option (act.Res × GuardWorld)
  | .query query, w =>
      some (if choice.fate = .delivered then .ok (w.db.answer config run (w.moment choice).now query)
        else .error .database, w)
  | .command command, w =>
      if w.repeatsToken run command then none else some (w.runCommand choice config run command)
  | .aborted, w => some (choice.aborted, w)
  | .download .., w => some (choice.download, w)
  | .scan .., w => some (choice.scan, w)
  | .sanitize .., w => some (choice.sanitize, w)
  | .putObject job key body, w =>
      some ({ w with puts := ⟨job, key, body⟩ :: w.puts }.request choice (.put key body))
  | .deleteObject none key, w => some (w.request choice (.delete key))
  | .deleteObject (some job) key, w =>
      some ({ w with cleanups := ⟨job, key⟩ :: w.cleanups }.request choice (.delete key))

/-! ### The environment -/

/-- What happens beside the handlers: time passes; users and companies change; a file is uploaded; the permissions
of a file that is no copy change; a pending request reaches the object store, or never does. -/
inductive GuardDrift where
  | tick (elapsed : Nat)
  | user (id : Nat) (user : Option User)
  | company (id : Nat) (standing : Option CompanyStanding)
  | upload (companyId uploaderId uuid size : Nat) (fileType : CompanyFileType)
  | permissions (fileId : Nat) (visibility : CompanyFileVisibility) (restrictedUserIds : List Nat)
  | land (position : Nat)
  | drop (position : Nat)

def guardDrift : GuardDrift → GuardWorld → Option GuardWorld
  | .tick elapsed, w => some { w with clock := w.clock + elapsed }
  | .user id user, w => some { w with db.users := Function.update w.db.users id user }
  | .company id standing, w => some { w with db.companies := Function.update w.db.companies id standing }
  | .upload companyId uploaderId uuid size fileType, w =>
      let file : CompanyFile :=
        { id := w.db.nextId
          companyId := companyId
          uploaderId := uploaderId
          storageKey := .upload companyId uuid
          fileType := fileType
          size := size }
      some { w with
        db.files := Function.update w.db.files file.id (some file)
        db.nextId := w.db.nextId + 2 }
  | .permissions fileId visibility restrictedUserIds, w =>
      match (w.db.files fileId).filter fun file => file.derivation = none with
      | none => none
      | some file => some { w with
          db.files := Function.update w.db.files fileId
            (some { file with visibility := some visibility, restrictedUserIds := restrictedUserIds }) }
  | .land position, w =>
      match w.pending[position]? with
      | none => none
      | some request => some ({ w with pending := w.pending.eraseIdx position }.apply request)
  | .drop position, w => some { w with pending := w.pending.eraseIdx position }

end DataVault.Guard
