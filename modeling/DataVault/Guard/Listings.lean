/-
Module: DataVault.Guard.Listings
Layer: Model
Purpose: The listings of the guard and what they show of a job, a finding and a published copy (`list`, `listFindings`
  and `publicJob` of sensitive-data-guard/guard.service.ts, `history` of guard-sanitization.service.ts), on one state of
  the collections. Ids are sent as the text of an object id.
Imports: DataVault.Guard.World, DataVault.Store.CursorPages, DataVault.Text.Hex
Trusted boundary: human-reviewed spec
Main exports: objectIdText, PublicJob, publicJob, GuardDb.list, GuardDb.listFindings, GuardDb.history
-/
import DataVault.Guard.World
import DataVault.Store.CursorPages
import DataVault.Text.Hex

namespace DataVault.Guard

open DataVault.Control DataVault.Store DataVault.Text.Hex DataVault.Users

/-! ### Texts of ids -/

/-- `toString` of an object id -/
def objectIdText (id : Nat) : String := String.ofList (toHex 24 id)

/-- The id that a filter casts a text to; another text is no cast. -/
def castObjectId (text : String) : Except GuardFailure Nat :=
  orFail (if text.toList.length = 24 then fromHex text.toList else none) .database

/-- `query.after ? { _id: { $lt: query.after } } : {}`: whether a job passes. An empty text is no cursor. -/
def beforeCursor (after : Option String) : Except GuardFailure (GuardJob → Bool) :=
  match after with
  | none => .ok fun _ => true
  | some text => if text.isEmpty then .ok fun _ => true else do
      let id ← castObjectId text
      pure fun job => job.id < id

/-! ### What is shown -/

/-- An entry of `copies`. -/
structure CopyEntry where
  jobId : String
  fileId : String
  strategyVersion : EngineVersion
  createdAt : Option Int
deriving DecidableEq, Repr

/-! ### The requests -/

/-- `GuardJobsQueryDto`, which `history` takes as well. -/
structure GuardJobsQuery where
  limit : Nat := 20
  after : Option String := none
  requestKey : Option Nat := none
deriving DecidableEq, Repr

namespace GuardDb

variable (db : GuardDb)

/-- `{ companyId, requestedBy, sourceFileId, requestKey? }` -/
def ownJob (actor : AuthenticatedUser) (fileId : Nat) (requestKey : Option Nat) (job : GuardJob) : Bool :=
  job.companyId = actor.companyId && job.requestedBy = actor.id && job.sourceFileId = fileId &&
    requestKey.all (job.requestKey = ·)

/-- `sort({ _id: -1 })` -/
def newestJobs (filter : GuardJob → Bool) : List GuardJob :=
  sortBy (fun job => OrderDual.toDual job.id) (db.allJobs.filter filter)

/-- `authorized` on one state of the collections. -/
def authorizedJob (actor : AuthenticatedUser) (id : Nat) : Except GuardFailure GuardJob := do
  let job ← orFail ((db.jobs id).filter fun job => job.companyId = actor.companyId && job.requestedBy = actor.id)
    (.notFound "Scan not found")
  let _ ← (db.resolve actor.id actor.companyId job.sourceFileId).mapError fun _ => .notFound "Scan not found"
  pure job

/-- `guardCopyExists` -/
def guardCopyExists (companyId fileId : Nat) : Bool := (db.files fileId).any fun file => file.companyId = companyId

/-- What `history` shows of a job: nothing where its copy is gone. -/
def copyEntry (actor : AuthenticatedUser) (job : GuardJob) : Option CopyEntry := do
  let fileId ← job.resultFileId
  if db.guardCopyExists actor.companyId fileId then
    some ⟨objectIdText job.id, objectIdText fileId, job.engineVersion, job.finishedAt⟩
  else none

def history (actor : AuthenticatedUser) (sourceId : Nat) (query : GuardJobsQuery) :
    Except GuardFailure (Page CopyEntry String) := do
  let _ ← db.resolve actor.id actor.companyId sourceId
  let passes ← beforeCursor query.after
  let jobs := (db.newestJobs fun job =>
    ownJob actor sourceId query.requestKey job && job.kind = .sanitize && job.status = .completed &&
      passes job).take (query.limit + 1)
  pure (lookAhead query.limit (objectIdText ·.id) (db.copyEntry actor) jobs)

end GuardDb

end DataVault.Guard
