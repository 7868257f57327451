/-
Module: DataVault.Guard.Replay
Layer: Proof
Purpose: What a submission does whose request key a stored job already answers to. It executes queries only, so that
  it changes nothing; it returns that job only for the same canonical request; and as long as its source stays
  eligible it returns it then, and is rejected with a conflict otherwise.
Imports: DataVault.Guard.ServiceMeets, DataVault.Interleaving.Guided
Trusted boundary: none
Main exports: Submission, Standing, Truthful, Answers, replay_guided
-/
import DataVault.Guard.ServiceMeets
import DataVault.Interleaving.Guided

namespace DataVault.Guard

open DataVault.Control DataVault.Interleaving DataVault.Users

/-! ### Submissions -/

/-- The two requests that create jobs. -/
inductive Submission where
  | scan (actor : AuthenticatedUser) (fileId : Nat) (dto : GuardScanDto)
  | copy (actor : AuthenticatedUser) (scanId : Nat) (dto : GuardRedactDto)

namespace Submission

def job : Submission → GuardRequestJob
  | .scan actor fileId dto => .submitScan actor fileId dto
  | .copy actor scanId dto => .submitCopy actor scanId dto

def actor : Submission → AuthenticatedUser
  | .scan actor .. | .copy actor .. => actor

def requestKey : Submission → Nat
  | .scan _ _ dto => dto.requestKey
  | .copy _ _ dto => dto.requestKey

/-- The canonical request: what the fingerprint is computed from. -/
def canonical : Submission → Fingerprint
  | .scan _ fileId dto => .scan fileId (sortCategories dto.categories) dto.phoneRegion
  | .copy _ scanId dto => .copy scanId dto.selection

/-- The request key of the submission is that of a stored request. -/
def Repeats (submission : Submission) (request : GuardRequest) : Prop :=
  request.companyId = submission.actor.companyId ∧ request.requestedBy = submission.actor.id ∧
    request.requestKey = submission.requestKey

end Submission

/-! ### Eligibility -/

/-- What an eligible source fixes: the role its requester is stored with, and of the file what never changes. -/
structure Standing where
  role : Role
  fileId : Nat
  derivation : Option FileDerivation
  fileType : CompanyFileType
  size : Nat

/-- The requester under a role. -/
def Submission.as (submission : Submission) (role : Role) : AuthenticatedUser :=
  ⟨submission.actor.id, submission.actor.companyId, role⟩

/-- The file of a standing. -/
def Standing.Describes (standing : Standing) (file : CompanyFile) : Prop :=
  file.derivation = standing.derivation ∧ file.fileType = standing.fileType ∧ file.size = standing.size

/-- The requester and the company are in order, and the requester can reach the file, under the role of the token and
under the stored one. -/
structure Standing.Holds (standing : Standing) (submission : Submission) (db : GuardDb) : Prop where
  user : ∃ user, db.userOf submission.actor.id submission.actor.companyId = some user ∧ user.role = standing.role
  company : db.companyInOrder submission.actor.companyId = true
  file : ∀ role, role = standing.role ∨ role = submission.actor.role →
    ∃ file, db.accessibleFile (submission.as role) standing.fileId = some file ∧ standing.Describes file ∧
      db.lineage (submission.as role) file = true

/-- A completed scan of the requester that a copy may be made of. -/
structure EligibleScan (submission : Submission) (standing : Standing) (scanId : Nat) (scan : GuardJob) : Prop where
  id : scan.id = scanId
  company : scan.companyId = submission.actor.companyId
  requester : scan.requestedBy = submission.actor.id
  kind : scan.kind ≠ .sanitize
  completed : scan.status = .completed
  engine : scan.engineVersion = .ooxmlScanV1
  source : scan.sourceFileId = standing.fileId

/-- The submission may be made: its source is eligible and the runtime is approved. -/
def Submission.Eligible (config : GuardConfig) (standing : Standing) (db : GuardDb) : Submission → Prop
  | .scan actor fileId dto =>
      standing.Holds (.scan actor fileId dto) db ∧ standing.fileId = fileId ∧ standing.fileType = .xlsx ∧
        standing.size ≤ config.limits.compressedBytes ∧ config.runtime.isolationApproved = true
  | .copy actor scanId dto =>
      standing.Holds (.copy actor scanId dto) db ∧ standing.derivation = none ∧ standing.fileType = .xlsx ∧
        config.runtime.isolationApproved = true ∧ config.runtime.sanitizationApproved = true ∧
        ∃ scan, db.jobs scanId = some scan ∧ EligibleScan (.copy actor scanId dto) standing scanId scan

/-! ### The answers a replayed submission gets -/

section Replayed

variable (submission : Submission) (request : GuardRequest) (standing : Standing) (C : Prop)

/-- What a query that is answered says: always that the stored request answers to the key, and under `C` that the
source is eligible. -/
def Truthful : (read : GuardQuery) → read.Res → Prop
  | .byIdentity companyId requestedBy requestKey, found =>
      request.companyId = companyId → request.requestedBy = requestedBy → request.requestKey = requestKey →
        ∃ job, found = some job ∧ job.toGuardRequest = request
  | .user userId companyId, found =>
      C → userId = submission.actor.id → companyId = submission.actor.companyId →
        ∃ user, found = some user ∧ user.role = standing.role
  | .company companyId, found => C → companyId = submission.actor.companyId → found = true
  | .accessibleFile actor fileId, found =>
      C → ∀ role, role = standing.role ∨ role = submission.actor.role → actor = submission.as role →
        fileId = standing.fileId → ∃ file, found = some file ∧ standing.Describes file
  | .lineage actor file, found =>
      C → ∀ role, role = standing.role ∨ role = submission.actor.role → actor = submission.as role →
        standing.Describes file → found = true
  | .authorizedJob actor id, found =>
      (∀ scan, found = some scan → scan.id = id) ∧
        (C → ∀ scanId dto, submission = .copy actor scanId dto → id = scanId →
          ∃ scan, found = some scan ∧ EligibleScan submission standing scanId scan ∧
            (submission.canonical = request.fingerprint → selectionInvalid scan dto.selection = false))
  | _, _ => True

/-- A query fails, which `C` excludes, or it is answered. -/
def Answers : (act : GuardAct) → act.Res → Prop
  | .query read, answer =>
      answer = .error .database ∧ ¬ C ∨ ∃ value, answer = .ok value ∧ Truthful submission request standing C read value
  | _, _ => True

/-- The process only queries, and its outcome satisfies `Q` or `E`. -/
abbrev Replaying {α : Type} (program : GuardHandler α) (Q : α → Prop) (E : GuardFailure → Prop) : Prop :=
  Process.Guided (Answers submission request standing C) IsQuery (Process.Outcome Q E) program.run

end Replayed

section Walk

variable {submission : Submission} {request : GuardRequest} {standing : Standing} {C : Prop}
variable {α : Type} {E : GuardFailure → Prop}
variable (early : ∀ failure, ¬ C → failure ≠ .conflict "guard_request_conflict" → E failure)
include early

theorem replaying_query (read : GuardQuery) :
    Replaying submission request standing C (query read) (Truthful submission request standing C read) E := by
  refine Process.guided_call ⟨read, rfl⟩ fun answer given => ?_
  rcases given with ⟨rfl, failing⟩ | ⟨value, rfl, truthful⟩
  · exact early .database failing nofun
  · exact truthful

/-- A check that an eligible source passes. -/
theorem replaying_require {condition : Bool} {failure : GuardFailure} (passes : C → condition = true)
    (other : failure ≠ .conflict "guard_request_conflict") :
    Replaying submission request standing C (check (require condition failure)) (fun _ => condition = true) E := by
  refine Process.guided_liftExcept ?_ ?_
  · intro _ passed
    exact require_ok_iff.mp passed
  · intro failed raised
    cases condition with
    | true => cases raised
    | false =>
        cases raised
        exact early failure (fun eligible => Bool.false_ne_true (passes eligible)) other

/-- A value that an eligible source has. -/
theorem replaying_orFail {found : Option α} {failure : GuardFailure} {Q : α → Prop}
    (present : C → ∃ value, found = some value ∧ Q value) (other : failure ≠ .conflict "guard_request_conflict") :
    Replaying submission request standing C (check (orFail found failure)) (fun value => C → Q value) E := by
  refine Process.guided_liftExcept ?_ ?_
  · intro value some_value eligible
    obtain ⟨value', same, holds⟩ := present eligible
    rw [orFail_ok_iff, same] at some_value
    cases some_value
    exact holds
  · intro failed raised
    cases found with
    | some value => cases raised
    | none =>
        cases raised
        refine early failure (fun eligible => ?_) other
        obtain ⟨_, same, _⟩ := present eligible
        cases same

theorem replaying_processingSource {actor : AuthenticatedUser} {fileId : Nat}
    (own : C → fileId = standing.fileId ∧
      ∃ role, (role = standing.role ∨ role = submission.actor.role) ∧ actor = submission.as role) :
    Replaying submission request standing C (processingSource actor fileId)
      (fun file => C → standing.Describes file) E := by
  refine Process.guided_bind (replaying_query early (.accessibleFile actor fileId)) fun found reached => ?_
  refine Process.guided_bind (replaying_orFail early (Q := standing.Describes) ?_ nofun) fun file described => ?_
  · intro eligible
    obtain ⟨same, role, known, seen⟩ := own eligible
    exact reached eligible role known seen same
  · split
    · exact Process.guided_pure described
    · refine Process.guided_bind (replaying_query early (.lineage actor file)) fun original lineage => ?_
      refine Process.guided_bind (replaying_require early ?_ nofun) fun _ _ => Process.guided_pure described
      intro eligible
      obtain ⟨_, role, known, seen⟩ := own eligible
      exact lineage eligible role known seen (described eligible)

theorem replaying_resolve {fileId : Nat} (own : C → fileId = standing.fileId) :
    Replaying submission request standing C (resolve submission.actor.id submission.actor.companyId fileId)
      (fun _ => True) E := by
  refine Process.guided_bind (replaying_query early (.user _ _)) fun found stored => ?_
  refine Process.guided_bind (replaying_query early (.company _)) fun standing' inOrder => ?_
  refine Process.guided_bind (replaying_orFail early (Q := fun user => user.role = standing.role) ?_ nofun)
    fun user role => ?_
  · intro eligible
    exact stored eligible rfl rfl
  refine Process.guided_bind (replaying_require early ?_ nofun) fun _ _ => ?_
  · intro eligible
    exact inOrder eligible rfl
  refine Process.guided_bind (replaying_processingSource early ?_) fun _ _ => Process.guided_pure trivial
  intro eligible
  exact ⟨own eligible, user.role, .inl (role eligible), rfl⟩

/-- The scan that a copy is made of; every failure of its access check reads as a missing scan. -/
theorem replaying_authorized {actor : AuthenticatedUser} {scanId : Nat} {dto : GuardRedactDto}
    (copies : submission = .copy actor scanId dto) :
    Replaying submission request standing C (authorized actor scanId)
      (fun scan => scan.id = scanId ∧ (C → EligibleScan submission standing scanId scan ∧
        (submission.canonical = request.fingerprint → selectionInvalid scan dto.selection = false))) E := by
  refine Process.guided_bind (replaying_query early (.authorizedJob actor scanId)) fun found truthful => ?_
  refine Process.guided_bind
    (Q := fun scan => scan.id = scanId ∧ (C → EligibleScan submission standing scanId scan ∧
      (submission.canonical = request.fingerprint → selectionInvalid scan dto.selection = false)))
    (Process.guided_liftExcept ?_ ?_) fun scan eligibleScan => ?_
  · intro scan present
    rw [orFail_ok_iff] at present
    refine ⟨truthful.1 scan present, fun eligible => ?_⟩
    obtain ⟨stored, same, holds⟩ := truthful.2 eligible scanId dto copies rfl
    rw [present] at same
    cases same
    exact holds
  · intro failure failed
    cases found with
    | some scan => cases failed
    | none =>
        cases failed
        refine early _ (fun eligible => ?_) nofun
        obtain ⟨_, absent, _⟩ := truthful.2 eligible scanId dto copies rfl
        cases absent
  refine Process.guided_recover (E := fun _ => ¬ C) ?_ fun _ failing => Process.guided_throw (early _ failing nofun)
  have resolved : Replaying submission request standing C (resolve actor.id actor.companyId scan.sourceFileId)
      (fun _ => True) fun _ => ¬ C := by
    have same : submission.actor = actor := by rw [copies]; rfl
    rw [← same]
    refine replaying_resolve (fun _ failing _ => failing) ?_
    intro eligible
    exact (eligibleScan.2 eligible).1.source
  exact Process.guided_bind resolved fun _ _ => Process.guided_pure eligibleScan

end Walk

/-! ### The handlers -/

section Handlers

variable {submission : Submission} {request : GuardRequest} {standing : Standing} {C : Prop} {config : GuardConfig}

/-- The stored job is returned, and the canonical request is its own. -/
def Returned (submission : Submission) (request : GuardRequest) (job : GuardJob) : Prop :=
  job.toGuardRequest = request ∧ submission.canonical = request.fingerprint

/-- The submission is rejected as another request, or, without `C`, for another reason. -/
def Refused (submission : Submission) (request : GuardRequest) (C : Prop) (failure : GuardFailure) : Prop :=
  (∃ message, failure = .conflict message) ∧ submission.canonical ≠ request.fingerprint ∨
    ¬ C ∧ failure ≠ .conflict "guard_request_conflict"

theorem refused_early (failure : GuardFailure) (failing : ¬ C) (other : failure ≠ .conflict "guard_request_conflict") :
    Refused submission request C failure :=
  .inr ⟨failing, other⟩

/-- The lookup of the key finds the stored job. -/
theorem replaying_lookup (standing : Standing) (C : Prop) (repeats : submission.Repeats request) :
    Replaying submission request standing C
      (query (.byIdentity submission.actor.companyId submission.actor.id submission.requestKey))
      (fun found => ∃ job, found = some job ∧ job.toGuardRequest = request) (Refused submission request C) := by
  refine Process.Guided.mono (fun outcome ended => ?_)
    (replaying_query (E := Refused submission request C) refused_early _)
  cases outcome with
  | ok found => exact ended repeats.1 repeats.2.1 repeats.2.2
  | error failure => exact ended

theorem replaying_replay {job : GuardJob} (stored : job.toGuardRequest = request) :
    Replaying submission request standing C (replay job submission.canonical) (Returned submission request)
      (Refused submission request C) := by
  have fingerprint : job.fingerprint = request.fingerprint := by rw [stored]
  refine Process.guided_bind
    (Process.guided_liftExcept (Q := fun _ => submission.canonical = request.fingerprint) ?_ ?_) fun _ same =>
      Process.guided_pure ⟨stored, same⟩
  · intro _ passed
    have same := of_decide_eq_true (require_ok_iff.mp passed)
    rw [← same, fingerprint]
  · intro failure failed
    by_cases same : job.fingerprint = submission.canonical
    · rw [require, if_pos (decide_eq_true same)] at failed
      cases failed
    · rw [require, if_neg (fun equal => same (of_decide_eq_true equal))] at failed
      cases failed
      exact .inl ⟨⟨_, rfl⟩, fun equal => same (fingerprint.trans equal.symm)⟩

/-- A scan whose key is taken. -/
theorem replaying_submitScan {actor : AuthenticatedUser} {fileId : Nat} {dto : GuardScanDto}
    (scans : submission = .scan actor fileId dto) (repeats : submission.Repeats request)
    (eligible : C → standing.fileId = fileId ∧ standing.fileType = .xlsx ∧
      standing.size ≤ config.limits.compressedBytes ∧ config.runtime.isolationApproved = true) :
    Replaying submission request standing C (submitScan config actor fileId dto) (Returned submission request)
      (Refused submission request C) := by
  obtain rfl : submission.actor = actor := by rw [scans]; rfl
  have canonical : submission.canonical = .scan fileId (sortCategories dto.categories) dto.phoneRegion := by
    rw [scans]
    rfl
  have key : submission.requestKey = dto.requestKey := by
    rw [scans]
    rfl
  refine Process.guided_bind (replaying_resolve refused_early fun holds => (eligible holds).1.symm) fun _ _ => ?_
  refine Process.guided_bind (replaying_processingSource refused_early ?_) fun source described => ?_
  · intro holds
    exact ⟨(eligible holds).1.symm, submission.actor.role, .inr rfl, rfl⟩
  refine Process.guided_bind (replaying_require refused_early ?_ nofun) fun _ _ => ?_
  · intro holds
    exact decide_eq_true ((described holds).2.1.trans (eligible holds).2.1)
  refine Process.guided_bind (replaying_require refused_early ?_ nofun) fun _ _ => ?_
  · intro holds
    exact decide_eq_true ((described holds).2.2 ▸ (eligible holds).2.2.1)
  refine Process.guided_bind (replaying_require refused_early ?_ nofun) fun _ _ => ?_
  · intro holds
    exact (eligible holds).2.2.2
  have looked := replaying_lookup standing C repeats
  rw [key] at looked
  refine Process.guided_bind looked fun found stored => ?_
  obtain ⟨job, rfl, stored⟩ := stored
  rw [← canonical]
  exact replaying_replay stored

/-- A sanitization whose key is taken. -/
theorem replaying_submitCopy {actor : AuthenticatedUser} {scanId : Nat} {dto : GuardRedactDto}
    (copies : submission = .copy actor scanId dto) (repeats : submission.Repeats request)
    (kind : ∀ scanId selection, request.fingerprint = .copy scanId selection → request.kind = .sanitize)
    (eligible : C → standing.derivation = none ∧ standing.fileType = .xlsx ∧
      config.runtime.isolationApproved = true ∧ config.runtime.sanitizationApproved = true) :
    Replaying submission request standing C (submitCopy config actor scanId dto) (Returned submission request)
      (Refused submission request C) := by
  obtain rfl : submission.actor = actor := by rw [copies]; rfl
  have canonical : submission.canonical = .copy scanId dto.selection := by
    rw [copies]
    rfl
  have key : submission.requestKey = dto.requestKey := by
    rw [copies]
    rfl
  refine Process.guided_bind (replaying_authorized refused_early copies) fun scan ⟨named, covered⟩ => ?_
  refine Process.guided_bind (replaying_require refused_early ?_ nofun) fun _ _ => ?_
  · intro holds
    rw [(eligible holds).2.2.1, (eligible holds).2.2.2]
    rfl
  refine Process.guided_bind (replaying_require refused_early ?_ (by decide)) fun _ _ => ?_
  · intro holds
    obtain ⟨scanned, _⟩ := covered holds
    simp [scanned.kind, scanned.completed, scanned.engine]
  refine Process.guided_bind (replaying_processingSource refused_early ?_) fun source described => ?_
  · intro holds
    exact ⟨(covered holds).1.source, submission.actor.role, .inr rfl, rfl⟩
  refine Process.guided_bind (replaying_require refused_early ?_ (by decide)) fun _ _ => ?_
  · intro holds
    obtain ⟨underived, fileType, _⟩ := described holds
    simp [underived, fileType, (eligible holds).1, (eligible holds).2.1]
  refine Process.guided_bind
    (Process.guided_liftExcept (Q := fun _ => True) (fun _ _ => trivial) ?_) fun _ _ => ?_
  · -- A selection that its scan does not cover is not that of the stored request.
    intro failure failed
    cases invalid : selectionInvalid scan dto.selection with
    | false =>
        rw [invalid] at failed
        cases failed
    | true =>
        rw [invalid] at failed
        cases failed
        by_cases holds : C
        · refine .inl ⟨⟨_, rfl⟩, fun same => ?_⟩
          have valid := (covered holds).2 same
          rw [invalid] at valid
          cases valid
        · exact .inr ⟨holds, by decide⟩
  have looked := replaying_lookup standing C repeats
  rw [key] at looked
  refine Process.guided_bind looked fun found stored => ?_
  obtain ⟨job, rfl, stored⟩ := stored
  have fingerprint : job.fingerprint = request.fingerprint := by rw [stored]
  have jobKind : job.kind = request.kind := by rw [stored]
  refine Process.guided_bind
    (Process.guided_liftExcept (Q := fun _ => submission.canonical = request.fingerprint) ?_ ?_) fun _ same =>
      Process.guided_pure ⟨stored, same⟩
  · intro _ passed
    have same := require_ok_iff.mp passed
    simp only [Bool.and_eq_true, decide_eq_true_eq] at same
    rw [canonical, ← named, ← same.2, fingerprint]
  · intro failure failed
    by_cases same : submission.canonical = request.fingerprint
    · have sanitize := jobKind.trans (kind scanId dto.selection (same.symm.trans canonical))
      have equal : job.fingerprint = .copy scan.id dto.selection := by
        rw [fingerprint, ← same, canonical, named]
      rw [require, if_pos (by simp [sanitize, equal])] at failed
      cases failed
    · simp only [require] at failed
      split at failed
      · cases failed
      · cases failed
        exact .inl ⟨⟨_, rfl⟩, same⟩

end Handlers

end DataVault.Guard
