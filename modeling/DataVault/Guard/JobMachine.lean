/-
Module: DataVault.Guard.JobMachine
Layer: Specification
Purpose: One guard job as a state machine of its own: its document together with what the other collections hold
  of it. The machine says which changes a job can undergo at all, whoever makes them, and what every job that has
  only undergone such changes satisfies.
Imports: DataVault.Guard.World
Trusted boundary: human-reviewed spec
Main exports: JobTrace, GuardDb.trace, JobMove, JobSound, JobSound.move, JobMove.settled, JobFollows
-/
import DataVault.Guard.World

namespace DataVault.Guard

open DataVault.Users

/-- What the collections hold of a job beside its document, rows newest first; `copy` is the file row under the id
that is reserved for the result. -/
structure JobTrace where
  findings : List GuardFinding := []
  actions : List GuardAction := []
  requeues : Nat := 0
  charges : Nat := 0
  copies : Nat := 0
  copy : Option CompanyFile := none
  removed : Bool := false

/-- The trace of the job `id`. -/
def GuardDb.trace (db : GuardDb) (id : Nat) : JobTrace where
  findings := db.findings.filter fun row => row.jobId = id
  actions := (db.events.filter fun event => event.jobId = id).map (·.action)
  requeues := db.requeues.count id
  charges := db.charges.count id
  copies := db.copies.count id
  copy := db.files (id + 1)
  removed := db.removed.contains (id + 1)

/-- The event that a terminal state leaves. -/
def GuardState.action : GuardState → Option GuardAction
  | .completed => some .completed
  | .failed => some .failed
  | .cancelled => some .cancelled
  | .queued | .processing => none

/-- A copy was published for the job. -/
def GuardJob.copied (job : GuardJob) : Bool := job.kind = .sanitize && job.status = .completed

/-- The document without the fields that serve the cleanup. -/
def GuardJob.settled (job : GuardJob) : GuardJob := { job with cleanupPending := false, cleanupAfter := none }

/-! ### Moves -/

variable {run : Nat} {job job' : GuardJob} {trace trace' : JobTrace}

/-- What can happen to a job, by a step of `run`. The guards of the source stand in the cases: what ends a job asks for
the status that it ends, and what publishes asks for the lease. -/
inductive JobMove (run : Nat) (job : GuardJob) (trace : JobTrace) : GuardJob → JobTrace → Prop
  | stay : JobMove run job trace job trace
  | enter (phase : GuardPhase) (processing : job.status = .processing) :
      JobMove run job trace { job with phase := phase } trace
  | mark (pending : Bool) (after : Option Int) :
      JobMove run job trace { job with cleanupPending := pending, cleanupAfter := after } trace
  | claim (now : Int) (leaseMs : Nat) (queued : job.status = .queued) :
      JobMove run job trace (job.takeLease run now leaseMs) trace
  | scanned (result : ScanResult) (digest : Nat) (now : Int) (companyId : Nat) (kind : job.kind = .scan)
      (processing : job.status = .processing) :
      JobMove run job trace (job.completeScan result digest now)
        { trace with
          findings := (result.findings.map fun finding => ⟨companyId, job.id, run, finding⟩) ++ trace.findings
          actions := .completed :: trace.actions }
  | failed (errorCode : GuardErrorCode) (now : Int) (processing : job.status = .processing) :
      JobMove run job trace (job.fail errorCode now) { trace with actions := .failed :: trace.actions }
  | cancelled (now : Int) (active : job.active = true) :
      JobMove run job trace (job.cancel now) { trace with actions := .cancelled :: trace.actions }
  | requeued (processing : job.status = .processing) (few : job.attempts < 3) :
      JobMove run job trace job.requeue
        { trace with actions := .queued :: trace.actions, requeues := trace.requeues + 1 }
  | output (digest : Nat) (processing : job.status = .processing) (held : job.leaseToken = some run)
      (same : job.outputDigest.all (· = digest) = true) :
      JobMove run job trace
        { job with phase := .publishing, cleanupPending := true, outputDigest := some digest } trace
  | copied (redactedCells size : Nat) (now : Int) (actor : AuthenticatedUser) (key : StorageKey)
      (kind : job.kind = .sanitize) (processing : job.status = .processing)
      (company : actor.companyId = job.companyId) :
      JobMove run job trace (job.completeCopy redactedCells now)
        { trace with
          actions := .completed :: trace.actions
          charges := trace.charges + 1
          copies := trace.copies + 1
          copy := some (GuardDb.copyRow job actor (job.id + 1) key size) }
  | removed (present : trace.copy.isSome) :
      JobMove run job trace job { trace with copy := none, removed := true }

namespace JobMove

/-- The request of a job never changes. -/
theorem request (move : JobMove run job trace job' trace') : job'.toGuardRequest = job.toGuardRequest := by
  cases move <;> rfl

/-- A recorded digest stays. -/
theorem outputDigest (move : JobMove run job trace job' trace') {digest : Nat}
    (recorded : job.outputDigest = some digest) : job'.outputDigest = some digest := by
  cases move with
  | output other _ _ same =>
      rw [recorded] at same
      exact congrArg some (of_decide_eq_true same).symm
  | _ => exact recorded

end JobMove

/-! ### Soundness -/

/-- The findings of a job: those of one single pass, numbered from 0, if a scan has completed; none otherwise. -/
def Published (job : GuardJob) (findings : List GuardFinding) : Prop :=
  if job.kind = .scan ∧ job.status = .completed then
    ∃ run, findings.map (fun row => (row.run, row.finding.ordinal)) =
      (List.range job.findingCount).map fun ordinal => (run, ordinal)
  else findings = []

/-- What holds of every job and of what was recorded for it. Every move of the job keeps it, and the laws of the
collections are read off it. -/
structure JobSound (job : GuardJob) (trace : JobTrace) : Prop where
  active : job.active = !job.status.terminal
  leased : job.leaseToken.isSome = true ↔ job.status = .processing
  attempts : job.attempts ≤ 3
  queued : job.status = .queued → job.attempts < 3
  findings : Published job trace.findings
  ended : trace.actions.filter (· ≠ .queued) = job.status.action.toList
  requeues : trace.actions.count .queued = trace.requeues + 1
  charges : trace.charges = trace.copies
  copies : trace.copies = if job.copied then 1 else 0
  row : ∀ file, trace.copy = some file → file.companyId = job.companyId ∧ file.derivation.isSome
  present : trace.copy.isSome = (job.copied && !trace.removed)
  gone : trace.removed = true → job.copied = true
  result : job.kind = .sanitize →
    job.resultFileId = some (job.id + 1) ∧ job.outputStorageKey = some (.guardCopy job.companyId job.id)

/-- Nothing has come of a job yet. -/
structure JobTrace.Unfinished (trace : JobTrace) : Prop where
  findings : trace.findings = []
  ended : trace.actions.filter (· ≠ .queued) = []
  charges : trace.charges = 0
  copies : trace.copies = 0
  copy : trace.copy = none
  removed : trace.removed = false

theorem GuardState.action_eq_none {status : GuardState} (unfinished : status.terminal = false) :
    status.action = none := by
  cases status with
  | queued => rfl
  | processing => rfl
  | completed => cases unfinished
  | failed => cases unfinished
  | cancelled => cases unfinished

theorem GuardJob.uncopied (unfinished : job.status ≠ .completed) : job.copied = false := by
  simp [GuardJob.copied, unfinished]

namespace JobSound

theorem not_completed {status : GuardState} (unfinished : status.terminal = false) : status ≠ .completed := by
  rintro rfl
  cases unfinished

theorem unfinished (sound : JobSound job trace) (unfinished : job.status.terminal = false) : trace.Unfinished := by
  have uncopied := GuardJob.uncopied (not_completed unfinished)
  have copies := sound.copies
  have present := sound.present
  rw [uncopied] at copies present
  constructor
  case findings =>
    have findings := sound.findings
    rwa [Published, if_neg fun completed => not_completed unfinished completed.2] at findings
  case ended =>
    rw [sound.ended, GuardState.action_eq_none unfinished]
    rfl
  case charges => exact sound.charges.trans copies
  case copies => exact copies
  case copy => simpa using present
  case removed =>
    cases removed : trace.removed with
    | false => rfl
    | true => exact absurd (sound.gone removed) (by simp [uncopied])

/-- A job in progress is sound. -/
theorem of_unfinished (rest : trace.Unfinished) (unfinished : job.status.terminal = false)
    (active : job.active = true) (leased : job.leaseToken.isSome = true ↔ job.status = .processing)
    (attempts : job.attempts ≤ 3) (queued : job.status = .queued → job.attempts < 3)
    (requeues : trace.actions.count .queued = trace.requeues + 1)
    (result : job.kind = .sanitize →
      job.resultFileId = some (job.id + 1) ∧ job.outputStorageKey = some (.guardCopy job.companyId job.id)) :
    JobSound job trace := by
  have uncopied := GuardJob.uncopied (not_completed unfinished)
  constructor
  case active => rw [active, unfinished, Bool.not_false]
  case leased => exact leased
  case attempts => exact attempts
  case queued => exact queued
  case findings =>
    rw [Published, if_neg fun completed => not_completed unfinished completed.2]
    exact rest.findings
  case ended =>
    rw [rest.ended, GuardState.action_eq_none unfinished]
    rfl
  case requeues => exact requeues
  case charges => rw [rest.charges, rest.copies]
  case copies =>
    rw [rest.copies, uncopied]
    rfl
  case row =>
    intro file present
    rw [rest.copy] at present
    cases present
  case present =>
    rw [rest.copy, uncopied]
    rfl
  case gone =>
    intro removed
    rw [rest.removed] at removed
    cases removed
  case result => exact result

/-- A job that has failed or was cancelled is sound. -/
theorem of_stopped {action : GuardAction} (rest : trace.Unfinished) (stopped : job.status.action = some action)
    (other : action ≠ .completed) (inactive : job.active = false) (released : job.leaseToken = none)
    (attempts : job.attempts ≤ 3) (requeues : trace.actions.count .queued = trace.requeues + 1)
    (result : job.kind = .sanitize →
      job.resultFileId = some (job.id + 1) ∧ job.outputStorageKey = some (.guardCopy job.companyId job.id)) :
    JobSound job { trace with actions := action :: trace.actions } := by
  have final : job.status.terminal = true ∧ job.status ≠ .completed ∧ job.status ≠ .queued ∧
      job.status ≠ .processing ∧ action ≠ .queued := by
    cases status : job.status <;> rw [status] at stopped <;> cases stopped
    · exact absurd rfl other
    · exact ⟨rfl, nofun, nofun, nofun, nofun⟩
    · exact ⟨rfl, nofun, nofun, nofun, nofun⟩
  obtain ⟨terminal, incomplete, unqueued, idle, noted⟩ := final
  have uncopied := GuardJob.uncopied incomplete
  constructor
  case active =>
    rw [inactive, terminal]
    rfl
  case leased => simp [released, idle]
  case attempts => exact attempts
  case queued => exact fun queued => absurd queued unqueued
  case findings =>
    rw [Published, if_neg fun completed => incomplete completed.2]
    exact rest.findings
  case ended =>
    rw [stopped, List.filter_cons_of_pos (by simpa using noted), rest.ended]
    rfl
  case requeues =>
    rw [List.count_cons_of_ne noted]
    exact requeues
  case charges => rw [rest.charges, rest.copies]
  case copies =>
    rw [rest.copies, uncopied]
    rfl
  case row =>
    intro file present
    cases rest.copy.symm.trans present
  case present =>
    rw [rest.copy, uncopied]
    rfl
  case gone => exact fun removed => absurd (rest.removed.symm.trans removed) Bool.false_ne_true
  case result => exact result

theorem open_of_processing (processing : job.status = .processing) : job.status.terminal = false := by
  rw [processing]
  rfl

/-- A scan that completes is sound. -/
theorem scanned (sound : JobSound job trace) (rest : trace.Unfinished) (kind : job.kind = .scan)
    {result : ScanResult} {digest companyId : Nat} {now : Int} :
    JobSound (job.completeScan result digest now)
      { trace with
        findings := (result.findings.map fun finding => ⟨companyId, job.id, run, finding⟩) ++ trace.findings
        actions := .completed :: trace.actions } := by
  have uncopied : (job.completeScan result digest now).copied = false := by
    simp [GuardJob.copied, GuardJob.completeScan, GuardJob.unlease, kind]
  have findings : Published (job.completeScan result digest now)
      ((result.findings.map fun finding => ⟨companyId, job.id, run, finding⟩) ++ trace.findings) := by
    rw [Published, if_pos ⟨kind, rfl⟩]
    refine ⟨run, ?_⟩
    rw [rest.findings, List.append_nil, List.map_map]
    calc result.findings.map ((fun row : GuardFinding => (row.run, row.finding.ordinal)) ∘
          fun finding => ⟨companyId, job.id, run, finding⟩)
        = (result.findings.map (·.ordinal)).map fun ordinal => (run, ordinal) := by
          rw [List.map_map]
          rfl
      _ = (List.range result.findings.length).map fun ordinal => (run, ordinal) := by rw [result.numbered]
  constructor
  case active => rfl
  case leased => exact ⟨nofun, nofun⟩
  case attempts => exact sound.attempts
  case queued => exact nofun
  case findings => exact findings
  case ended =>
    rw [List.filter_cons_of_pos rfl, rest.ended]
    rfl
  case requeues => exact (List.count_cons_of_ne (by decide)).trans sound.requeues
  case charges => exact sound.charges
  case copies =>
    rw [uncopied]
    exact rest.copies
  case row =>
    intro file present
    cases rest.copy.symm.trans present
  case present =>
    rw [uncopied]
    simp [rest.copy]
  case gone => exact fun removed => absurd (rest.removed.symm.trans removed) Bool.false_ne_true
  case result => exact sound.result

/-- A copy that is published leaves its job sound. -/
theorem copied (sound : JobSound job trace) (rest : trace.Unfinished) (kind : job.kind = .sanitize)
    {actor : AuthenticatedUser} (company : actor.companyId = job.companyId) {redactedCells size : Nat} {now : Int}
    {key : StorageKey} :
    JobSound (job.completeCopy redactedCells now)
      { trace with
        actions := .completed :: trace.actions
        charges := trace.charges + 1
        copies := trace.copies + 1
        copy := some (GuardDb.copyRow job actor (job.id + 1) key size) } := by
  have copied : (job.completeCopy redactedCells now).copied = true := by
    simp [GuardJob.copied, GuardJob.completeCopy, GuardJob.unlease, kind]
  have findings : Published (job.completeCopy redactedCells now) trace.findings := by
    have other : (job.completeCopy redactedCells now).kind ≠ .scan := by
      intro scan
      cases kind.symm.trans scan
    rw [Published, if_neg fun scan => other scan.1]
    exact rest.findings
  constructor
  case active => rfl
  case leased => exact ⟨nofun, nofun⟩
  case attempts => exact sound.attempts
  case queued => exact nofun
  case findings => exact findings
  case ended =>
    rw [List.filter_cons_of_pos rfl, rest.ended]
    rfl
  case requeues => exact (List.count_cons_of_ne (by decide)).trans sound.requeues
  case charges => rw [sound.charges]
  case copies =>
    rw [copied, rest.copies]
    rfl
  case row =>
    intro file present
    cases present
    exact ⟨company, rfl⟩
  case present => simp [copied, rest.removed]
  case gone => exact fun _ => copied
  case result => exact sound.result

/-- Every move keeps a job sound. -/
theorem move (sound : JobSound job trace) (move : JobMove run job trace job' trace') : JobSound job' trace' := by
  cases move with
  | stay => exact sound
  | enter phase => exact { sound with }
  | mark pending after => exact { sound with }
  | claim now leaseMs queued =>
      have open_job : job.status.terminal = false := by
        rw [queued]
        rfl
      have active := sound.active
      rw [open_job] at active
      refine of_unfinished (sound.unfinished open_job) rfl active ?_ (sound.queued queued) nofun sound.requeues
        sound.result
      exact ⟨fun _ => rfl, fun _ => rfl⟩
  | scanned result digest now companyId kind processing =>
      exact sound.scanned (sound.unfinished (open_of_processing processing)) kind
  | failed errorCode now processing =>
      have rest := sound.unfinished (open_of_processing processing)
      exact of_stopped rest rfl nofun rfl rfl sound.attempts sound.requeues sound.result
  | cancelled now active =>
      have open_job : job.status.terminal = false := by
        have still := sound.active
        rw [active] at still
        simpa using still
      exact of_stopped (sound.unfinished open_job) rfl nofun rfl rfl sound.attempts sound.requeues sound.result
  | requeued processing few =>
      have rest := sound.unfinished (open_of_processing processing)
      have active := sound.active
      rw [open_of_processing processing] at active
      refine of_unfinished { rest with ended := ?_ } rfl active ?_ sound.attempts (fun _ => few) ?_ sound.result
      · rw [List.filter_cons_of_neg (by simp)]
        exact rest.ended
      · exact ⟨nofun, nofun⟩
      · rw [List.count_cons_self, sound.requeues]
  | output digest processing held same => exact { sound with }
  | copied redactedCells size now actor key kind processing company =>
      exact sound.copied (sound.unfinished (open_of_processing processing)) kind company
  | removed present =>
      have copied : job.copied = true := by
        have both := sound.present
        rw [present] at both
        exact (Bool.and_eq_true_iff.mp both.symm).1
      exact { sound with
        row := fun file found => by cases found
        present := by simp
        gone := fun _ => copied }

end JobSound

/-! ### What lasts -/

/-- A job that has ended has ended for good: only the cleanup fields of its document change, and its copy can only
be removed. -/
theorem JobMove.settled (move : JobMove run job trace job' trace') (sound : JobSound job trace)
    (ended : job.status.terminal = true) :
    job'.settled = job.settled ∧ trace'.findings = trace.findings ∧ trace'.actions = trace.actions ∧
      (trace'.copy = trace.copy ∨ trace'.copy = none) := by
  have inactive := sound.active
  rw [ended] at inactive
  cases move with
  | stay => exact ⟨rfl, rfl, rfl, .inl rfl⟩
  | mark pending after => exact ⟨rfl, rfl, rfl, .inl rfl⟩
  | removed present => exact ⟨rfl, rfl, rfl, .inr rfl⟩
  | claim now leaseMs queued =>
      rw [queued] at ended
      cases ended
  | cancelled now active => cases inactive.symm.trans active
  | enter phase processing => cases ended.symm.trans (JobSound.open_of_processing processing)
  | scanned result digest now companyId kind processing =>
      cases ended.symm.trans (JobSound.open_of_processing processing)
  | failed errorCode now processing => cases ended.symm.trans (JobSound.open_of_processing processing)
  | requeued processing few => cases ended.symm.trans (JobSound.open_of_processing processing)
  | output digest processing held same => cases ended.symm.trans (JobSound.open_of_processing processing)
  | copied redactedCells size now actor key kind processing company =>
      cases ended.symm.trans (JobSound.open_of_processing processing)

/-- What the moves of others leave of a job for `run`: the request, a recorded digest and everything about a job that
has ended stay, and a lease that the run holds afterwards it has held throughout. -/
structure JobFollows (run : Nat) (job : GuardJob) (trace : JobTrace) (job' : GuardJob) (trace' : JobTrace) :
    Prop where
  request : job'.toGuardRequest = job.toGuardRequest
  digest : ∀ digest, job.outputDigest = some digest → job'.outputDigest = some digest
  ended : job.status.terminal = true → job'.settled = job.settled ∧ trace'.findings = trace.findings ∧
    trace'.actions = trace.actions ∧ (trace'.copy = trace.copy ∨ trace'.copy = none)
  held : job'.leaseToken = some run → job.leaseToken = some run ∧ job'.outputDigest = job.outputDigest

namespace JobFollows

theorem refl (run : Nat) (job : GuardJob) (trace : JobTrace) : JobFollows run job trace job trace where
  request := rfl
  digest _ recorded := recorded
  ended _ := ⟨rfl, rfl, rfl, .inl rfl⟩
  held leased := ⟨leased, rfl⟩

theorem trans {job'' : GuardJob} {trace'' : JobTrace} (one : JobFollows run job trace job' trace')
    (two : JobFollows run job' trace' job'' trace'') : JobFollows run job trace job'' trace'' where
  request := two.request.trans one.request
  digest digest recorded := two.digest digest (one.digest digest recorded)
  ended ended := by
    obtain ⟨same, findings, actions, copy⟩ := one.ended ended
    have status : job'.settled.status = job.settled.status := by rw [same]
    obtain ⟨same', findings', actions', copy'⟩ := two.ended (status.symm ▸ ended)
    refine ⟨same'.trans same, findings'.trans findings, actions'.trans actions, ?_⟩
    rcases copy' with kept | gone
    · rw [kept]
      exact copy
    · exact .inr gone
  held leased := by
    obtain ⟨leased, same⟩ := two.held leased
    obtain ⟨leased, same'⟩ := one.held leased
    exact ⟨leased, same.trans same'⟩

/-- The moves of another run. -/
theorem of_move {other : Nat} (move : JobMove other job trace job' trace') (sound : JobSound job trace)
    (foreign : other ≠ run) : JobFollows run job trace job' trace' where
  request := move.request
  digest _ recorded := move.outputDigest recorded
  ended ended := move.settled sound ended
  held leased := by
    cases move with
    | claim now leaseMs queued => exact absurd (Option.some.inj leased) foreign
    | output digest processing held same => exact absurd (Option.some.inj (held.symm.trans leased)) foreign
    | scanned result digest now companyId kind processing => cases leased
    | failed errorCode now processing => cases leased
    | cancelled now active => cases leased
    | requeued processing few => cases leased
    | copied redactedCells size now actor key kind processing company => cases leased
    | stay => exact ⟨leased, rfl⟩
    | enter phase processing => exact ⟨leased, rfl⟩
    | mark pending after => exact ⟨leased, rfl⟩
    | removed present => exact ⟨leased, rfl⟩

end JobFollows

end DataVault.Guard
