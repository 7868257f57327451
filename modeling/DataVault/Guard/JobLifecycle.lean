/-
Module: DataVault.Guard.JobLifecycle
Layer: Proof
Purpose: The lifecycle of guard jobs. In every run of the guard machine from a database without jobs, every job
  obeys the law of its state: its lease, its attempts, its finding rows and its events fit its status, and once it
  has ended no later step changes it.
Imports: DataVault.Guard.ServiceMeets
Trusted boundary: none
Main exports: GuardDb.findingRows, GuardDb.eventRows, GuardSystem.Fresh, Lawful, job_lifecycle
-/
import DataVault.Guard.ServiceMeets

namespace DataVault.Guard

open DataVault.Control DataVault.Interleaving DataVault.Users

variable {config : GuardConfig} {db : GuardDb} {w : GuardWorld}

/-! ### The start -/

/-- No job has been submitted yet, every file is an upload, and the ids that are still to be given out name none. -/
structure GuardDb.Fresh (db : GuardDb) : Prop where
  jobs : ∀ id, db.jobs id = none
  findings : db.findings = []
  events : db.events = []
  leases : db.leases = []
  requeues : db.requeues = []
  charges : db.charges = []
  copies : db.copies = []
  removed : db.removed = []
  files : ∀ id, db.nextId ≤ id → db.files id = none
  uploads : ∀ id file, db.files id = some file → file.derivation = none

theorem GuardDb.Fresh.consistent (fresh : db.Fresh) : db.Consistent := by
  constructor
  case ids =>
    intro id job found
    cases (fresh.jobs id).symm.trans found
  case fresh =>
    intro id late
    simp [GuardDb.trace, fresh.findings, fresh.events, fresh.requeues, fresh.charges, fresh.copies, fresh.removed,
      fresh.files _ late]
  case tokens =>
    rw [fresh.leases]
    exact List.nodup_nil
  case leased =>
    intro id job token found
    cases (fresh.jobs id).symm.trans found
  case held =>
    intro lease mem
    rw [fresh.leases] at mem
    cases mem
  case sound =>
    intro id job found
    cases (fresh.jobs id).symm.trans found

/-- A system in which no request has arrived and no job exists. -/
structure Fresh (s : GuardSystem) : Prop where
  runs : s.runs = []
  db : s.world.db.Fresh
  puts : s.world.puts = []
  cleanups : s.world.cleanups = []

theorem Fresh.allMeet {s : GuardSystem} (fresh : Fresh s) : Contract.AllMeet (guardContract config) s :=
  .idle fresh.db.consistent fresh.runs

/-! ### The law of a job -/

namespace GuardDb

variable (db : GuardDb) (job : GuardJob)

/-- The rows of `guardFinding` of a job. -/
def findingRows : List GuardFinding := db.findings.filter fun row => row.jobId = job.id

/-- The rows of `guardEvent` of a job. -/
def eventRows : List GuardEvent := db.events.filter fun event => event.jobId = job.id

end GuardDb

/-- What the collections hold of a job in its present state: the lease and the activity that go with the status, the
findings of one run where a scan has completed and none elsewhere, one terminal event where the job has ended, and one
`queued` event for its creation and for each time it was queued again. -/
structure Lawful (db : GuardDb) (job : GuardJob) : Prop where
  active : job.active = true ↔ job.status = .queued ∨ job.status = .processing
  leased : job.leaseToken.isSome = true ↔ job.status = .processing
  attempts : job.attempts ≤ 3
  findings : if job.kind = .scan ∧ job.status = .completed then
      ∃ run, (db.findingRows job).map (fun row => (row.run, row.finding.ordinal)) =
        (List.range job.findingCount).map fun ordinal => (run, ordinal)
    else db.findingRows job = []
  ended : ((db.eventRows job).map (·.action)).filter (· ≠ .queued) = job.status.action.toList
  queued : ((db.eventRows job).map (·.action)).count .queued = db.requeues.count job.id + 1

/-- A job of consistent collections is lawful. -/
theorem GuardDb.Consistent.lawful (consistent : db.Consistent) {id : Nat} {job : GuardJob}
    (found : db.jobs id = some job) : Lawful db job := by
  have sound := consistent.sound id job found
  obtain ⟨rfl, _⟩ := consistent.ids id job found
  constructor
  case active =>
    rw [sound.active]
    cases job.status <;> simp [GuardState.terminal]
  case leased => exact sound.leased
  case attempts => exact sound.attempts
  case findings => exact sound.findings
  case ended => exact sound.ended
  case queued => exact sound.requeues

/-- There is one terminal event exactly when the job has ended. -/
theorem Lawful.one_terminal_event {job : GuardJob} (lawful : Lawful db job) :
    (((db.eventRows job).map (·.action)).filter (· ≠ .queued)).length = 1 ↔ job.status.terminal = true := by
  rw [lawful.ended]
  cases job.status <;> simp [GuardState.action, GuardState.terminal]

/-! ### Jobs that have ended -/

/-- The job has ended with this document, these findings and these events. -/
def EndedAs (id : Nat) (job : GuardJob) (trace : JobTrace) (w : GuardWorld) : Prop :=
  ∃ stored, w.db.jobs id = some stored ∧ stored.settled = job.settled ∧ stored.status.terminal = true ∧
    (w.db.trace id).findings = trace.findings ∧ (w.db.trace id).actions = trace.actions

theorem EndedAs.move {run id : Nat} {job : GuardJob} {trace : JobTrace} {w w' : GuardWorld}
    (ended : EndedAs id job trace w) (consistent : w.db.Consistent) (move : DbMove run w.db w'.db) :
    EndedAs id job trace w' := by
  obtain ⟨stored, found, same, terminal, findings, actions⟩ := ended
  obtain ⟨stored', found', moved⟩ := move.job consistent found
  obtain ⟨settled, findings', actions', _⟩ := moved.settled (consistent.sound id stored found) terminal
  exact ⟨stored', found', settled.trans same, settled_terminal settled terminal, findings'.trans findings,
    actions'.trans actions⟩

variable {ok : GuardSystem → GuardSystemEvent → Prop} {s s' s'' : GuardSystem} {events later : List GuardSystemEvent}

/-- A job that has ended stays as it is through every further run. -/
theorem ended_stays (all : Contract.AllMeet (guardContract config) s) (played : (guardMachine config).Run ok s events s')
    {id : Nat} {job : GuardJob} {trace : JobTrace} (ended : EndedAs id job trace s.world) :
    EndedAs id job trace s'.world := by
  refine (guard_invariant (EndedAs id job trace) ?_ ?_ played all ended).2
  · intro run choice act w answer w' consistent ended known executed
    exact ended.move consistent (moves_of_exec consistent known executed)
  · intro change w w' consistent ended drifted
    have moved : DbMove 0 w.db w'.db := drift_moves consistent drifted
    exact ended.move consistent moved

theorem fresh_reaches (fresh : Fresh s) (reached : (guardMachine config).Run ok s events s') :
    Contract.AllMeet (guardContract config) s' :=
  (guard_invariant (fun _ => True) (fun _ _ _ _ _ _ _ _ _ _ => trivial) (fun _ _ _ _ _ _ => trivial) reached
    fresh.allMeet trivial).1

/-- In every run from a system without jobs, every job is lawful, and what has ended stays: no later step changes
its document beyond the fields of the cleanup, its findings or its events. -/
theorem job_lifecycle (fresh : Fresh s) (reached : (guardMachine config).Run ok s events s') {id : Nat}
    {job : GuardJob} (found : s'.world.db.jobs id = some job) :
    Lawful s'.world.db job ∧
      ((((s'.world.db.eventRows job).map (·.action)).filter (· ≠ .queued)).length = 1 ↔
        job.status.terminal = true) ∧
      ∀ later s'', job.status.terminal = true → (guardMachine config).Run ok s' later s'' →
        ∃ job', s''.world.db.jobs id = some job' ∧ job'.settled = job.settled ∧ job'.status = job.status ∧
          s''.world.db.findingRows job' = s'.world.db.findingRows job ∧
          (s''.world.db.eventRows job').map (·.action) = (s'.world.db.eventRows job).map (·.action) := by
  have all := fresh_reaches fresh reached
  have lawful := all.inv.lawful found
  refine ⟨lawful, lawful.one_terminal_event, fun later s'' terminal played => ?_⟩
  have ended : EndedAs id job (s'.world.db.trace id) s'.world := ⟨job, found, rfl, terminal, rfl, rfl⟩
  obtain ⟨job', found', same, _, findings, actions⟩ := ended_stays all played ended
  have named : job.id = id := (all.inv.ids id job found).1
  have named' : job'.settled.id = job.settled.id := by rw [same]
  have status : job'.settled.status = job.settled.status := by rw [same]
  replace named' : job'.id = job.id := named'
  refine ⟨job', found', same, status, ?_, ?_⟩
  · rw [GuardDb.findingRows, named', named]
    rw [GuardDb.findingRows, named]
    exact findings
  · rw [GuardDb.eventRows, named', named]
    rw [GuardDb.eventRows, named]
    exact actions

/-! ### A run -/

/-- Settings under which both kinds of job are approved. -/
def approvedGuard : GuardConfig where
  runtime := ⟨true, true⟩
  fileMaxSizeBytes := 1000
  sha256 := List.length
  findingsDigest := List.length

def owner : AuthenticatedUser := ⟨1, 7, .companyOwner⟩

/-- A company with one owner and one uploaded workbook. -/
def oneWorkbook : GuardSystem where
  world.db.users := fun id => if id = 1 then some ⟨1, "owner", 7, .companyOwner⟩ else none
  world.db.companies := fun id => if id = 7 then some ⟨true, false⟩ else none
  world.db.files := fun id => if id = 0 then some
    { id := 0, companyId := 7, uploaderId := 1, storageKey := .upload 7 0, fileType := .xlsx, size := 10 } else none
  world.db.nextId := 2
  runs := []

theorem oneWorkbook_fresh : Fresh oneWorkbook where
  runs := rfl
  puts := rfl
  cleanups := rfl
  db.jobs _ := rfl
  db.findings := rfl
  db.events := rfl
  db.leases := rfl
  db.requeues := rfl
  db.charges := rfl
  db.copies := rfl
  db.removed := rfl
  db.files id late := by
    show (if id = 0 then _ else none) = none
    rw [if_neg (by rintro rfl; cases late)]
  db.uploads id file found := by
    change (if id = 0 then _ else none) = some file at found
    split at found
    · cases found
      rfl
    · cases found

/-- `count` steps of one run with the same answers. -/
def stepping (run count : Nat) (choice : GuardChoice) : List GuardSystemEvent :=
  List.replicate count (.step run choice)

/-- A child that finds one address. -/
def oneFinding : GuardChoice :=
  { scan := .ok ⟨[⟨0, 0, 1, 1, .email, .formatValid, false⟩], 1, 1, [.cellTextOnly], .limited⟩ }

/-- A scan is submitted and claimed by a worker that stalls; another worker puts it back, claims it and
completes it. -/
def requeuedScan : List GuardSystemEvent :=
  .arrive (.submitScan owner 0 ⟨5, [.email], none⟩) :: stepping 0 7 {} ++
    .arrive .tick :: stepping 1 3 {} ++ .drift (.tick 120000) :: .arrive .tick :: stepping 2 19 oneFinding

/-- The stalled worker goes on, finds its claim gone and tries to fail the job. -/
theorem job_lifecycle_requeued :
    ∃ s' job s'' job', (guardMachine approvedGuard).play requeuedScan oneWorkbook = some s' ∧
      s'.world.db.jobs 2 = some job ∧ Lawful s'.world.db job ∧ job.status = .completed ∧ job.findingCount = 1 ∧
      s'.world.db.requeues = [2] ∧ (guardMachine approvedGuard).play (stepping 1 2 {}) s' = some s'' ∧
      s''.world.db.jobs 2 = some job' ∧ job'.settled = job.settled := by
  have plays : ((guardMachine approvedGuard).play requeuedScan oneWorkbook).any fun s' =>
      ((guardMachine approvedGuard).play (stepping 1 2 {}) s').isSome && (s'.world.db.jobs 2).any fun job => decide
        (job.status = .completed ∧ job.findingCount = 1 ∧ s'.world.db.requeues = [2]) := by decide +kernel
  obtain ⟨s', played, checks⟩ := (Option.any_eq_true ..).mp plays
  obtain ⟨further, checks⟩ := (Bool.and_eq_true ..).mp checks
  obtain ⟨s'', further⟩ := Option.isSome_iff_exists.mp further
  obtain ⟨job, found, checked⟩ := (Option.any_eq_true ..).mp checks
  obtain ⟨completed, counted, requeued⟩ := of_decide_eq_true checked
  obtain ⟨lawful, _, stays⟩ := job_lifecycle oneWorkbook_fresh (Machine.run_of_play played) found
  have terminal : job.status.terminal = true := by
    rw [completed]
    rfl
  obtain ⟨job', found', same, _⟩ := stays _ s'' terminal (Machine.run_of_play further)
  exact ⟨s', job, s'', job', played, found, lawful, completed, counted, requeued, further, found', same⟩

end DataVault.Guard
