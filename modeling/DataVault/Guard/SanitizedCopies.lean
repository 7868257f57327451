/-
Module: DataVault.Guard.SanitizedCopies
Layer: Proof
Purpose: Publication and cleanup of sanitized copies. The object store is not part of any transaction: a PUT may
  take effect long after its attempt has given up. In every run of the guard machine a job gets one file row at
  most, in the step that completes it and charges the upload; all its PUTs carry the bytes of one digest; and what
  the cleanup deletes is the job's own key, while no row of that job exists and none ever will.
Imports: DataVault.Guard.JobLifecycle
Trusted boundary: none
Main exports: HasCopy, RowsOwned, PutOf, CleanupOf, CopiedOnce, JobMove.copies, sanitized_copies
-/
import DataVault.Guard.JobLifecycle

namespace DataVault.Guard

open DataVault.Control DataVault.Interleaving DataVault.Users

variable {config : GuardConfig} {run : Nat} {db db' : GuardDb} {w w' : GuardWorld}

/-! ### Rows of copies -/

/-- A file row of the job exists. -/
def HasCopy (db : GuardDb) (id : Nat) : Prop :=
  ∃ fileId file derivation, db.files fileId = some file ∧ file.derivation = some derivation ∧ derivation.jobId = id

/-- A row that is derived stands under the id and the key that are reserved for its job. -/
def RowsOwned (db : GuardDb) : Prop :=
  ∀ fileId file derivation, db.files fileId = some file → file.derivation = some derivation →
    fileId = derivation.jobId + 1 ∧ file.storageKey = .guardCopy file.companyId derivation.jobId

namespace RowsOwned

theorem of_same (owned : RowsOwned db) (same : db'.files = db.files) : RowsOwned db' := by
  intro fileId file derivation found derived
  rw [same] at found
  exact owned fileId file derivation found derived

theorem of_update (owned : RowsOwned db) {target : Nat} {row : Option CompanyFile}
    (same : db'.files = Function.update db.files target row)
    (own : ∀ file derivation, row = some file → file.derivation = some derivation →
      target = derivation.jobId + 1 ∧ file.storageKey = .guardCopy file.companyId derivation.jobId) :
    RowsOwned db' := by
  intro fileId file derivation found derived
  rw [same] at found
  by_cases touched : fileId = target
  · subst touched
    rw [Function.update_self] at found
    exact own file derivation found derived
  · rw [Function.update_of_ne touched] at found
    exact owned fileId file derivation found derived

end RowsOwned

/-- The files that an admission leaves. -/
theorem admit_files {job answer : GuardJob} (admitted : db.insertJob job = .ok (answer, db')) :
    db'.files = db.files := by
  obtain ⟨_, _, admitted⟩ := bind_ok_iff.mp admitted
  obtain rfl := congrArg Prod.snd (Except.ok.inj admitted)
  rfl

/-- Every command keeps the rows of copies owned. -/
theorem RowsOwned.execute {moment : Moment} {command : GuardCommand} {answer : command.Res} (owned : RowsOwned db)
    (consistent : db.Consistent) (known : command.Known run db)
    (executed : db.execute config run moment command = .ok (answer, db')) : RowsOwned db' := by
  cases command with
  | createScan actor fileId requestKey categories phoneRegion =>
      obtain ⟨_, _, executed⟩ := bind_ok_iff.mp executed
      obtain ⟨_, _, admitted⟩ := bind_ok_iff.mp executed
      exact owned.of_same (admit_files admitted)
  | createCopy actor scan requestKey selection =>
      obtain ⟨_, _, executed⟩ := bind_ok_iff.mp executed
      obtain ⟨_, _, executed⟩ := bind_ok_iff.mp executed
      obtain ⟨_, _, admitted⟩ := bind_ok_iff.mp executed
      exact owned.of_same (admit_files admitted)
  | publishCopy job actor size redactedCells =>
      obtain ⟨held, kind, company⟩ := known
      obtain ⟨first, _, executed⟩ := bind_ok_iff.mp executed
      obtain ⟨live, resolved, executed⟩ := bind_ok_iff.mp executed
      obtain ⟨⟨fileId, published⟩, created, executed⟩ := bind_ok_iff.mp executed
      obtain ⟨stored, claimed, executed⟩ := bind_ok_iff.mp executed
      cases executed
      have found := (claimed_eq_some (orFail_ok_iff.mp claimed)).1
      obtain rfl := consistent.publishGuardCopy found (consistent.held_request held found) kind created
      refine owned.of_update rfl fun file derivation row derived => ?_
      cases row
      cases derived
      have live_company : live.companyId = job.companyId := (resolve_companyId resolved).trans company
      exact ⟨rfl, congrArg (StorageKey.guardCopy · job.id) live_company.symm⟩
  | deleteFile actor file =>
      simp only [GuardDb.execute] at executed
      split at executed
      · cases executed
        exact owned
      · cases executed
        exact owned.of_update rfl fun _ _ row => by cases row
  | publish job result digest =>
      simp only [GuardDb.execute] at executed
      split at executed
      · cases executed
        exact owned
      · obtain ⟨_, _, executed⟩ := bind_ok_iff.mp executed
        obtain ⟨_, _, executed⟩ := bind_ok_iff.mp executed
        cases executed
        exact owned.of_same rfl
  | cancel actor job =>
      obtain ⟨_, _, executed⟩ := bind_ok_iff.mp executed
      dsimp only at executed
      split at executed
      · cases executed
        exact owned
      · cases executed
        exact owned.of_same rfl
  | recordOutput job digest =>
      obtain ⟨_, _, executed⟩ := bind_ok_iff.mp executed
      obtain ⟨_, _, executed⟩ := bind_ok_iff.mp executed
      obtain ⟨_, _, executed⟩ := bind_ok_iff.mp executed
      cases executed
      exact owned.of_same rfl
  | _ =>
      simp only [GuardDb.execute] at executed
      repeat' split at executed
      all_goals cases executed
      all_goals exact owned.of_same rfl

/-- Every action keeps the rows of copies owned. -/
theorem RowsOwned.exec {act : GuardAct} {choice : GuardChoice} {answer : act.Res} (owned : RowsOwned w.db)
    (consistent : w.db.Consistent) (known : act.Known config run w)
    (executed : guardExec config run choice act w = some (answer, w')) : RowsOwned w'.db := by
  rcases db_of_exec executed with same | ⟨command, reply, rfl, done, _⟩
  · rwa [same]
  · exact owned.execute consistent known done

theorem RowsOwned.drift {change : GuardDrift} (owned : RowsOwned w.db) (drifted : guardDrift change w = some w') :
    RowsOwned w'.db := by
  cases change with
  | tick elapsed =>
      cases drifted
      exact owned
  | user id user =>
      cases drifted
      exact owned.of_same rfl
  | company id standing =>
      cases drifted
      exact owned.of_same rfl
  | upload companyId uploaderId uuid size fileType =>
      cases drifted
      refine owned.of_update rfl fun file derivation row derived => ?_
      cases row
      cases derived
  | permissions fileId visibility restrictedUserIds =>
      simp only [guardDrift] at drifted
      split at drifted
      · cases drifted
      · rename_i original matched
        cases drifted
        have underived := of_decide_eq_true (Option.filter_eq_some_iff.mp matched).2
        refine owned.of_update rfl fun file derivation row derived => ?_
        cases row
        cases underived.symm.trans derived
  | land position =>
      simp only [guardDrift] at drifted
      split at drifted
      · cases drifted
      · cases drifted
        rw [GuardWorld.apply_db]
        exact owned
  | drop position =>
      cases drifted
      exact owned

/-- A job has a file row exactly when there is one under the id that is reserved for its result. -/
theorem RowsOwned.hasCopy_iff (owned : RowsOwned db) (consistent : db.Consistent) {id : Nat} {job : GuardJob}
    (found : db.jobs id = some job) : HasCopy db id ↔ (db.trace id).copy.isSome = true := by
  constructor
  · rintro ⟨fileId, file, derivation, there, derived, rfl⟩
    obtain ⟨rfl, _⟩ := owned fileId file derivation there derived
    exact Option.isSome_iff_exists.mpr ⟨file, there⟩
  · intro present
    obtain ⟨file, there⟩ := Option.isSome_iff_exists.mp present
    obtain ⟨derivation, derived⟩ := Option.isSome_iff_exists.mp ((consistent.sound id job found).row file there).2
    obtain ⟨named, _⟩ := owned (id + 1) file derivation there derived
    exact ⟨id + 1, file, derivation, there, derived, (Nat.succ.inj named).symm⟩

/-! ### PUTs and cleanups

The object store answers late or not at all, so its log is judged by itself: a PUT belongs to a job whose digest was
recorded before, a cleanup to a job that has ended without a row. Both stay true under every later move of the job.
-/

/-- The PUT is one of its job: the digest of its bytes is recorded, and its key is the job's. -/
def PutOf (config : GuardConfig) (db : GuardDb) (put : IssuedPut) : Prop :=
  ∃ job, db.jobs put.job = some job ∧ job.outputDigest = some (config.sha256 put.body) ∧
    put.key = .guardCopy job.companyId put.job

/-- The cleanup is one of its job: the job has ended, no row of it exists, and the key is the job's. -/
def CleanupOf (db : GuardDb) (cleanup : IssuedCleanup) : Prop :=
  ∃ job, db.jobs cleanup.job = some job ∧ job.status.terminal = true ∧ (db.trace cleanup.job).copy = none ∧
    cleanup.key = .guardCopy job.companyId cleanup.job

theorem PutOf.move {put : IssuedPut} (own : PutOf config db put) (consistent : db.Consistent)
    (move : DbMove run db db') : PutOf config db' put := by
  obtain ⟨job, found, recorded, keyed⟩ := own
  obtain ⟨job', found', moved⟩ := move.job consistent found
  refine ⟨job', found', moved.outputDigest recorded, ?_⟩
  rw [keyed, congrArg GuardRequest.companyId moved.request]

theorem CleanupOf.move {cleanup : IssuedCleanup} (own : CleanupOf db cleanup) (consistent : db.Consistent)
    (move : DbMove run db db') : CleanupOf db' cleanup := by
  obtain ⟨job, found, terminal, missing, keyed⟩ := own
  obtain ⟨job', found', moved⟩ := move.job consistent found
  obtain ⟨settled, _, _, copy⟩ := moved.settled (consistent.sound _ job found) terminal
  refine ⟨job', found', settled_terminal settled terminal, ?_, ?_⟩
  · rcases copy with kept | gone
    · rw [kept]
      exact missing
    · exact gone
  · rw [keyed, congrArg GuardRequest.companyId moved.request]

/-- The log of the PUTs grows by the PUT that is issued. -/
theorem puts_of_exec {act : GuardAct} {choice : GuardChoice} {answer : act.Res}
    (executed : guardExec config run choice act w = some (answer, w')) :
    w'.puts = w.puts ∨ ∃ job key body, act = .putObject job key body ∧ w'.puts = ⟨job, key, body⟩ :: w.puts := by
  cases act with
  | command command =>
      obtain ⟨_, executed⟩ := runCommand_of_exec executed
      rcases runCommand_cases executed with ⟨rfl, _⟩ | ⟨_, _, _, rfl, _⟩
      · exact .inl rfl
      · exact .inl rfl
  | putObject job key body =>
      obtain rfl := congrArg Prod.snd (Option.some.inj executed)
      exact .inr ⟨job, key, body, rfl, GuardWorld.request_puts ..⟩
  | deleteObject cleanup key =>
      cases cleanup with
      | none =>
          obtain rfl := congrArg Prod.snd (Option.some.inj executed)
          exact .inl (GuardWorld.request_puts ..)
      | some job =>
          obtain rfl := congrArg Prod.snd (Option.some.inj executed)
          exact .inl (GuardWorld.request_puts ..)
  | _ =>
      cases executed
      exact .inl rfl

/-- The log of the cleanups grows by the deletion that a cleanup issues. -/
theorem cleanups_of_exec {act : GuardAct} {choice : GuardChoice} {answer : act.Res}
    (executed : guardExec config run choice act w = some (answer, w')) :
    w'.cleanups = w.cleanups ∨
      ∃ job key, act = .deleteObject (some job) key ∧ w'.cleanups = ⟨job, key⟩ :: w.cleanups := by
  cases act with
  | command command =>
      obtain ⟨_, executed⟩ := runCommand_of_exec executed
      rcases runCommand_cases executed with ⟨rfl, _⟩ | ⟨_, _, _, rfl, _⟩
      · exact .inl rfl
      · exact .inl rfl
  | putObject job key body =>
      obtain rfl := congrArg Prod.snd (Option.some.inj executed)
      exact .inl (GuardWorld.request_cleanups ..)
  | deleteObject cleanup key =>
      cases cleanup with
      | none =>
          obtain rfl := congrArg Prod.snd (Option.some.inj executed)
          exact .inl (GuardWorld.request_cleanups ..)
      | some job =>
          obtain rfl := congrArg Prod.snd (Option.some.inj executed)
          exact .inr ⟨job, key, rfl, GuardWorld.request_cleanups ..⟩
  | _ =>
      cases executed
      exact .inl rfl

/-- The environment issues no request of a handler. -/
theorem logs_of_drift {change : GuardDrift} (drifted : guardDrift change w = some w') :
    w'.puts = w.puts ∧ w'.cleanups = w.cleanups := by
  cases change with
  | permissions fileId visibility restrictedUserIds =>
      simp only [guardDrift] at drifted
      split at drifted
      · cases drifted
      · cases drifted
        exact ⟨rfl, rfl⟩
  | land position =>
      simp only [guardDrift] at drifted
      split at drifted
      · cases drifted
      · cases drifted
        exact ⟨GuardWorld.apply_puts .., GuardWorld.apply_cleanups ..⟩
  | _ =>
      cases drifted
      exact ⟨rfl, rfl⟩

/-- Every file row of a copy, every PUT and every cleanup belongs to its job. -/
structure Owned (config : GuardConfig) (w : GuardWorld) : Prop where
  rows : RowsOwned w.db
  puts : ∀ put ∈ w.puts, PutOf config w.db put
  cleanups : ∀ cleanup ∈ w.cleanups, CleanupOf w.db cleanup

namespace Owned

theorem exec {act : GuardAct} {choice : GuardChoice} {answer : act.Res} (owned : Owned config w)
    (consistent : w.db.Consistent) (known : act.Known config run w)
    (executed : guardExec config run choice act w = some (answer, w')) : Owned config w' := by
  have moved := moves_of_exec consistent known executed
  constructor
  case rows => exact owned.rows.exec consistent known executed
  case puts =>
    intro put mem
    rcases puts_of_exec executed with same | ⟨job, key, body, rfl, issued⟩
    · rw [same] at mem
      exact (owned.puts put mem).move consistent moved
    · rw [issued] at mem
      rcases List.mem_cons.mp mem with rfl | mem
      · have own : PutOf config w.db ⟨job, key, body⟩ := known
        exact own.move consistent moved
      · exact (owned.puts put mem).move consistent moved
  case cleanups =>
    intro cleanup mem
    rcases cleanups_of_exec executed with same | ⟨job, key, rfl, issued⟩
    · rw [same] at mem
      exact (owned.cleanups cleanup mem).move consistent moved
    · rw [issued] at mem
      rcases List.mem_cons.mp mem with rfl | mem
      · have own : CleanupOf w.db ⟨job, key⟩ := known
        exact own.move consistent moved
      · exact (owned.cleanups cleanup mem).move consistent moved

theorem drift {change : GuardDrift} (owned : Owned config w) (consistent : w.db.Consistent)
    (drifted : guardDrift change w = some w') : Owned config w' := by
  have moved : DbMove 0 w.db w'.db := drift_moves consistent drifted
  obtain ⟨puts, cleanups⟩ := logs_of_drift drifted
  constructor
  case rows => exact owned.rows.drift drifted
  case puts =>
    intro put mem
    rw [puts] at mem
    exact (owned.puts put mem).move consistent moved
  case cleanups =>
    intro cleanup mem
    rw [cleanups] at mem
    exact (owned.cleanups cleanup mem).move consistent moved

end Owned

variable {ok : GuardSystem → GuardSystemEvent → Prop} {s s' s'' : GuardSystem} {events : List GuardSystemEvent}

theorem fresh_owns (fresh : Fresh s) (reached : (guardMachine config).Run ok s events s') :
    Contract.AllMeet (guardContract config) s' ∧ Owned config s'.world := by
  refine guard_invariant (Owned config) ?_ ?_ reached fresh.allMeet ?_
  · intro run choice act w answer w' consistent owned known executed
    exact owned.exec consistent known executed
  · intro change w w' consistent owned drifted
    exact owned.drift consistent drifted
  · constructor
    case rows =>
      intro fileId file derivation found derived
      cases (fresh.db.uploads fileId file found).symm.trans derived
    case puts =>
      intro put mem
      rw [fresh.puts] at mem
      cases mem
    case cleanups =>
      intro cleanup mem
      rw [fresh.cleanups] at mem
      cases mem

/-! ### Commits

A sanitization is completed by one move only. That move creates the row and charges the upload, and no other move
creates a row or charges, so the three counts are the same number. -/

/-- A move creates no copy, or it creates one, completes the job and charges an upload. -/
theorem JobMove.copies {job job' : GuardJob} {trace trace' : JobTrace} (move : JobMove run job trace job' trace')
    (sound : JobSound job trace) :
    (job'.copied = job.copied ∧ (trace'.copy = trace.copy ∨ trace'.copy = none) ∧ trace'.charges = trace.charges) ∨
      (job.copied = false ∧ job'.copied = true ∧ trace.copy = none ∧ trace'.copy.isSome = true ∧
        trace.charges = 0 ∧ trace'.charges = 1) := by
  cases move with
  | stay => exact .inl ⟨rfl, .inl rfl, rfl⟩
  | mark pending after => exact .inl ⟨rfl, .inl rfl, rfl⟩
  | enter phase processing => exact .inl ⟨rfl, .inl rfl, rfl⟩
  | output digest processing held same => exact .inl ⟨rfl, .inl rfl, rfl⟩
  | removed present => exact .inl ⟨rfl, .inr rfl, rfl⟩
  | claim now leaseMs queued =>
      exact .inl ⟨by simp [GuardJob.copied, GuardJob.takeLease, queued], .inl rfl, rfl⟩
  | scanned result digest now companyId kind processing =>
      exact .inl ⟨by simp [GuardJob.copied, GuardJob.completeScan, GuardJob.unlease, kind], .inl rfl, rfl⟩
  | failed errorCode now processing =>
      exact .inl ⟨by simp [GuardJob.copied, GuardJob.fail, processing], .inl rfl, rfl⟩
  | cancelled now active =>
      have unfinished : job.status.terminal = false := by
        have still := sound.active
        rw [active] at still
        simpa using still
      refine .inl ⟨?_, .inl rfl, rfl⟩
      rw [GuardJob.uncopied (JobSound.not_completed unfinished)]
      simp [GuardJob.copied, GuardJob.cancel]
  | requeued processing few =>
      exact .inl ⟨by simp [GuardJob.copied, GuardJob.requeue, processing], .inl rfl, rfl⟩
  | copied redactedCells size now actor key kind processing company =>
      have rest := sound.unfinished (JobSound.open_of_processing processing)
      refine .inr ⟨?_, ?_, rest.copy, rfl, rest.charges, congrArg (· + 1) rest.charges⟩
      · simp [GuardJob.copied, processing]
      · simp [GuardJob.copied, GuardJob.completeCopy, GuardJob.unlease, kind]

/-- What was published and charged for a job: a completed sanitization has published one copy and charged one upload,
every other job none, and the row of the copy is there until somebody deletes it. -/
structure CopiedOnce (db : GuardDb) (job : GuardJob) : Prop where
  once : db.copies.count job.id ≤ 1
  charged : db.charges.count job.id = db.copies.count job.id
  completed : db.copies.count job.id = 1 ↔ job.kind = .sanitize ∧ job.status = .completed
  row : HasCopy db job.id ↔ (job.kind = .sanitize ∧ job.status = .completed) ∧ job.id + 1 ∉ db.removed

theorem GuardJob.copied_iff (job : GuardJob) : job.copied = true ↔ job.kind = .sanitize ∧ job.status = .completed := by
  simp [GuardJob.copied]

theorem RowsOwned.copiedOnce (owned : RowsOwned db) (consistent : db.Consistent) {id : Nat} {job : GuardJob}
    (found : db.jobs id = some job) : CopiedOnce db job := by
  have sound := consistent.sound id job found
  obtain ⟨rfl, _⟩ := consistent.ids id job found
  have copies : db.copies.count job.id = if job.copied then 1 else 0 := sound.copies
  constructor
  case once =>
    rw [copies]
    split
    · exact Nat.le_refl 1
    · exact Nat.zero_le 1
  case charged => exact sound.charges
  case completed =>
    rw [copies, ← job.copied_iff]
    cases job.copied <;> simp
  case row =>
    rw [owned.hasCopy_iff consistent found, sound.present, ← job.copied_iff]
    simp [GuardDb.trace]

/-- The step that creates the row of a job is the one that completes it, and it charges one upload. -/
theorem copy_committed_iff (fresh : Fresh s) (reached : (guardMachine config).Run ok s events s')
    {event : GuardSystemEvent} (applied : (guardMachine config).apply s' event = some s'') {id : Nat}
    {job job' : GuardJob} (found : s'.world.db.jobs id = some job) (found' : s''.world.db.jobs id = some job') :
    (¬ HasCopy s'.world.db id ∧ HasCopy s''.world.db id ↔ job.copied = false ∧ job'.copied = true) ∧
      (¬ HasCopy s'.world.db id ∧ HasCopy s''.world.db id →
        s'.world.db.charges.count id = 0 ∧ s''.world.db.charges.count id = 1) := by
  obtain ⟨all, owned⟩ := fresh_owns fresh reached
  have further := (reached.mono fun _ _ _ => trivial).trans (.cons trivial applied (.nil s''))
  obtain ⟨all', owned'⟩ := fresh_owns fresh further
  rw [owned.rows.hasCopy_iff all.inv found, owned'.rows.hasCopy_iff all'.inv found']
  obtain ⟨run, moves⟩ := moves_of_apply all applied
  obtain ⟨stored, there, moved⟩ := moves.job all.inv found
  cases found'.symm.trans there
  rcases moved.copies (all.inv.sound id job found) with ⟨same, row, _⟩ | ⟨before, after, absent, present, none, one⟩
  · have kept : ¬ (¬ (s'.world.db.trace id).copy.isSome = true ∧ (s''.world.db.trace id).copy.isSome = true) := by
      rintro ⟨missing, present⟩
      rcases row with row | row
      · rw [row] at present
        exact missing present
      · rw [row] at present
        cases present
    refine ⟨⟨fun created => absurd created kept, ?_⟩, fun created => absurd created kept⟩
    rintro ⟨before, after⟩
    cases before.symm.trans (same.symm.trans after)
  · have created : ¬ (s'.world.db.trace id).copy.isSome = true ∧ (s''.world.db.trace id).copy.isSome = true := by
      rw [absent]
      exact ⟨Bool.false_ne_true, present⟩
    exact ⟨⟨fun _ => ⟨before, after⟩, fun _ => created⟩, fun _ => ⟨none, one⟩⟩

/-- In every run from a system without jobs: a job gets one row at most, in the step that completes it and charges
the upload; all its PUTs carry bytes of one digest; and a key that a cleanup has deleted, or is still deleting, is
that of a job without a row. -/
theorem sanitized_copies (fresh : Fresh s) (reached : (guardMachine config).Run ok s events s') :
    (∀ id job, s'.world.db.jobs id = some job → CopiedOnce s'.world.db job) ∧
      (∀ event s'' id job job', (guardMachine config).apply s' event = some s'' →
        s'.world.db.jobs id = some job → s''.world.db.jobs id = some job' →
        (¬ HasCopy s'.world.db id ∧ HasCopy s''.world.db id ↔ job.copied = false ∧ job'.copied = true) ∧
          (¬ HasCopy s'.world.db id ∧ HasCopy s''.world.db id →
            s'.world.db.charges.count id = 0 ∧ s''.world.db.charges.count id = 1)) ∧
      (∀ first ∈ s'.world.puts, ∀ second ∈ s'.world.puts, first.job = second.job →
        config.sha256 first.body = config.sha256 second.body) ∧
      ∀ cleanup ∈ s'.world.cleanups, ¬ HasCopy s'.world.db cleanup.job ∧
        ∃ job, s'.world.db.jobs cleanup.job = some job ∧ cleanup.key = .guardCopy job.companyId job.id := by
  obtain ⟨all, owned⟩ := fresh_owns fresh reached
  constructor
  · intro id job found
    exact owned.rows.copiedOnce all.inv found
  constructor
  · intro event s'' id job job' applied found found'
    exact copy_committed_iff fresh reached applied found found'
  constructor
  · intro first mem second mem' same
    obtain ⟨job, found, recorded, _⟩ := owned.puts first mem
    obtain ⟨job', found', recorded', _⟩ := owned.puts second mem'
    rw [same] at found
    cases found.symm.trans found'
    exact Option.some.inj (recorded.symm.trans recorded')
  · intro cleanup mem
    obtain ⟨job, found, _, missing, keyed⟩ := owned.cleanups cleanup mem
    obtain ⟨named, _⟩ := all.inv.ids _ job found
    refine ⟨?_, job, found, ?_⟩
    · rw [owned.rows.hasCopy_iff all.inv found, missing]
      exact Bool.false_ne_true
    · rw [keyed, named]

/-- A child that answers with a copy of three bytes. -/
def threeBytes : GuardChoice := { sanitize := .ok ⟨[1, 2, 3], 1, 3⟩ }

/-- A copy is requested. The first worker stalls while its PUT is under way; the second one publishes, and then the
first PUT takes effect. The owner deletes the copy, and a cleanup deletes its object once more. -/
def retriedCopy : List GuardSystemEvent :=
  .arrive (.submitScan owner 0 ⟨5, [.email], none⟩) :: stepping 0 7 {} ++ .arrive .tick :: stepping 1 18 oneFinding ++
    .arrive (.submitCopy owner 2 ⟨6, [.email], []⟩) :: stepping 2 7 {} ++
    .arrive .tick :: stepping 3 22 threeBytes ++ stepping 3 1 { threeBytes with fate := .lostBefore } ++
    .drift (.tick 120000) :: .arrive .tick :: stepping 4 26 threeBytes ++ .drift (.land 0) ::
    .arrive (.deleteFile owner 5) :: stepping 5 4 {} ++ .arrive .tick :: stepping 6 5 {}

theorem sanitized_copies_retried :
    ∃ s', (guardMachine approvedGuard).play retriedCopy oneWorkbook = some s' ∧
      s'.world.db.copies = [4] ∧ s'.world.db.charges = [4] ∧ s'.world.db.removed = [5] ∧
      s'.world.puts.length = 2 ∧ s'.world.cleanups.length = 1 ∧
      (∀ first ∈ s'.world.puts, ∀ second ∈ s'.world.puts, first.job = second.job →
        approvedGuard.sha256 first.body = approvedGuard.sha256 second.body) ∧
      ∀ cleanup ∈ s'.world.cleanups, ¬ HasCopy s'.world.db cleanup.job := by
  have plays : ((guardMachine approvedGuard).play retriedCopy oneWorkbook).any fun s' => decide
      (s'.world.db.copies = [4] ∧ s'.world.db.charges = [4] ∧ s'.world.db.removed = [5] ∧
        s'.world.puts.length = 2 ∧ s'.world.cleanups.length = 1) := by decide +kernel
  obtain ⟨s', played, checks⟩ := (Option.any_eq_true ..).mp plays
  obtain ⟨copies, charges, removed, puts, cleanups⟩ := of_decide_eq_true checks
  obtain ⟨_, _, digests, safe⟩ := sanitized_copies oneWorkbook_fresh (Machine.run_of_play played)
  exact ⟨s', played, copies, charges, removed, puts, cleanups, digests, fun cleanup mem => (safe cleanup mem).1⟩

end DataVault.Guard
