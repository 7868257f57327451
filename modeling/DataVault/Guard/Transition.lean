/-
Module: DataVault.Guard.Transition
Layer: Specification
Purpose: What a step can do to the collections of the guard, job by job: every command that succeeds moves one job
  by a move of DataVault.Guard.JobMachine, admits a new one, or touches none. The collections stay consistent:
  every job is sound, the ids that were not given out have no trace, and every lease was claimed under its token.
Imports: DataVault.Guard.JobMachine
Trusted boundary: human-reviewed spec
Main exports: GuardDb.Consistent, DbMove, GuardDb.Consistent.move, GuardCommand.Known, execute_moves, drift_moves
-/
import DataVault.Guard.JobMachine

namespace DataVault.Guard

open DataVault.Control DataVault.Users

variable {config : GuardConfig} {run : Nat} {db db' : GuardDb}

/-! ### Traces under the writes -/

@[simp] theorem setJob_trace (db : GuardDb) (job : GuardJob) (id : Nat) : (db.setJob job).trace id = db.trace id := rfl

theorem addEvent_trace (db : GuardDb) (job : GuardJob) (actorId : Nat) (action : GuardAction) (id : Nat) :
    (db.addEvent job actorId action).trace id =
      if job.id = id then { db.trace id with actions := action :: (db.trace id).actions } else db.trace id := by
  unfold GuardDb.trace GuardDb.addEvent
  by_cases same : job.id = id
  · simp [same]
  · simp [same]

/-! ### Consistency

A job has a document, a trace of events, a lease and, for a copy, a row of a file. `Consistent` says job by job that
these fit together, with ids given out in pairs; a step is then a move of one job, so the invariant of the
collections is that of the machine of one job. -/

/-- The collections fit together. Ids are given out in pairs: that of a job and that of its result. -/
structure GuardDb.Consistent (db : GuardDb) : Prop where
  ids : ∀ id job, db.jobs id = some job → job.id = id ∧ id + 1 < db.nextId
  fresh : ∀ id, db.nextId ≤ id + 1 → db.trace id = {}
  tokens : (db.leases.map (·.token)).Nodup
  leased : ∀ id job token, db.jobs id = some job → job.leaseToken = some token → ∃ lease ∈ db.leases,
    lease.token = token ∧ lease.job.id = id ∧ lease.job.attempts = job.attempts
  held : ∀ lease ∈ db.leases, ∃ job, db.jobs lease.job.id = some job ∧
    job.toGuardRequest = lease.job.toGuardRequest
  sound : ∀ id job, db.jobs id = some job → JobSound job (db.trace id)

/-- What a step of `run` can do: something that concerns no job, create one, or move one. A job that is created takes
two ids, the second for the file that may come of it. -/
inductive DbMove (run : Nat) (db db' : GuardDb) : Prop
  | quiet (jobs : db'.jobs = db.jobs) (leases : db'.leases = db.leases) (nextId : db.nextId ≤ db'.nextId)
      (known : ∀ id job, db.jobs id = some job → db'.trace id = db.trace id)
      (unknown : ∀ id, db'.nextId ≤ id + 1 → db'.trace id = db.trace id)
  | born {job : GuardJob} (id : job.id = db.nextId) (nextId : db'.nextId = db.nextId + 2)
      (jobs : db'.jobs = Function.update db.jobs job.id (some job)) (leases : db'.leases = db.leases)
      (unleased : job.leaseToken = none) (sound : JobSound job (db'.trace job.id))
      (others : ∀ id, id ≠ job.id → db'.trace id = db.trace id)
  | moved {id : Nat} {job job' : GuardJob} (found : db.jobs id = some job)
      (jobs : db'.jobs = Function.update db.jobs id (some job')) (nextId : db'.nextId = db.nextId)
      (move : JobMove run job (db.trace id) job' (db'.trace id))
      (leases : db'.leases = db.leases ∧ (job'.leaseToken = job.leaseToken ∨ job'.leaseToken = none) ∧
          job'.attempts = job.attempts ∨
        db'.leases = ⟨run, job'⟩ :: db.leases ∧ job'.leaseToken = some run ∧
          ∀ lease ∈ db.leases, lease.token ≠ run)
      (others : ∀ other, other ≠ id → db'.trace other = db.trace other)

namespace GuardDb.Consistent

theorem quiet (consistent : db.Consistent) (jobs : db'.jobs = db.jobs) (leases : db'.leases = db.leases)
    (nextId : db.nextId ≤ db'.nextId) (known : ∀ id job, db.jobs id = some job → db'.trace id = db.trace id)
    (unknown : ∀ id, db'.nextId ≤ id + 1 → db'.trace id = db.trace id) : db'.Consistent := by
  constructor
  case ids =>
    intro id job found
    rw [jobs] at found
    obtain ⟨named, early⟩ := consistent.ids id job found
    exact ⟨named, early.trans_le nextId⟩
  case fresh =>
    intro id late
    rw [unknown id late]
    exact consistent.fresh id (nextId.trans late)
  case tokens =>
    rw [leases]
    exact consistent.tokens
  case leased =>
    rw [jobs, leases]
    exact consistent.leased
  case held =>
    rw [jobs, leases]
    exact consistent.held
  case sound =>
    intro id job found
    rw [jobs] at found
    rw [known id job found]
    exact consistent.sound id job found

theorem born (consistent : db.Consistent) {job : GuardJob} (named : job.id = db.nextId)
    (nextId : db'.nextId = db.nextId + 2) (jobs : db'.jobs = Function.update db.jobs job.id (some job))
    (leases : db'.leases = db.leases) (unleased : job.leaseToken = none)
    (sound : JobSound job (db'.trace job.id)) (others : ∀ id, id ≠ job.id → db'.trace id = db.trace id) :
    db'.Consistent := by
  have older : ∀ id stored, db.jobs id = some stored → id ≠ job.id := by
    intro id stored found
    have early := (consistent.ids id stored found).2
    omega
  have cases_job : ∀ id stored, db'.jobs id = some stored →
      id = job.id ∧ stored = job ∨ id ≠ job.id ∧ db.jobs id = some stored := by
    intro id stored found
    rw [jobs] at found
    by_cases same : id = job.id
    · subst same
      rw [Function.update_self] at found
      exact .inl ⟨rfl, (Option.some.inj found).symm⟩
    · rw [Function.update_of_ne same] at found
      exact .inr ⟨same, found⟩
  constructor
  case ids =>
    intro id stored found
    rcases cases_job id stored found with ⟨rfl, rfl⟩ | ⟨_, found⟩
    · exact ⟨rfl, by omega⟩
    · obtain ⟨same, early⟩ := consistent.ids id stored found
      exact ⟨same, by omega⟩
  case fresh =>
    intro id late
    rw [others id (by omega)]
    exact consistent.fresh id (by omega)
  case tokens =>
    rw [leases]
    exact consistent.tokens
  case leased =>
    intro id stored token found leased
    rcases cases_job id stored found with ⟨rfl, rfl⟩ | ⟨_, found⟩
    · cases unleased.symm.trans leased
    · rw [leases]
      exact consistent.leased id stored token found leased
  case held =>
    intro lease mem
    rw [leases] at mem
    obtain ⟨stored, found, same⟩ := consistent.held lease mem
    refine ⟨stored, ?_, same⟩
    rw [jobs, Function.update_of_ne (older _ _ found)]
    exact found
  case sound =>
    intro id stored found
    rcases cases_job id stored found with ⟨rfl, rfl⟩ | ⟨other, found⟩
    · exact sound
    · rw [others id other]
      exact consistent.sound id stored found

theorem moved (consistent : db.Consistent) {id : Nat} {job job' : GuardJob} (found : db.jobs id = some job)
    (jobs : db'.jobs = Function.update db.jobs id (some job')) (nextId : db'.nextId = db.nextId)
    (move : JobMove run job (db.trace id) job' (db'.trace id))
    (leases : db'.leases = db.leases ∧ (job'.leaseToken = job.leaseToken ∨ job'.leaseToken = none) ∧
        job'.attempts = job.attempts ∨
      db'.leases = ⟨run, job'⟩ :: db.leases ∧ job'.leaseToken = some run ∧ ∀ lease ∈ db.leases, lease.token ≠ run)
    (others : ∀ other, other ≠ id → db'.trace other = db.trace other) : db'.Consistent := by
  have request : job'.toGuardRequest = job.toGuardRequest := move.request
  have same_id : job'.id = id := (congrArg GuardRequest.id request).trans (consistent.ids id job found).1
  have cases_job : ∀ other stored, db'.jobs other = some stored →
      other = id ∧ stored = job' ∨ other ≠ id ∧ db.jobs other = some stored := by
    intro other stored there
    rw [jobs] at there
    by_cases same : other = id
    · subst same
      rw [Function.update_self] at there
      exact .inl ⟨rfl, (Option.some.inj there).symm⟩
    · rw [Function.update_of_ne same] at there
      exact .inr ⟨same, there⟩
  have kept : ∀ lease ∈ db.leases, lease ∈ db'.leases := by
    intro lease mem
    rcases leases with ⟨same, _⟩ | ⟨taken, _⟩
    · rwa [same]
    · rw [taken]
      exact List.mem_cons_of_mem _ mem
  constructor
  case ids =>
    intro other stored there
    rw [nextId]
    rcases cases_job other stored there with ⟨rfl, rfl⟩ | ⟨_, there⟩
    · exact ⟨same_id, (consistent.ids _ job found).2⟩
    · exact consistent.ids other stored there
  case fresh =>
    intro other late
    rw [nextId] at late
    rw [others other fun same => by
      subst same
      exact absurd late (Nat.not_le.mpr (consistent.ids _ job found).2)]
    exact consistent.fresh other late
  case tokens =>
    rcases leases with ⟨same, _⟩ | ⟨taken, _, fresh⟩
    · rw [same]
      exact consistent.tokens
    · rw [taken, List.map_cons, List.nodup_cons]
      refine ⟨fun mem => ?_, consistent.tokens⟩
      obtain ⟨lease, mem, same⟩ := List.mem_map.mp mem
      exact fresh lease mem same
  case leased =>
    intro other stored token there leased
    rcases cases_job other stored there with ⟨rfl, rfl⟩ | ⟨_, there⟩
    · rcases leases with ⟨same, still | gone, attempts⟩ | ⟨taken, own, _⟩
      · rw [still] at leased
        obtain ⟨lease, mem, of_token, of_id, of_attempts⟩ := consistent.leased _ job token found leased
        exact ⟨lease, kept lease mem, of_token, of_id, of_attempts.trans attempts.symm⟩
      · cases gone.symm.trans leased
      · refine ⟨⟨run, stored⟩, ?_, Option.some.inj (own.symm.trans leased), same_id, rfl⟩
        rw [taken]
        exact List.mem_cons_self ..
    · obtain ⟨lease, mem, rest⟩ := consistent.leased other stored token there leased
      exact ⟨lease, kept lease mem, rest⟩
  case held =>
    have stays : ∀ lease ∈ db.leases, ∃ stored, db'.jobs lease.job.id = some stored ∧
        stored.toGuardRequest = lease.job.toGuardRequest := by
      intro lease mem
      obtain ⟨stored, there, same⟩ := consistent.held lease mem
      rw [jobs]
      by_cases touched : lease.job.id = id
      · rw [touched] at there ⊢
        cases found.symm.trans there
        exact ⟨job', Function.update_self .., request.trans same⟩
      · exact ⟨stored, (Function.update_of_ne touched ..).trans there, same⟩
    intro lease mem
    rcases leases with ⟨same, _⟩ | ⟨taken, _⟩
    · rw [same] at mem
      exact stays lease mem
    · rw [taken] at mem
      rcases List.mem_cons.mp mem with rfl | mem
      · refine ⟨job', ?_, rfl⟩
        rw [jobs, same_id]
        exact Function.update_self ..
      · exact stays lease mem
  case sound =>
    intro other stored there
    rcases cases_job other stored there with ⟨rfl, rfl⟩ | ⟨untouched, there⟩
    · exact (consistent.sound _ job found).move move
    · rw [others other untouched]
      exact consistent.sound other stored there

/-- Every step keeps the collections consistent. -/
theorem move (consistent : db.Consistent) (move : DbMove run db db') : db'.Consistent := by
  cases move with
  | quiet jobs leases nextId known unknown => exact consistent.quiet jobs leases nextId known unknown
  | born id nextId jobs leases unleased sound others =>
      exact consistent.born id nextId jobs leases unleased sound others
  | moved found jobs nextId move leases others => exact consistent.moved found jobs nextId move leases others

end GuardDb.Consistent

/-- A step moves each job, or leaves it as it is. -/
theorem DbMove.job (move : DbMove run db db') (consistent : db.Consistent) {id : Nat} {job : GuardJob}
    (found : db.jobs id = some job) :
    ∃ job', db'.jobs id = some job' ∧ JobMove run job (db.trace id) job' (db'.trace id) := by
  cases move with
  | quiet jobs leases nextId known unknown =>
      rw [known id job found, jobs]
      exact ⟨job, found, .stay⟩
  | @born new named nextId jobs leases unleased sound others =>
      have older : id ≠ new.id := by
        have early := (consistent.ids id job found).2
        omega
      rw [others id older, jobs, Function.update_of_ne older]
      exact ⟨job, found, .stay⟩
  | @moved touched stored stored' there jobs nextId move leases others =>
      rw [jobs]
      by_cases same : id = touched
      · subst same
        cases found.symm.trans there
        exact ⟨stored', Function.update_self .., move⟩
      · rw [others id same, Function.update_of_ne same]
        exact ⟨job, found, .stay⟩

/-- What a step of another run leaves of a job. -/
theorem DbMove.follows (move : DbMove run db db') (consistent : db.Consistent) {other : Nat} (foreign : run ≠ other)
    {id : Nat} {job : GuardJob} (found : db.jobs id = some job) :
    ∃ job', db'.jobs id = some job' ∧ JobFollows other job (db.trace id) job' (db'.trace id) := by
  obtain ⟨job', found', moved⟩ := move.job consistent found
  exact ⟨job', found', .of_move moved (consistent.sound id job found) foreign⟩

/-! ### Commands

Each command is inverted where it succeeds and shown to be one move of one job. What the acting run has to know for
that, chiefly that the document it holds was claimed under its token, is stated command by command in `Known`. -/

/-- What a run knows when it executes a command. It publishes only under a lease that it has taken with the job as it
then was, and recovers a job only from a lease that was claimed. -/
def GuardCommand.Known (run : Nat) (db : GuardDb) : GuardCommand → Prop
  | .publish job _ _ => ⟨run, job⟩ ∈ db.leases ∧ job.kind = .scan
  | .recoverJob expired => ∀ token, expired.leaseToken = some token → ∃ lease ∈ db.leases,
      lease.token = token ∧ lease.job.id = expired.id ∧ lease.job.attempts = expired.attempts
  | .recordOutput job _ => ∀ stored, db.jobs job.id = some stored → stored.leaseToken = some run →
      stored.outputDigest = job.outputDigest
  | .publishCopy job actor _ _ => ⟨run, job⟩ ∈ db.leases ∧ job.kind = .sanitize ∧ actor.companyId = job.companyId
  | _ => True

theorem claimed_eq_some {job stored : GuardJob} {now : Int} (claimed : db.claimed job run now = some stored) :
    db.jobs job.id = some stored ∧ stored.status = .processing ∧ stored.leaseToken = some run := by
  obtain ⟨found, passes⟩ := Option.filter_eq_some_iff.mp claimed
  simp only [Bool.and_eq_true, decide_eq_true_eq] at passes
  exact ⟨found, passes.1.1.1.2, passes.1.2⟩

theorem mem_allJobs {job : GuardJob} (mem : job ∈ db.allJobs) : ∃ id, db.jobs id = some job := by
  obtain ⟨id, _, found⟩ := List.mem_filterMap.mp mem
  exact ⟨id, found⟩

theorem firstQueued_eq_some {approved : Bool} {job : GuardJob} (first : db.firstQueued approved = some job) :
    (∃ id, db.jobs id = some job) ∧ job.status = .queued := by
  have mem := (List.mem_insertionSort _).mp (List.mem_of_mem_head? first)
  obtain ⟨mem, passes⟩ := List.mem_filter.mp mem
  simp only [Bool.and_eq_true, decide_eq_true_eq] at passes
  exact ⟨mem_allJobs mem, passes.1.1⟩

/-- The actor that access is resolved to belongs to the company. -/
theorem resolve_companyId {userId companyId fileId : Nat} {actor : AuthenticatedUser}
    (resolved : db.resolve userId companyId fileId = .ok actor) : actor.companyId = companyId := by
  obtain ⟨_, _, resolved⟩ := bind_ok_iff.mp resolved
  obtain ⟨_, _, resolved⟩ := bind_ok_iff.mp resolved
  obtain ⟨_, _, resolved⟩ := bind_ok_iff.mp resolved
  obtain ⟨_, _, resolved⟩ := bind_ok_iff.mp resolved
  cases resolved
  rfl

namespace DbMove

theorem unchanged : DbMove run db db := .quiet rfl rfl (Nat.le_refl _) (fun _ _ _ => rfl) fun _ _ => rfl

/-- A document is replaced. -/
theorem set {job job' : GuardJob} (found : db.jobs job.id = some job)
    (move : JobMove run job (db.trace job.id) job' (db.trace job.id))
    (token : job'.leaseToken = job.leaseToken) (attempts : job'.attempts = job.attempts) :
    DbMove run db (db.setJob job') := by
  have same : job'.id = job.id := congrArg GuardRequest.id move.request
  refine .moved found ?_ rfl move (.inl ⟨rfl, .inl token, attempts⟩) fun _ _ => rfl
  show Function.update db.jobs job'.id (some job') = Function.update db.jobs job.id (some job')
  rw [same]

/-- A document is replaced, its lease is released and an event is written. -/
theorem set_event {job job' named : GuardJob} {actorId : Nat} {action : GuardAction}
    (found : db.jobs job.id = some job) (same : named.id = job.id)
    (move : JobMove run job (db.trace job.id) job'
      { db.trace job.id with actions := action :: (db.trace job.id).actions })
    (released : job'.leaseToken = none) (attempts : job'.attempts = job.attempts) :
    DbMove run db ((db.setJob job').addEvent named actorId action) := by
  have same_id : job'.id = job.id := congrArg GuardRequest.id move.request
  refine .moved found ?_ rfl ?_ (.inl ⟨rfl, .inr released, attempts⟩) ?_
  · show Function.update db.jobs job'.id (some job') = Function.update db.jobs job.id (some job')
    rw [same_id]
  · rw [addEvent_trace, if_pos same, setJob_trace]
    exact move
  · intro other differs
    rw [addEvent_trace, if_neg fun equal => differs (equal.symm.trans same), setJob_trace]

end DbMove

namespace GuardDb.Consistent

variable {other : Nat} {answer : GuardJob} {moment : Moment}

/-- An admitted job is a new one. -/
theorem insertJob (consistent : db.Consistent) {job : GuardJob} (named : job.id = db.nextId)
    (queued : job.status = .queued) (active : job.active = true) (unleased : job.leaseToken = none)
    (untried : job.attempts = 0)
    (result : job.kind = .sanitize →
      job.resultFileId = some (job.id + 1) ∧ job.outputStorageKey = some (.guardCopy job.companyId job.id))
    (admitted : db.insertJob job = .ok (answer, db')) : DbMove other db db' := by
  obtain ⟨_, _, admitted⟩ := bind_ok_iff.mp admitted
  obtain rfl := congrArg Prod.snd (Except.ok.inj admitted)
  have empty : db.trace job.id = {} := consistent.fresh job.id (by omega)
  have traced : ∀ id, (GuardDb.addEvent { db.setJob job with nextId := db.nextId + 2 } job job.requestedBy .queued).trace
      id = if job.id = id then { db.trace id with actions := .queued :: (db.trace id).actions } else db.trace id :=
    fun id => addEvent_trace { db.setJob job with nextId := db.nextId + 2 } job job.requestedBy .queued id
  refine .born named rfl rfl rfl unleased ?_ ?_
  · rw [traced, if_pos rfl, empty]
    have rest : JobTrace.Unfinished { actions := [GuardAction.queued] } := ⟨rfl, rfl, rfl, rfl, rfl, rfl⟩
    refine JobSound.of_unfinished rest ?_ active ?_ ?_ ?_ rfl result
    · rw [queued]
      rfl
    · simp [unleased, queued]
    · omega
    · omega
  · intro id other
    rw [traced, if_neg (Ne.symm other)]

theorem createScan (consistent : db.Consistent) {actor : AuthenticatedUser} {fileId requestKey : Nat}
    {categories : List Category} {phoneRegion : Option String}
    (executed : db.execute config run moment (.createScan actor fileId requestKey categories phoneRegion) =
      .ok (answer, db')) : DbMove other db db' := by
  obtain ⟨_, _, executed⟩ := bind_ok_iff.mp executed
  obtain ⟨_, _, admitted⟩ := bind_ok_iff.mp executed
  exact consistent.insertJob rfl rfl rfl rfl rfl (fun sanitize => by cases sanitize) admitted

theorem createCopy (consistent : db.Consistent) {actor : AuthenticatedUser} {scan : GuardJob} {requestKey : Nat}
    {selection : RedactionSelection}
    (executed : db.execute config run moment (.createCopy actor scan requestKey selection) = .ok (answer, db')) :
    DbMove other db db' := by
  obtain ⟨_, _, executed⟩ := bind_ok_iff.mp executed
  obtain ⟨_, _, executed⟩ := bind_ok_iff.mp executed
  obtain ⟨_, _, admitted⟩ := bind_ok_iff.mp executed
  exact consistent.insertJob rfl rfl rfl rfl rfl (fun _ => ⟨rfl, rfl⟩) admitted

theorem claimNext (consistent : db.Consistent) {taken : Option GuardJob}
    (known : ∀ lease ∈ db.leases, lease.token ≠ run)
    (executed : db.execute config run moment .claimNext = .ok (taken, db')) : DbMove run db db' := by
  simp only [GuardDb.execute] at executed
  split at executed
  · cases executed
    exact .unchanged
  · rename_i job first
    cases executed
    obtain ⟨⟨id, found⟩, queued⟩ := firstQueued_eq_some first
    obtain ⟨rfl, _⟩ := consistent.ids id job found
    exact .moved found rfl rfl (.claim moment.now config.limits.leaseMs queued) (.inr ⟨rfl, rfl, known⟩) fun _ _ => rfl

theorem setPhase (consistent : db.Consistent) {job : GuardJob} {phase : GuardPhase} {done : Unit}
    (executed : db.execute config run moment (.setPhase job phase) = .ok (done, db')) : DbMove other db db' := by
  simp only [GuardDb.execute] at executed
  split at executed
  · cases executed
    exact .unchanged
  · rename_i stored claimed
    cases executed
    obtain ⟨found, processing, _⟩ := claimed_eq_some claimed
    have same := (consistent.ids job.id stored found).1
    rw [← same] at found
    exact .set found (.enter phase processing) rfl rfl

theorem terminal (consistent : db.Consistent) {job : GuardJob} {errorCode : GuardErrorCode} {done : Unit}
    (executed : db.execute config run moment (.terminal job errorCode) = .ok (done, db')) : DbMove other db db' := by
  simp only [GuardDb.execute] at executed
  split at executed
  · cases executed
    exact .unchanged
  · rename_i stored claimed
    cases executed
    obtain ⟨found, processing, _⟩ := claimed_eq_some claimed
    have same := (consistent.ids job.id stored found).1
    rw [← same] at found
    exact .set_event found same.symm (.failed errorCode moment.later processing) rfl rfl

theorem cancel (consistent : db.Consistent) {actor : AuthenticatedUser} {job : GuardJob} {done : Unit}
    (executed : db.execute config run moment (.cancel actor job) = .ok (done, db')) : DbMove other db db' := by
  obtain ⟨_, _, executed⟩ := bind_ok_iff.mp executed
  dsimp only at executed
  split at executed
  · cases executed
    exact .unchanged
  · rename_i stored matched
    cases executed
    obtain ⟨found, passes⟩ := Option.filter_eq_some_iff.mp matched
    simp only [Bool.and_eq_true] at passes
    have same := (consistent.ids job.id stored found).1
    rw [← same] at found
    exact .set_event found rfl (.cancelled moment.now passes.2) rfl rfl

theorem postponeCleanup (consistent : db.Consistent) {job : GuardJob} {done : Unit}
    (executed : db.execute config run moment (.postponeCleanup job) = .ok (done, db')) : DbMove other db db' := by
  simp only [GuardDb.execute] at executed
  split at executed
  · cases executed
    exact .unchanged
  · rename_i stored matched
    cases executed
    obtain ⟨found, _⟩ := Option.filter_eq_some_iff.mp matched
    have same := (consistent.ids job.id stored found).1
    rw [← same] at found
    exact .set found (.mark stored.cleanupPending (some (moment.now + 30000))) rfl rfl

theorem tombstone (consistent : db.Consistent) {file : CompanyFile} {derivation : FileDerivation} {done : Unit}
    (executed : db.execute config run moment (.tombstone file derivation) = .ok (done, db')) : DbMove other db db' := by
  simp only [GuardDb.execute] at executed
  split at executed
  · cases executed
    exact .unchanged
  · rename_i stored matched
    cases executed
    obtain ⟨found, _⟩ := Option.filter_eq_some_iff.mp matched
    have same := (consistent.ids derivation.jobId stored found).1
    rw [← same] at found
    exact .set found (.mark true (some moment.now)) rfl rfl

/-- A token names one claim. -/
theorem lease_unique (consistent : db.Consistent) {lease other : Lease} (mem : lease ∈ db.leases)
    (mem' : other ∈ db.leases) (same : lease.token = other.token) : lease = other :=
  List.inj_on_of_nodup_map consistent.tokens mem mem' same

/-- The request of the document that a claim returned is that of the stored one. -/
theorem held_request (consistent : db.Consistent) {job stored : GuardJob} (held : ⟨run, job⟩ ∈ db.leases)
    (found : db.jobs job.id = some stored) : stored.toGuardRequest = job.toGuardRequest := by
  obtain ⟨other, there, same⟩ := consistent.held _ held
  cases found.symm.trans there
  exact same

theorem publish (consistent : db.Consistent) {job : GuardJob} {result : ScanResult} {digest : Nat} {done : Unit}
    (held : ⟨run, job⟩ ∈ db.leases) (kind : job.kind = .scan)
    (executed : db.execute config run moment (.publish job result digest) = .ok (done, db')) :
    DbMove run db db' := by
  simp only [GuardDb.execute] at executed
  split at executed
  · cases executed
    exact .unchanged
  · rename_i stored claimed
    obtain ⟨_, _, executed⟩ := bind_ok_iff.mp executed
    obtain ⟨_, _, executed⟩ := bind_ok_iff.mp executed
    cases executed
    obtain ⟨found, processing, _⟩ := claimed_eq_some claimed
    have same := (consistent.ids job.id stored found).1
    have scan : stored.kind = .scan := (congrArg GuardRequest.kind (consistent.held_request held found)).trans kind
    have rows : ∀ id, (result.findings.map fun finding => GuardFinding.mk job.companyId job.id run finding).filter
        (fun row => decide (row.jobId = id)) = if job.id = id then
          result.findings.map fun finding => GuardFinding.mk job.companyId job.id run finding else [] := by
      intro id
      by_cases named : job.id = id <;> simp [List.filter_map, Function.comp_def, named]
    refine @DbMove.moved run db _ job.id stored (stored.completeScan result digest moment.later) found ?_ rfl ?_
      (.inl ⟨rfl, .inr rfl, rfl⟩) ?_
    · show Function.update db.jobs stored.id _ = Function.update db.jobs job.id _
      rw [same]
    · have moved : JobMove run stored (db.trace job.id) _ _ :=
        .scanned result digest moment.later job.companyId scan processing
      rw [addEvent_trace, if_pos rfl]
      simp only [GuardDb.trace, GuardDb.setJob, List.filter_append, rows job.id, if_pos] at moved ⊢
      rwa [same] at moved
    · intro other differs
      rw [addEvent_trace, if_neg (Ne.symm differs)]
      simp only [GuardDb.trace, GuardDb.setJob, List.filter_append, rows other, if_neg (Ne.symm differs),
        List.nil_append]

theorem recoverJob (consistent : db.Consistent) {expired : GuardJob} {done : Unit}
    (known : GuardCommand.Known run db (.recoverJob expired))
    (executed : db.execute config run moment (.recoverJob expired) = .ok (done, db')) : DbMove other db db' := by
  simp only [GuardDb.execute] at executed
  split at executed
  · cases executed
    exact .unchanged
  · rename_i stored matched
    obtain ⟨found, passes⟩ := Option.filter_eq_some_iff.mp matched
    simp only [Bool.and_eq_true, decide_eq_true_eq] at passes
    obtain ⟨⟨⟨_, processing⟩, token⟩, _⟩ := passes
    have same := (consistent.ids expired.id stored found).1
    have attempts : stored.attempts = expired.attempts := by
      obtain ⟨held, leased⟩ := Option.isSome_iff_exists.mp ((consistent.sound _ _ found).leased.mpr processing)
      obtain ⟨lease, mem, of_token, _, of_attempts⟩ := consistent.leased _ _ _ found leased
      obtain ⟨other, mem', of_token', _, of_attempts'⟩ := known held (token.symm.trans leased)
      cases consistent.lease_unique mem mem' (of_token.trans of_token'.symm)
      exact of_attempts.symm.trans of_attempts'
    rw [← same] at found
    split at executed
    · cases executed
      exact .set_event found same.symm (.failed .timeout moment.later processing) rfl rfl
    · rename_i few
      cases executed
      have limited : stored.attempts < 3 := by omega
      refine @DbMove.moved other db _ stored.id stored stored.requeue found rfl rfl ?_ (.inl ⟨rfl, .inr rfl, rfl⟩) ?_
      · have moved : JobMove other stored (db.trace stored.id) _ _ := .requeued processing limited
        have counted : (expired.id :: db.requeues).count stored.id = db.requeues.count stored.id + 1 := by
          rw [same, List.count_cons_self]
        have traced := addEvent_trace (db.setJob stored.requeue) expired expired.requestedBy .queued stored.id
        rw [if_pos same.symm] at traced
        simp only [GuardDb.trace, JobTrace.mk.injEq] at traced moved ⊢
        rw [counted, traced.2.1]
        exact moved
      · intro id differs
        have counted : (expired.id :: db.requeues).count id = db.requeues.count id :=
          List.count_cons_of_ne fun equal => differs (equal.symm.trans same.symm)
        have traced := addEvent_trace (db.setJob stored.requeue) expired expired.requestedBy .queued id
        rw [if_neg fun equal => differs (equal.symm.trans same.symm)] at traced
        simp only [GuardDb.trace, JobTrace.mk.injEq] at traced ⊢
        exact ⟨traced.1, traced.2.1, counted, traced.2.2.2⟩

theorem recordOutput (consistent : db.Consistent) {job : GuardJob} {digest : Nat} {actor : AuthenticatedUser}
    (known : GuardCommand.Known run db (.recordOutput job digest))
    (executed : db.execute config run moment (.recordOutput job digest) = .ok (actor, db')) :
    DbMove run db db' := by
  obtain ⟨stored, claimed, executed⟩ := bind_ok_iff.mp executed
  obtain ⟨_, accepted, executed⟩ := bind_ok_iff.mp executed
  obtain ⟨_, _, executed⟩ := bind_ok_iff.mp executed
  cases executed
  obtain ⟨found, processing, leased⟩ := claimed_eq_some (orFail_ok_iff.mp claimed)
  have same := (consistent.ids job.id stored found).1
  have agrees := require_ok_iff.mp accepted
  rw [← known stored found leased] at agrees
  rw [← same] at found
  exact .set found (.output digest processing leased agrees) rfl rfl

/-- What `publishGuardCopy` leaves: the row, and a charge. -/
theorem publishGuardCopy (consistent : db.Consistent) {job stored : GuardJob} {actor : AuthenticatedUser}
    {size fileId : Nat} (found : db.jobs job.id = some stored)
    (same : stored.toGuardRequest = job.toGuardRequest) (kind : job.kind = .sanitize)
    (published : db.publishGuardCopy config moment job actor size = .ok (fileId, db')) :
    db' = { db with
      files := Function.update db.files (job.id + 1)
        (some (GuardDb.copyRow job actor (job.id + 1) (.guardCopy job.companyId job.id) size))
      charges := job.id :: db.charges
      copies := job.id :: db.copies } := by
  obtain ⟨_, _, published⟩ := bind_ok_iff.mp published
  obtain ⟨_, _, published⟩ := bind_ok_iff.mp published
  obtain ⟨_, _, published⟩ := bind_ok_iff.mp published
  obtain ⟨_, _, published⟩ := bind_ok_iff.mp published
  obtain ⟨reserved, named, published⟩ := bind_ok_iff.mp published
  obtain ⟨key, keyed, published⟩ := bind_ok_iff.mp published
  obtain ⟨_, _, published⟩ := bind_ok_iff.mp published
  cases published
  have sound := consistent.sound job.id stored found
  obtain ⟨result, output⟩ := sound.result ((congrArg GuardRequest.kind same).trans kind)
  have of_job : job.resultFileId = some (job.id + 1) := by
    rw [← congrArg GuardRequest.resultFileId same, result, congrArg GuardRequest.id same]
  have key_of_job : job.outputStorageKey = some (.guardCopy job.companyId job.id) := by
    rw [← congrArg GuardRequest.outputStorageKey same, output, congrArg GuardRequest.companyId same,
      congrArg GuardRequest.id same]
  obtain rfl := Option.some.inj ((orFail_ok_iff.mp named).symm.trans of_job)
  obtain rfl := Option.some.inj ((orFail_ok_iff.mp keyed).symm.trans key_of_job)
  rfl

theorem publishCopy (consistent : db.Consistent) {job : GuardJob} {actor : AuthenticatedUser}
    {size redactedCells : Nat} {done : Unit}
    (known : GuardCommand.Known run db (.publishCopy job actor size redactedCells))
    (executed : db.execute config run moment (.publishCopy job actor size redactedCells) = .ok (done, db')) :
    DbMove run db db' := by
  obtain ⟨held, kind, company⟩ := known
  obtain ⟨first, claimed, executed⟩ := bind_ok_iff.mp executed
  obtain ⟨live, resolved, executed⟩ := bind_ok_iff.mp executed
  obtain ⟨⟨fileId, published⟩, created, executed⟩ := bind_ok_iff.mp executed
  obtain ⟨stored, claimed', executed⟩ := bind_ok_iff.mp executed
  cases executed
  obtain ⟨found, processing, _⟩ := claimed_eq_some (orFail_ok_iff.mp claimed')
  have same := consistent.held_request held found
  have same_id : stored.id = job.id := congrArg GuardRequest.id same
  obtain rfl := consistent.publishGuardCopy found same kind created
  let key := StorageKey.guardCopy job.companyId job.id
  have row : GuardDb.copyRow job live (job.id + 1) key size = GuardDb.copyRow stored live (job.id + 1) key size := by
    unfold GuardDb.copyRow
    rw [same_id, congrArg GuardRequest.sourceFileId same]
  have traced := addEvent_trace (GuardDb.setJob { db with
      files := Function.update db.files (job.id + 1) (some (GuardDb.copyRow job live (job.id + 1) key size))
      charges := job.id :: db.charges
      copies := job.id :: db.copies } (stored.completeCopy redactedCells moment.later)) job job.requestedBy .completed
  refine @DbMove.moved run db _ job.id stored (stored.completeCopy redactedCells moment.later) found ?_ rfl ?_
    (.inl ⟨rfl, .inr rfl, rfl⟩) ?_
  · show Function.update db.jobs stored.id _ = Function.update db.jobs job.id _
    rw [same_id]
  · have live_company : live.companyId = stored.companyId := by
      rw [resolve_companyId resolved, company, congrArg GuardRequest.companyId same]
    have sanitize : stored.kind = .sanitize := (congrArg GuardRequest.kind same).trans kind
    have moved : JobMove run stored (db.trace job.id) _ _ :=
      .copied redactedCells size moment.later live key sanitize processing live_company
    rw [traced, if_pos rfl]
    simp only [GuardDb.trace, GuardDb.setJob, List.count_cons_self, Function.update_self, row] at moved ⊢
    rwa [same_id] at moved
  · intro other differs
    have apart : other + 1 ≠ job.id + 1 := fun equal => differs (Nat.succ.inj equal)
    rw [traced, if_neg (Ne.symm differs)]
    simp only [GuardDb.trace, GuardDb.setJob, List.count_cons_of_ne (Ne.symm differs), Function.update_of_ne apart]

/-- A deletion takes the copy of one job, or it touches none. -/
theorem deleteFile (consistent : db.Consistent) {actor : AuthenticatedUser} {file : CompanyFile} {deleted : Bool}
    (executed : db.execute config run moment (.deleteFile actor file) = .ok (deleted, db')) : DbMove other db db' := by
  simp only [GuardDb.execute] at executed
  split at executed
  · cases executed
    exact .unchanged
  · rename_i row matched
    cases executed
    obtain ⟨found, _⟩ := Option.filter_eq_some_iff.mp matched
    have untouched : ∀ id, id + 1 ≠ file.id →
        GuardDb.trace { db with
          files := Function.update db.files file.id none
          removed := file.id :: db.removed } id = db.trace id := by
      intro id apart
      simp [GuardDb.trace, apart]
    by_cases owned : ∃ id job, db.jobs id = some job ∧ id + 1 = file.id
    · obtain ⟨id, job, stored, reserved⟩ := owned
      have present : (db.trace id).copy = some row := by
        rw [← reserved] at found
        exact found
      refine .moved stored (Function.update_eq_self_iff.mpr stored.symm).symm rfl ?_ (.inl ⟨rfl, .inl rfl, rfl⟩) ?_
      · have moved : JobMove other job (db.trace id) _ _ := .removed (by rw [present]; rfl)
        simp only [GuardDb.trace, ← reserved, Function.update_self] at moved ⊢
        simpa using moved
      · intro another differs
        exact untouched another fun equal => differs (Nat.succ.inj (equal.trans reserved.symm))
    · refine .quiet rfl rfl (Nat.le_refl _) ?_ ?_
      · intro id job stored
        exact untouched id fun equal => owned ⟨id, job, stored, equal⟩
      · intro id late
        apply untouched id
        intro equal
        have empty := congrArg JobTrace.copy (consistent.fresh id late)
        rw [← equal] at found
        cases empty.symm.trans found

end GuardDb.Consistent

/-- A command that succeeds is one step of the collections. -/
theorem execute_moves {moment : Moment} {command : GuardCommand} {answer : command.Res}
    (consistent : db.Consistent) (known : command.Known run db)
    (fresh : command = .claimNext → ∀ lease ∈ db.leases, lease.token ≠ run)
    (executed : db.execute config run moment command = .ok (answer, db')) : DbMove run db db' := by
  cases command with
  | createScan actor fileId requestKey categories phoneRegion => exact consistent.createScan executed
  | createCopy actor scan requestKey selection => exact consistent.createCopy executed
  | claimNext => exact consistent.claimNext (fresh rfl) executed
  | setPhase job phase => exact consistent.setPhase executed
  | publish job result digest => exact consistent.publish known.1 known.2 executed
  | terminal job errorCode => exact consistent.terminal executed
  | recoverJob expired => exact consistent.recoverJob known executed
  | cancel actor job => exact consistent.cancel executed
  | recordOutput job outputDigest => exact consistent.recordOutput known executed
  | publishCopy job actor size redactedCells => exact consistent.publishCopy known executed
  | postponeCleanup job => exact consistent.postponeCleanup executed
  | tombstone file derivation => exact consistent.tombstone executed
  | deleteFile actor file => exact consistent.deleteFile executed

/-! ### The environment -/

theorem upload_moves (consistent : db.Consistent) {file : CompanyFile} :
    DbMove run db { db with files := Function.update db.files db.nextId (some file), nextId := db.nextId + 2 } := by
  have untouched : ∀ id, id + 1 ≠ db.nextId →
      GuardDb.trace { db with files := Function.update db.files db.nextId (some file), nextId := db.nextId + 2 } id =
        db.trace id := by
    intro id apart
    simp [GuardDb.trace, apart]
  refine .quiet rfl rfl (Nat.le_add_right ..) ?_ ?_
  · intro id job found
    exact untouched id (consistent.ids id job found).2.ne
  · intro id late
    exact untouched id (by dsimp only at late; omega)

theorem permissions_moves (consistent : db.Consistent) {fileId : Nat} {file edited : CompanyFile}
    (found : db.files fileId = some file) (original : file.derivation = none) :
    DbMove run db { db with files := Function.update db.files fileId (some edited) } := by
  have untouched : ∀ id, id + 1 ≠ fileId →
      GuardDb.trace { db with files := Function.update db.files fileId (some edited) } id = db.trace id := by
    intro id apart
    simp [GuardDb.trace, apart]
  refine .quiet rfl rfl (Nat.le_refl _) ?_ ?_
  · intro id job stored
    apply untouched id
    rintro rfl
    have derived := ((consistent.sound id job stored).row file found).2
    rw [original] at derived
    cases derived
  · intro id late
    apply untouched id
    rintro rfl
    have empty := congrArg JobTrace.copy (consistent.fresh id late)
    cases empty.symm.trans found

/-- What the environment does is a step of the collections too. -/
theorem drift_moves {change : GuardDrift} {w w' : GuardWorld} (consistent : w.db.Consistent)
    (drifted : guardDrift change w = some w') : DbMove run w.db w'.db := by
  cases change with
  | tick elapsed =>
      cases drifted
      exact .unchanged
  | user id user =>
      cases drifted
      exact .quiet rfl rfl (Nat.le_refl _) (fun _ _ _ => rfl) fun _ _ => rfl
  | company id standing =>
      cases drifted
      exact .quiet rfl rfl (Nat.le_refl _) (fun _ _ _ => rfl) fun _ _ => rfl
  | upload companyId uploaderId uuid size fileType =>
      cases drifted
      exact upload_moves consistent
  | permissions fileId visibility restrictedUserIds =>
      simp only [guardDrift] at drifted
      split at drifted
      · cases drifted
      · rename_i file matched
        cases drifted
        obtain ⟨found, original⟩ := Option.filter_eq_some_iff.mp matched
        exact permissions_moves consistent found (of_decide_eq_true original)
  | land position =>
      simp only [guardDrift] at drifted
      split at drifted
      · cases drifted
      · cases drifted
        rw [GuardWorld.apply_db]
        exact .unchanged
  | drop position =>
      cases drifted
      exact .unchanged

end DataVault.Guard
