/-
Module: DataVault.Guard.Admission
Layer: Proof
Purpose: The limits on the admission of guard jobs as an invariant: one job a request key, one active job a company,
  and at most ten jobs of a company created within a minute. Every step leaves the requests of the stored jobs as
  they are and activates none, or it admits one job that the unique indexes and the count inside the transaction
  have let through.
Imports: DataVault.Guard.JobLifecycle, DataVault.Store.SlidingWindow
Trusted boundary: none
Main exports: GuardDb.requests, Admission, execute_admission, drift_admission, GuardDb.Admitted,
  GuardDb.Admitted.admission, Admitted.of_reached
-/
import DataVault.Guard.JobLifecycle
import DataVault.Store.SlidingWindow

namespace DataVault.Guard

open DataVault.Control DataVault.Interleaving DataVault.Store DataVault.Users

variable {config : GuardConfig} {run : Nat} {db db' : GuardDb}

/-! ### The requests of the stored jobs -/

/-- The immutable parts of the jobs, in the order of their ids. -/
def GuardDb.requests (db : GuardDb) : List GuardRequest :=
  (List.range db.nextId).filterMap fun id => (db.jobs id).map (·.toGuardRequest)

theorem requests_eq : db.requests = db.allJobs.map (·.toGuardRequest) := by
  rw [GuardDb.requests, GuardDb.allJobs, List.map_filterMap]

/-- When the jobs of a company were created. -/
def GuardDb.creations (db : GuardDb) (companyId : Nat) : List Int :=
  (db.requests.filter fun request => request.companyId = companyId).map (·.createdAt)

theorem recentJobs_eq {companyId : Nat} {now : Int} :
    db.recentJobs companyId now = (db.creations companyId).countP fun instant => now - 60000 ≤ instant := by
  rw [GuardDb.creations, requests_eq, List.countP_map, List.countP_filter, List.countP_map, GuardDb.recentJobs]
  refine List.countP_congr fun job _ => ?_
  simp [and_comm]

/-- Beyond the jobs that exist, further ids add nothing. -/
theorem requests_of_same {jobs : Nat → Option GuardJob} {bound bound' : Nat} (later : bound ≤ bound')
    (early : ∀ id job, jobs id = some job → id < bound) :
    ((List.range bound').filterMap fun id => (jobs id).map (·.toGuardRequest)) =
      (List.range bound).filterMap fun id => (jobs id).map (·.toGuardRequest) := by
  obtain ⟨further, rfl⟩ := Nat.exists_eq_add_of_le later
  rw [List.range_add, List.filterMap_append, List.filterMap_map]
  have none_later : (List.range further).filterMap
      ((fun id => (jobs id).map (·.toGuardRequest)) ∘ (bound + ·)) = [] := by
    rw [List.filterMap_eq_nil_iff]
    intro offset _
    cases found : jobs (bound + offset) with
    | none => simp [found]
    | some job => exact absurd (early _ job found) (by omega)
  rw [none_later, List.append_nil]

theorem GuardDb.Consistent.early (consistent : db.Consistent) {id : Nat} {job : GuardJob}
    (found : db.jobs id = some job) : id < db.nextId :=
  Nat.lt_of_succ_lt (consistent.ids id job found).2

theorem GuardDb.Consistent.mem_allJobs (consistent : db.Consistent) {id : Nat} {job : GuardJob}
    (found : db.jobs id = some job) : job ∈ db.allJobs :=
  List.mem_filterMap.mpr ⟨id, List.mem_range.mpr (consistent.early found), found⟩

/-! ### What a step does to them

Admission is decided inside the transaction that inserts the job, by the unique indexes and the count. Every other
step leaves the requests of the stored jobs alone and can only end an active job. -/

/-- No step activates a job. -/
theorem JobMove.active {job job' : GuardJob} {trace trace' : JobTrace} (move : JobMove run job trace job' trace')
    (active : job'.active = true) : job.active = true := by
  cases move with
  | scanned => cases active
  | failed => cases active
  | cancelled => cases active
  | copied => cases active
  | _ => exact active

/-- A step keeps the requests and activates nothing, or it admits one job. -/
inductive Admission (db db' : GuardDb) : Prop
  | settled (requests : db'.requests = db.requests)
      (jobs : ∀ id job', db'.jobs id = some job' → ∃ job, db.jobs id = some job ∧
        job'.toGuardRequest = job.toGuardRequest ∧ (job'.active = true → job.active = true))
  | admitted {job : GuardJob} (now : Int) (fresh : db.jobs job.id = none)
      (jobs : db'.jobs = Function.update db.jobs job.id (some job))
      (requests : db'.requests = db.requests ++ [job.toGuardRequest])
      (free : db.admits job.companyId job.requestedBy job.requestKey = true)
      (few : db.recentJobs job.companyId now < 10) (late : now ≤ job.createdAt)

namespace Admission

/-- The collection of jobs is left alone. -/
theorem of_same (consistent : db.Consistent) (jobs : db'.jobs = db.jobs) (later : db.nextId ≤ db'.nextId) :
    Admission db db' := by
  refine .settled ?_ ?_
  · unfold GuardDb.requests
    rw [jobs]
    exact requests_of_same later fun id job found => consistent.early found
  · intro id job found
    rw [jobs] at found
    exact ⟨job, found, rfl, fun active => active⟩

/-- Ids are only given out with new jobs, so that a move under the same bound touches stored jobs only. -/
theorem of_move (consistent : db.Consistent) (move : DbMove run db db') (bound : db'.nextId = db.nextId) :
    Admission db db' := by
  cases move with
  | quiet jobs _ later => exact of_same consistent jobs later
  | born _ nextId => omega
  | @moved id job job' found jobs nextId move =>
      have kept : ∀ other, (db'.jobs other).map (·.toGuardRequest) = (db.jobs other).map (·.toGuardRequest) := by
        intro other
        rw [jobs]
        by_cases same : other = id
        · subst same
          rw [Function.update_self, found, Option.map_some, Option.map_some, move.request]
        · rw [Function.update_of_ne same]
      refine .settled ?_ ?_
      · unfold GuardDb.requests
        rw [nextId]
        exact congrArg (fun request => (List.range db.nextId).filterMap request) (funext kept)
      · intro other stored there
        rw [jobs] at there
        by_cases same : other = id
        · subst same
          rw [Function.update_self] at there
          cases there
          exact ⟨job, found, move.request, move.active⟩
        · rw [Function.update_of_ne same] at there
          exact ⟨stored, there, rfl, fun active => active⟩

end Admission

/-- What is inserted is a new job, and the unique indexes admit it. -/
theorem insertJob_admission {job answer : GuardJob} {now : Int} (consistent : db.Consistent) (named : job.id = db.nextId)
    (few : db.recentJobs job.companyId now < 10) (late : now ≤ job.createdAt)
    (inserted : db.insertJob job = .ok (answer, db')) : Admission db db' := by
  obtain ⟨_, free, inserted⟩ := bind_ok_iff.mp inserted
  obtain rfl := congrArg Prod.snd (Except.ok.inj inserted)
  have fresh : ∀ id, db.nextId ≤ id → db.jobs id = none := by
    intro id late
    cases found : db.jobs id with
    | none => rfl
    | some stored => exact absurd (consistent.early found) (Nat.not_lt.mpr late)
  refine .admitted now (fresh _ (Nat.le_of_eq named.symm)) rfl ?_ (require_ok_iff.mp free) few late
  have older : ∀ id ∈ List.range db.nextId,
      ((Function.update db.jobs job.id (some job)) id).map (·.toGuardRequest) =
        (db.jobs id).map (·.toGuardRequest) := by
    intro id mem
    rw [Function.update_of_ne]
    have early := List.mem_range.mp mem
    omega
  show ((List.range (db.nextId + 2)).filterMap fun id =>
    ((Function.update db.jobs job.id (some job)) id).map (·.toGuardRequest)) = _
  rw [List.range_succ, List.range_succ, List.filterMap_append, List.filterMap_append, List.filterMap_congr older]
  simp [GuardDb.requests, ← named, fresh (job.id + 1) (by omega)]

/-- Of all commands only the two submissions give out ids. -/
theorem execute_nextId {moment : Moment} {command : GuardCommand} {answer : command.Res}
    (executed : db.execute config run moment command = .ok (answer, db')) :
    db'.nextId = db.nextId ∨
      (∃ actor fileId requestKey categories phoneRegion,
        command = .createScan actor fileId requestKey categories phoneRegion) ∨
      ∃ actor scan requestKey selection, command = .createCopy actor scan requestKey selection := by
  cases command with
  | createScan actor fileId requestKey categories phoneRegion => exact .inr (.inl ⟨_, _, _, _, _, rfl⟩)
  | createCopy actor scan requestKey selection => exact .inr (.inr ⟨_, _, _, _, rfl⟩)
  | claimNext =>
      simp only [GuardDb.execute] at executed
      split at executed <;> cases executed <;> exact .inl rfl
  | setPhase job phase =>
      simp only [GuardDb.execute] at executed
      split at executed <;> cases executed <;> exact .inl rfl
  | publish job result digest =>
      simp only [GuardDb.execute] at executed
      split at executed
      · cases executed
        exact .inl rfl
      · obtain ⟨_, _, executed⟩ := bind_ok_iff.mp executed
        obtain ⟨_, _, executed⟩ := bind_ok_iff.mp executed
        cases executed
        exact .inl rfl
  | terminal job errorCode =>
      simp only [GuardDb.execute] at executed
      split at executed <;> cases executed <;> exact .inl rfl
  | recoverJob expired =>
      simp only [GuardDb.execute] at executed
      split at executed
      · cases executed
        exact .inl rfl
      · split at executed <;> cases executed <;> exact .inl rfl
  | cancel actor job =>
      obtain ⟨_, _, executed⟩ := bind_ok_iff.mp executed
      dsimp only at executed
      split at executed <;> cases executed <;> exact .inl rfl
  | recordOutput job outputDigest =>
      obtain ⟨_, _, executed⟩ := bind_ok_iff.mp executed
      obtain ⟨_, _, executed⟩ := bind_ok_iff.mp executed
      obtain ⟨_, _, executed⟩ := bind_ok_iff.mp executed
      cases executed
      exact .inl rfl
  | publishCopy job actor size redactedCells =>
      obtain ⟨_, _, executed⟩ := bind_ok_iff.mp executed
      obtain ⟨_, _, executed⟩ := bind_ok_iff.mp executed
      obtain ⟨⟨fileId, published⟩, publication, executed⟩ := bind_ok_iff.mp executed
      obtain ⟨_, _, executed⟩ := bind_ok_iff.mp executed
      cases executed
      obtain ⟨_, _, publication⟩ := bind_ok_iff.mp publication
      obtain ⟨_, _, publication⟩ := bind_ok_iff.mp publication
      obtain ⟨_, _, publication⟩ := bind_ok_iff.mp publication
      obtain ⟨_, _, publication⟩ := bind_ok_iff.mp publication
      obtain ⟨_, _, publication⟩ := bind_ok_iff.mp publication
      obtain ⟨_, _, publication⟩ := bind_ok_iff.mp publication
      obtain ⟨_, _, publication⟩ := bind_ok_iff.mp publication
      cases publication
      exact .inl rfl
  | postponeCleanup job =>
      simp only [GuardDb.execute] at executed
      split at executed <;> cases executed <;> exact .inl rfl
  | tombstone file derivation =>
      simp only [GuardDb.execute] at executed
      split at executed <;> cases executed <;> exact .inl rfl
  | deleteFile actor file =>
      simp only [GuardDb.execute] at executed
      split at executed <;> cases executed <;> exact .inl rfl

/-- A command that succeeds. The clock that the count reads is not ahead of the one that stamps the job. -/
theorem execute_admission {moment : Moment} {command : GuardCommand} {answer : command.Res}
    (consistent : db.Consistent) (forward : moment.now ≤ moment.later) (move : DbMove run db db')
    (executed : db.execute config run moment command = .ok (answer, db')) : Admission db db' := by
  rcases execute_nextId executed with bound | ⟨actor, fileId, requestKey, categories, phoneRegion, rfl⟩ |
    ⟨actor, scan, requestKey, selection, rfl⟩
  · exact .of_move consistent move bound
  · obtain ⟨_, _, executed⟩ := bind_ok_iff.mp executed
    obtain ⟨_, few, inserted⟩ := bind_ok_iff.mp executed
    have counted := of_decide_eq_true (require_ok_iff.mp few)
    exact insertJob_admission consistent rfl counted forward inserted
  · obtain ⟨_, _, executed⟩ := bind_ok_iff.mp executed
    obtain ⟨_, _, executed⟩ := bind_ok_iff.mp executed
    obtain ⟨_, few, inserted⟩ := bind_ok_iff.mp executed
    have counted := of_decide_eq_true (require_ok_iff.mp few)
    exact insertJob_admission consistent rfl counted forward inserted

variable {w w' : GuardWorld}

theorem exec_admission {act : GuardAct} {choice : GuardChoice} {answer : act.Res} (consistent : w.db.Consistent)
    (known : act.Known config run w) (executed : guardExec config run choice act w = some (answer, w')) :
    Admission w.db w'.db := by
  rcases db_of_exec executed with same | ⟨command, reply, rfl, done, fresh⟩
  · rw [same]
    exact .of_same consistent rfl (Nat.le_refl _)
  · have forward : (w.moment choice).now ≤ (w.moment choice).later := by
      exact Int.le_add_of_nonneg_right (Int.natCast_nonneg choice.elapsed)
    exact execute_admission consistent forward (execute_moves consistent known fresh done) done

/-- The environment touches no job. -/
theorem drift_jobs {change : GuardDrift} (drifted : guardDrift change w = some w') :
    w'.db.jobs = w.db.jobs ∧ w.db.nextId ≤ w'.db.nextId := by
  cases change with
  | tick elapsed =>
      cases drifted
      exact ⟨rfl, Nat.le_refl _⟩
  | user id user =>
      cases drifted
      exact ⟨rfl, Nat.le_refl _⟩
  | company id standing =>
      cases drifted
      exact ⟨rfl, Nat.le_refl _⟩
  | upload companyId uploaderId uuid size fileType =>
      cases drifted
      exact ⟨rfl, Nat.le_add_right _ 2⟩
  | permissions fileId visibility restrictedUserIds =>
      simp only [guardDrift] at drifted
      split at drifted <;> cases drifted
      exact ⟨rfl, Nat.le_refl _⟩
  | land position =>
      simp only [guardDrift] at drifted
      split at drifted <;> cases drifted
      rw [GuardWorld.apply_db]
      exact ⟨rfl, Nat.le_refl _⟩
  | drop position =>
      cases drifted
      exact ⟨rfl, Nat.le_refl _⟩

theorem drift_admission {change : GuardDrift} (consistent : w.db.Consistent)
    (drifted : guardDrift change w = some w') : Admission w.db w'.db :=
  .of_same consistent (drift_jobs drifted).1 (drift_jobs drifted).2

/-! ### The invariant -/

/-- Two jobs that answer to one request key. -/
def GuardRequest.SameIdentity (one other : GuardRequest) : Prop :=
  one.companyId = other.companyId ∧ one.requestedBy = other.requestedBy ∧ one.requestKey = other.requestKey

/-- The limits on admission: one job for a request key, one active job for a company, and no more than ten created in
any minute. -/
structure GuardDb.Admitted (db : GuardDb) : Prop where
  keys : ∀ id job id' job', db.jobs id = some job → db.jobs id' = some job' →
    job.SameIdentity job'.toGuardRequest → id = id'
  active : ∀ id job id' job', db.jobs id = some job → db.jobs id' = some job' → job.active = true →
    job'.active = true → job.companyId = job'.companyId → id = id'
  window : ∀ companyId, Limited 60000 10 (db.creations companyId)

/-- What the unique indexes have let through answers to a new key, and the company has no active job. -/
theorem admits_iff {companyId requestedBy requestKey : Nat} (consistent : db.Consistent)
    (free : db.admits companyId requestedBy requestKey = true) {id : Nat} {job : GuardJob}
    (found : db.jobs id = some job) :
    ¬ (job.companyId = companyId ∧ job.requestedBy = requestedBy ∧ job.requestKey = requestKey) ∧
      ¬ (job.companyId = companyId ∧ job.active = true) := by
  have mem := consistent.mem_allJobs found
  simp only [GuardDb.admits, GuardDb.byIdentity, Bool.and_eq_true, Option.isNone_iff_eq_none, List.find?_eq_none,
    Bool.not_eq_true', List.any_eq_false] at free
  obtain ⟨unused, idle⟩ := free
  constructor
  · rintro ⟨company, requester, key⟩
    exact unused job mem (by simp [company, requester, key])
  · rintro ⟨company, active⟩
    exact idle job mem (by simp [company, active])

theorem GuardDb.Admitted.admission (admitted : db.Admitted) (consistent : db.Consistent) (step : Admission db db') :
    db'.Admitted := by
  cases step with
  | settled requests jobs =>
      constructor
      case keys =>
        intro id job id' job' found found' same
        obtain ⟨stored, there, request, _⟩ := jobs id job found
        obtain ⟨stored', there', request', _⟩ := jobs id' job' found'
        rw [request, request'] at same
        exact admitted.keys id stored id' stored' there there' same
      case active =>
        intro id job id' job' found found' active active' company
        obtain ⟨stored, there, request, was⟩ := jobs id job found
        obtain ⟨stored', there', request', was'⟩ := jobs id' job' found'
        rw [request, request'] at company
        exact admitted.active id stored id' stored' there there' (was active) (was' active') company
      case window =>
        intro companyId
        rw [GuardDb.creations, requests]
        exact admitted.window companyId
  | @admitted new now fresh jobs requests free few late =>
      have of_found : ∀ {id : Nat} {job : GuardJob}, db'.jobs id = some job →
          id = new.id ∧ job = new ∨ id ≠ new.id ∧ db.jobs id = some job := by
        intro id job found
        rw [jobs] at found
        by_cases same : id = new.id
        · subst same
          rw [Function.update_self] at found
          exact .inl ⟨rfl, (Option.some.inj found).symm⟩
        · rw [Function.update_of_ne same] at found
          exact .inr ⟨same, found⟩
      constructor
      case keys =>
        intro id job id' job' found found' same
        rcases of_found found with ⟨rfl, rfl⟩ | ⟨_, there⟩
        · rcases of_found found' with ⟨rfl, rfl⟩ | ⟨_, there'⟩
          · rfl
          · exact absurd ⟨same.1.symm, same.2.1.symm, same.2.2.symm⟩ (admits_iff consistent free there').1
        · rcases of_found found' with ⟨rfl, rfl⟩ | ⟨_, there'⟩
          · exact absurd same (admits_iff consistent free there).1
          · exact admitted.keys id job id' job' there there' same
      case active =>
        intro id job id' job' found found' active active' company
        rcases of_found found with ⟨rfl, rfl⟩ | ⟨_, there⟩
        · rcases of_found found' with ⟨rfl, rfl⟩ | ⟨_, there'⟩
          · rfl
          · exact absurd ⟨company.symm, active'⟩ (admits_iff consistent free there').2
        · rcases of_found found' with ⟨rfl, rfl⟩ | ⟨_, there'⟩
          · exact absurd ⟨company, active⟩ (admits_iff consistent free there).2
          · exact admitted.active id job id' job' there there' active active' company
      case window =>
        intro companyId
        have grown : db'.creations companyId =
            db.creations companyId ++ if new.companyId = companyId then [new.createdAt] else [] := by
          by_cases own : new.companyId = companyId <;> simp [GuardDb.creations, requests, own]
        rw [grown]
        by_cases own : new.companyId = companyId
        · subst own
          rw [recentJobs_eq] at few
          rw [if_pos rfl]
          exact (admitted.window new.companyId).append few late
        · rw [if_neg own, List.append_nil]
          exact admitted.window companyId

theorem GuardDb.Fresh.admitted (fresh : db.Fresh) : db.Admitted := by
  constructor
  case keys =>
    intro id job id' job' found
    cases (fresh.jobs id).symm.trans found
  case active =>
    intro id job id' job' found
    cases (fresh.jobs id).symm.trans found
  case window =>
    intro companyId
    have empty : db.creations companyId = [] := by
      simp [GuardDb.creations, GuardDb.requests, fresh.jobs]
    rw [empty]
    exact .nil 60000 10

variable {ok : GuardSystem → GuardSystemEvent → Prop} {s s' : GuardSystem} {events : List GuardSystemEvent}

/-- The limits hold along every run. -/
theorem admitted_of_run (all : Contract.AllMeet (guardContract config) s)
    (reached : (guardMachine config).Run ok s events s') (admitted : s.world.db.Admitted) : s'.world.db.Admitted := by
  refine (guard_invariant (fun w => w.db.Admitted) ?_ ?_ reached all admitted).2
  · intro run choice act w answer w' consistent admitted known executed
    exact admitted.admission consistent (exec_admission consistent known executed)
  · intro change w w' consistent admitted drifted
    exact admitted.admission consistent (drift_admission consistent drifted)

end DataVault.Guard
