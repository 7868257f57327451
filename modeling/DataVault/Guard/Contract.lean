/-
Module: DataVault.Guard.Contract
Layer: Specification
Purpose: What a guard handler may rely on between two of its awaits, and what it must know at each of them. A pass
  knows the document that its claim returned; as long as the job is leased to it nobody else records an output
  digest, and a job that has ended stays as it is.
Imports: DataVault.Guard.Service, DataVault.Guard.Transition, DataVault.Interleaving.Following
Trusted boundary: none
Main exports: GuardRely, Holding, Recorded, Abandoned, GuardAct.Known, guardContract, GuardAct.Free,
  moves_of_exec, rely_of_free
-/
import DataVault.Guard.Service
import DataVault.Guard.Transition
import DataVault.Interleaving.Following

namespace DataVault.Guard

open DataVault.Control DataVault.Interleaving DataVault.Users

variable {config : GuardConfig} {run : Nat} {w w' : GuardWorld} {job : GuardJob}

/-! ### What others leave alone -/

/-- What the steps of the others leave true for `run`: leases are never taken back from the record, none is claimed
under its token, and every job is still there and has moved as others can move it. -/
structure GuardRely (run : Nat) (w w' : GuardWorld) : Prop where
  leases : ∀ lease ∈ w.db.leases, lease ∈ w'.db.leases
  foreign : ∀ lease ∈ w'.db.leases, lease.token = run → lease ∈ w.db.leases
  jobs : ∀ id job, w.db.jobs id = some job → ∃ job', w'.db.jobs id = some job' ∧
    JobFollows run job (w.db.trace id) job' (w'.db.trace id)

namespace GuardRely

theorem refl (run : Nat) (w : GuardWorld) : GuardRely run w w where
  leases _ mem := mem
  foreign _ mem _ := mem
  jobs _ job found := ⟨job, found, JobFollows.refl ..⟩

theorem trans {w'' : GuardWorld} (one : GuardRely run w w') (two : GuardRely run w' w'') : GuardRely run w w'' where
  leases lease mem := two.leases lease (one.leases lease mem)
  foreign lease mem own := one.foreign lease (two.foreign lease mem own) own
  jobs id job found := by
    obtain ⟨job', found', first⟩ := one.jobs id job found
    obtain ⟨job'', found'', second⟩ := two.jobs id job' found'
    exact ⟨job'', found'', first.trans second⟩

/-- The steps of another run. -/
theorem of_move {other : Nat} (move : DbMove other w.db w'.db) (consistent : w.db.Consistent)
    (differs : other ≠ run) : GuardRely run w w' where
  leases lease mem := by
    cases move with
    | quiet _ leases => rwa [leases]
    | born _ _ _ leases => rwa [leases]
    | moved _ _ _ _ leases =>
        rcases leases with ⟨same, _⟩ | ⟨taken, _⟩
        · rwa [same]
        · rw [taken]
          exact List.mem_cons_of_mem _ mem
  foreign lease mem own := by
    cases move with
    | quiet _ leases => rwa [leases] at mem
    | born _ _ _ leases => rwa [leases] at mem
    | moved _ _ _ _ leases =>
        rcases leases with ⟨same, _⟩ | ⟨taken, _⟩
        · rwa [same] at mem
        · rw [taken] at mem
          rcases List.mem_cons.mp mem with rfl | mem
          · exact absurd own differs
          · exact mem
  jobs _ _ found := move.follows consistent differs found

end GuardRely

/-! ### What a run knows -/

/-- The run has claimed the job, and has recorded no output of it yet. -/
structure Holding (run : Nat) (job : GuardJob) (w : GuardWorld) : Prop where
  lease : ⟨run, job⟩ ∈ w.db.leases
  stored : ∃ stored, w.db.jobs job.id = some stored ∧
    (stored.leaseToken = some run → stored.outputDigest = job.outputDigest)

/-- The run has claimed the job, and the digest of its output is recorded. -/
structure Recorded (run : Nat) (job : GuardJob) (digest : Nat) (w : GuardWorld) : Prop where
  lease : ⟨run, job⟩ ∈ w.db.leases
  stored : ∃ stored, w.db.jobs job.id = some stored ∧ stored.toGuardRequest = job.toGuardRequest ∧
    stored.outputDigest = some digest

/-- The job has ended. -/
def Over (job : GuardJob) (w : GuardWorld) : Prop :=
  ∃ stored, w.db.jobs job.id = some stored ∧ stored.toGuardRequest = job.toGuardRequest ∧
    stored.status.terminal = true

/-- The job has ended and there is no copy of it. -/
def Abandoned (job : GuardJob) (w : GuardWorld) : Prop :=
  ∃ stored, w.db.jobs job.id = some stored ∧ stored.toGuardRequest = job.toGuardRequest ∧
    stored.status.terminal = true ∧ (w.db.trace job.id).copy = none

/-- The claim of the lease that a document shows. -/
def Claimed (expired : GuardJob) (w : GuardWorld) : Prop :=
  ∀ token, expired.leaseToken = some token → ∃ lease ∈ w.db.leases,
    lease.token = token ∧ lease.job.id = expired.id ∧ lease.job.attempts = expired.attempts

theorem Holding.rely (holding : Holding run job w) (relied : GuardRely run w w') : Holding run job w' where
  lease := relied.leases _ holding.lease
  stored := by
    obtain ⟨stored, found, same⟩ := holding.stored
    obtain ⟨stored', found', follows⟩ := relied.jobs _ stored found
    refine ⟨stored', found', fun leased => ?_⟩
    obtain ⟨leased, kept⟩ := follows.held leased
    exact kept.trans (same leased)

theorem Recorded.rely {digest : Nat} (recorded : Recorded run job digest w) (relied : GuardRely run w w') :
    Recorded run job digest w' where
  lease := relied.leases _ recorded.lease
  stored := by
    obtain ⟨stored, found, same, shown⟩ := recorded.stored
    obtain ⟨stored', found', follows⟩ := relied.jobs _ stored found
    exact ⟨stored', found', follows.request.trans same, follows.digest digest shown⟩

theorem settled_terminal {stored stored' : GuardJob} (same : stored'.settled = stored.settled)
    (ended : stored.status.terminal = true) : stored'.status.terminal = true := by
  have status : stored'.settled.status = stored.settled.status := by rw [same]
  exact (congrArg GuardState.terminal status).trans ended

theorem Over.rely (ended : Over job w) (relied : GuardRely run w w') : Over job w' := by
  obtain ⟨stored, found, same, terminal⟩ := ended
  obtain ⟨stored', found', follows⟩ := relied.jobs _ stored found
  exact ⟨stored', found', follows.request.trans same, settled_terminal (follows.ended terminal).1 terminal⟩

theorem Abandoned.rely (abandoned : Abandoned job w) (relied : GuardRely run w w') : Abandoned job w' := by
  obtain ⟨stored, found, same, terminal, missing⟩ := abandoned
  obtain ⟨stored', found', follows⟩ := relied.jobs _ stored found
  obtain ⟨settled, _, _, copy⟩ := follows.ended terminal
  refine ⟨stored', found', follows.request.trans same, settled_terminal settled terminal, ?_⟩
  rcases copy with kept | gone
  · rw [kept]
    exact missing
  · exact gone

theorem Claimed.rely (claimed : Claimed job w) (relied : GuardRely run w w') : Claimed job w' := by
  intro token leased
  obtain ⟨lease, mem, rest⟩ := claimed token leased
  exact ⟨lease, relied.leases lease mem, rest⟩

/-! ### What each action needs -/

/-- What a run knows when it executes an action. An object is only stored under the digest that its job has recorded,
and only deleted where the job has ended without a copy. -/
def GuardAct.Known (config : GuardConfig) (run : Nat) (w : GuardWorld) : GuardAct → Prop
  | .command write => write.Known run w.db
  | .putObject job key body => ∃ stored, w.db.jobs job = some stored ∧
      stored.outputDigest = some (config.sha256 body) ∧ key = .guardCopy stored.companyId job
  | .deleteObject (some job) key => ∃ stored, w.db.jobs job = some stored ∧ stored.status.terminal = true ∧
      (w.db.trace job).copy = none ∧ key = .guardCopy stored.companyId job
  | _ => True

/-- A command has no effect and fails, or it takes effect, whether or not its answer arrives. -/
theorem runCommand_cases {command : GuardCommand} {choice : GuardChoice} {answer : Except GuardFailure command.Res}
    (executed : w.runCommand choice config run command = (answer, w')) :
    (w' = w ∧ ∃ failure, answer = .error failure) ∨
      ∃ reply db, w.db.execute config run (w.moment choice) command = .ok (reply, db) ∧ w' = { w with db := db } ∧
        (answer = .ok reply ∨ ∃ failure, answer = .error failure) := by
  simp only [GuardWorld.runCommand] at executed
  split at executed
  · cases executed
    exact .inl ⟨rfl, _, rfl⟩
  · rename_i reply db done
    cases fate : choice.fate with
    | delivered =>
        rw [fate] at executed
        cases executed
        exact .inr ⟨_, _, done, rfl, .inl rfl⟩
    | lostAfter =>
        rw [fate] at executed
        cases executed
        exact .inr ⟨_, _, done, rfl, .inr ⟨_, rfl⟩⟩
    | lostBefore =>
        rw [fate] at executed
        cases executed
        exact .inl ⟨rfl, _, rfl⟩

theorem runCommand_of_exec {command : GuardCommand} {choice : GuardChoice}
    {answer : Except GuardFailure command.Res}
    (executed : guardExec config run choice (.command command) w = some (answer, w')) :
    (command = .claimNext → ∀ lease ∈ w.db.leases, lease.token ≠ run) ∧
      w.runCommand choice config run command = (answer, w') := by
  simp only [guardExec] at executed
  split at executed
  · cases executed
  · rename_i fresh
    refine ⟨?_, Option.some.inj executed⟩
    rintro rfl lease mem same
    exact fresh (List.any_eq_true.mpr ⟨lease, mem, decide_eq_true same⟩)

/-- What an action leaves of the collections: all of them, or what a command that took effect wrote. -/
theorem db_of_exec {act : GuardAct} {choice : GuardChoice} {answer : act.Res}
    (executed : guardExec config run choice act w = some (answer, w')) :
    w'.db = w.db ∨ ∃ (command : GuardCommand) (reply : command.Res), act = .command command ∧
      w.db.execute config run (w.moment choice) command = .ok (reply, w'.db) ∧
      (command = .claimNext → ∀ lease ∈ w.db.leases, lease.token ≠ run) := by
  cases act with
  | command command =>
      obtain ⟨fresh, executed⟩ := runCommand_of_exec executed
      rcases runCommand_cases executed with ⟨rfl, _⟩ | ⟨reply, db, done, rfl, _⟩
      · exact .inl rfl
      · exact .inr ⟨command, reply, rfl, done, fresh⟩
  | putObject job key body =>
      obtain rfl := congrArg Prod.snd (Option.some.inj executed)
      exact .inl (GuardWorld.request_db ..)
  | deleteObject cleanup key =>
      cases cleanup with
      | none =>
          obtain rfl := congrArg Prod.snd (Option.some.inj executed)
          exact .inl (GuardWorld.request_db ..)
      | some job =>
          obtain rfl := congrArg Prod.snd (Option.some.inj executed)
          exact .inl (GuardWorld.request_db ..)
  | query query =>
      cases executed
      exact .inl rfl
  | aborted =>
      cases executed
      exact .inl rfl
  | download actor fileId =>
      cases executed
      exact .inl rfl
  | scan bytes categories phoneRegion =>
      cases executed
      exact .inl rfl
  | sanitize bytes options =>
      cases executed
      exact .inl rfl

/-- A step of a handler is a step of the collections. -/
theorem moves_of_exec {act : GuardAct} {choice : GuardChoice} {answer : act.Res} (consistent : w.db.Consistent)
    (known : act.Known config run w) (executed : guardExec config run choice act w = some (answer, w')) :
    DbMove run w.db w'.db := by
  rcases db_of_exec executed with same | ⟨command, reply, rfl, done, fresh⟩
  · rw [same]
    exact .unchanged
  · exact execute_moves consistent known fresh done

/-- The commands that need no knowledge and that no run is told apart by. -/
def GuardCommand.Free : GuardCommand → Prop
  | .createScan .. | .createCopy .. | .setPhase .. | .terminal .. | .cancel .. | .postponeCleanup _ | .tombstone ..
  | .deleteFile .. => True
  | .claimNext | .publish .. | .recoverJob _ | .recordOutput .. | .publishCopy .. => False

/-- The actions that need no knowledge and that no run is told apart by. -/
def GuardAct.Free : GuardAct → Prop
  | .command write => write.Free
  | .putObject .. => False
  | .deleteObject cleanup _ => cleanup = none
  | _ => True

theorem execute_free {other : Nat} {db db' : GuardDb} {moment : Moment} {command : GuardCommand}
    {answer : command.Res} (consistent : db.Consistent) (free : command.Free)
    (executed : db.execute config run moment command = .ok (answer, db')) : DbMove other db db' := by
  cases command with
  | createScan actor fileId requestKey categories phoneRegion => exact consistent.createScan executed
  | createCopy actor scan requestKey selection => exact consistent.createCopy executed
  | setPhase job phase => exact consistent.setPhase executed
  | terminal job errorCode => exact consistent.terminal executed
  | cancel actor job => exact consistent.cancel executed
  | postponeCleanup job => exact consistent.postponeCleanup executed
  | tombstone file derivation => exact consistent.tombstone executed
  | deleteFile actor file => exact consistent.deleteFile executed
  | claimNext => exact free.elim
  | publish job result digest => exact free.elim
  | recoverJob expired => exact free.elim
  | recordOutput job outputDigest => exact free.elim
  | publishCopy job actor size redactedCells => exact free.elim

/-- An action outside the database changes nothing in it. -/
theorem GuardRely.of_same (same : w'.db = w.db) : GuardRely run w w' := by
  constructor
  case leases =>
    rw [same]
    exact fun _ mem => mem
  case foreign =>
    rw [same]
    exact fun _ mem _ => mem
  case jobs =>
    rw [same]
    exact fun _ job found => ⟨job, found, JobFollows.refl ..⟩

/-- A run leaves itself what it relies on where its step could be one of another run. -/
theorem rely_of_free {act : GuardAct} {choice : GuardChoice} {answer : act.Res} (consistent : w.db.Consistent)
    (free : act.Free) (executed : guardExec config run choice act w = some (answer, w')) : GuardRely run w w' := by
  rcases db_of_exec executed with same | ⟨command, reply, rfl, done, _⟩
  · exact .of_same same
  · have moved : DbMove (run + 1) w.db w'.db := execute_free consistent free done
    exact .of_move moved consistent (Nat.succ_ne_self run)

theorem GuardAct.Free.known {act : GuardAct} (free : act.Free) : act.Known config run w := by
  cases act with
  | command command => cases command <;> trivial
  | putObject job key body => exact free.elim
  | deleteObject cleanup key =>
      obtain rfl : cleanup = none := free
      trivial
  | _ => trivial

/-- The contract of every guard handler. -/
def guardContract (config : GuardConfig) : Contract (guardMachine config) where
  rely := GuardRely
  inv w := w.db.Consistent
  needs run act w := act.Known config run w
  ends _ := Any

end DataVault.Guard
