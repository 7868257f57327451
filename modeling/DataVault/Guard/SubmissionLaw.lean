/-
Module: DataVault.Guard.SubmissionLaw
Layer: Proof
Purpose: The admission of guard jobs over whole runs. In every reachable state the limits on admission hold, and a
  submission whose request key a stored job answers to leaves the world alone, returns that job exactly for the same
  canonical request, and is rejected otherwise, as long as its source is eligible.
Imports: DataVault.Guard.CopySelections, DataVault.Guard.Replay
Trusted boundary: none
Main exports: ReplayLaw, AdmissionLaw, guard_admission, guard_admission_replayed
-/
import DataVault.Guard.CopySelections
import DataVault.Guard.Replay

namespace DataVault.Guard

open DataVault.Control DataVault.Interleaving DataVault.Store DataVault.Users

variable {config : GuardConfig} {submission : Submission} {request : GuardRequest} {standing : Standing}
variable {db : GuardDb} {w w' : GuardWorld} {s s' : GuardSystem} {events : List GuardSystemEvent}

/-! ### What the queries answer -/

/-- A job of the request is stored. -/
def Stored (request : GuardRequest) (db : GuardDb) : Prop :=
  ∃ job, db.jobs request.id = some job ∧ job.toGuardRequest = request

/-- The lookup of its key finds it. -/
theorem byIdentity_stored (consistent : db.Consistent) (admitted : db.Admitted) (stored : Stored request db) :
    ∃ job, db.byIdentity request.companyId request.requestedBy request.requestKey = some job ∧
      job.toGuardRequest = request := by
  obtain ⟨job, found, same⟩ := stored
  cases lookup : db.byIdentity request.companyId request.requestedBy request.requestKey with
  | none =>
      have unmatched := List.find?_eq_none.mp lookup job (consistent.mem_allJobs found)
      rw [← same] at unmatched
      simp at unmatched
  | some answer =>
      have matched := List.find?_some lookup
      simp only [Bool.and_eq_true, decide_eq_true_eq] at matched
      obtain ⟨id, there⟩ := mem_allJobs (List.mem_of_find?_eq_some lookup)
      have identity : answer.SameIdentity job.toGuardRequest := by
        rw [same]
        exact ⟨matched.1.1, matched.1.2, matched.2⟩
      have named := admitted.keys id answer request.id job there found identity
      rw [named] at there
      cases there.symm.trans found
      exact ⟨job, rfl, same⟩

/-- The lineage of a file is that of its derivation. -/
theorem lineage_congr {actor : AuthenticatedUser} {file file' : CompanyFile} (same : file'.derivation = file.derivation) :
    db.lineage actor file' = db.lineage actor file := by
  simp only [GuardDb.lineage, same]

theorem Submission.Eligible.holds (eligible : submission.Eligible config standing db) :
    standing.Holds submission db := by
  cases submission with
  | scan actor fileId dto => exact eligible.1
  | copy actor scanId dto => exact eligible.1

/-- What holds of the collections whenever a replayed submission reads them. All of it lasts, so each query of the
submission may be answered in a state of its own. -/
structure ReplayReady (request : GuardRequest) (db : GuardDb) : Prop where
  consistent : db.Consistent
  admitted : db.Admitted
  asked : db.WellAsked
  stored : Stored request db

/-- A query that is delivered is answered truthfully. -/
theorem ReplayReady.truthful {C : Prop} (ready : ReplayReady request db)
    (eligible : C → submission.Eligible config standing db) (run : Nat) (now : Int) (read : GuardQuery) :
    Truthful submission request standing C read (db.answer config run now read) := by
  cases read with
  | user userId companyId =>
      rintro holds rfl rfl
      exact (eligible holds).holds.user
  | company companyId =>
      rintro holds rfl
      exact (eligible holds).holds.company
  | accessibleFile actor fileId =>
      rintro holds role known rfl rfl
      obtain ⟨file, reached, described, _⟩ := (eligible holds).holds.file role known
      exact ⟨file, reached, described⟩
  | lineage actor file =>
      rintro holds role known rfl described
      obtain ⟨current, _, same, original⟩ := (eligible holds).holds.file role known
      exact (lineage_congr (described.1.trans same.1.symm)).trans original
  | byIdentity companyId requestedBy requestKey =>
      rintro rfl rfl rfl
      exact byIdentity_stored ready.consistent ready.admitted ready.stored
  | authorizedJob actor id =>
      constructor
      · intro scan found
        obtain ⟨there, _⟩ := Option.filter_eq_some_iff.mp found
        exact (ready.consistent.ids id scan there).1
      · rintro holds scanId dto rfl rfl
        obtain ⟨_, _, _, _, _, scan, found, scanned⟩ := eligible holds
        refine ⟨scan, ?_, scanned, ?_⟩
        · refine Option.filter_eq_some_iff.mpr ⟨found, ?_⟩
          simp only [Bool.and_eq_true, decide_eq_true_eq]
          exact ⟨scanned.company, scanned.requester⟩
        · intro same
          obtain ⟨job, there, requested⟩ := ready.stored
          have copy : job.fingerprint = .copy id dto.selection := by
            rw [requested]
            exact same.symm
          obtain ⟨_, covered, found', _, valid⟩ := ready.asked _ job there id dto.selection copy
          cases found.symm.trans found'
          exact valid
  | recentJobs companyId => trivial
  | claimed job => trivial
  | expired => trivial
  | pendingCleanup => trivial
  | copyExists companyId fileId => trivial
  | completedScan job => trivial
  | findingsOf companyId jobId => trivial

theorem ReplayReady.answers {C : Prop} {run : Nat} {choice : GuardChoice} {act : GuardAct} {answer : act.Res}
    (ready : ReplayReady request w.db) (eligible : C → submission.Eligible config standing w.db)
    (delivered : C → choice.fate = .delivered) (executed : guardExec config run choice act w = some (answer, w')) :
    Answers submission request standing C act answer := by
  cases act with
  | query read =>
      obtain ⟨rfl, _⟩ := Prod.mk.inj (Option.some.inj executed)
      by_cases arrives : choice.fate = .delivered
      · rw [if_pos arrives]
        exact .inr ⟨_, rfl, ready.truthful eligible run _ read⟩
      · rw [if_neg arrives]
        exact .inl ⟨rfl, fun holds => arrives (delivered holds)⟩
  | _ => trivial

/-! ### The invariant of a replay -/

/-- What every run of the guard keeps, as far as a replay needs it. -/
structure ReplayInvariant (config : GuardConfig) (request : GuardRequest) (s : GuardSystem) : Prop where
  guard : Contract.AllMeet (guardContract config) s
  selections : Contract.AllMeet ((guardContract config).both (selectionContract config)) s
  ready : ReplayReady request s.world.db

theorem Stored.move {run : Nat} {db' : GuardDb} (stored : Stored request db) (consistent : db.Consistent)
    (move : DbMove run db db') : Stored request db' := by
  obtain ⟨job, found, same⟩ := stored
  obtain ⟨job', found', moved⟩ := move.job consistent found
  exact ⟨job', found', moved.request.trans same⟩

theorem ReplayInvariant.apply {event : GuardSystemEvent} (invariant : ReplayInvariant config request s)
    (applied : (guardMachine config).apply s event = some s') : ReplayInvariant config request s' := by
  have once : (guardMachine config).Run (fun _ _ => True) s [event] s' := .cons trivial applied (.nil s')
  obtain ⟨run, move⟩ := moves_of_apply invariant.guard applied
  have kept := guard_invariant (fun _ => True) (fun _ _ _ _ _ _ _ _ _ _ => trivial) (fun _ _ _ _ _ _ => trivial) once
    invariant.guard trivial
  obtain ⟨selections, asked⟩ := wellAsked_of_run invariant.selections once invariant.ready.asked
  exact
    { guard := kept.1
      selections := selections
      ready :=
        { consistent := kept.1.inv
          admitted := admitted_of_run invariant.guard once invariant.ready.admitted
          asked := asked
          stored := invariant.ready.stored.move invariant.ready.consistent move } }

/-! ### Replayed submissions -/

/-- The handler of a submission whose key is taken. -/
theorem replaying_handler {C : Prop} (config : GuardConfig) (standing : Standing)
    (ready : ReplayReady request db) (repeats : submission.Repeats request)
    (eligible : C → submission.Eligible config standing db) :
    Process.Guided (Answers submission request standing C) IsQuery
      (Process.Outcome (fun reply => ∃ job, reply = some job ∧ Returned submission request job)
        (Refused submission request C))
      ((guardMachine config).handler submission.job) := by
  have kind : ∀ scanId selection, request.fingerprint = .copy scanId selection → request.kind = .sanitize := by
    intro scanId selection copy
    obtain ⟨job, found, rfl⟩ := ready.stored
    exact (ready.asked _ job found scanId selection copy).1
  cases submission with
  | scan actor fileId dto =>
      refine Process.guided_bind (replaying_submitScan rfl repeats ?_) fun job returned => ?_
      · intro holds
        exact (eligible holds).2
      · exact Process.guided_pure ⟨job, rfl, returned⟩
  | copy actor scanId dto =>
      refine Process.guided_bind (replaying_submitCopy rfl repeats kind ?_) fun job returned => ?_
      · intro holds
        obtain ⟨_, underived, fileType, isolation, sanitization, _⟩ := eligible holds
        exact ⟨underived, fileType, isolation, sanitization⟩
      · exact Process.guided_pure ⟨job, rfl, returned⟩

/-- The source is eligible, and what the run `k` asks is answered. -/
def Undisturbed (config : GuardConfig) (submission : Submission) (standing : Standing) (k : Nat) (s : GuardSystem)
    (event : GuardSystemEvent) : Prop :=
  submission.Eligible config standing s.world.db ∧ ∀ choice, event = .step k choice → choice.fate = .delivered

/-- From its arrival on, the submission goes on as its handler does. -/
theorem replaying_run {C : Prop} (standing : Standing) {ok : GuardSystem → GuardSystemEvent → Prop}
    (invariant : ReplayInvariant config request s) (repeats : submission.Repeats request)
    (permits : ∀ s' event, ok s' event → C → Undisturbed config submission standing s.runs.length s' event)
    (played : (guardMachine config).Run ok s (.arrive submission.job :: events) s') :
    ∃ process, s'.runs[s.runs.length]? = some process ∧
      Process.Guided (Answers submission request standing C) IsQuery
        (Process.Outcome (fun reply => ∃ job, reply = some job ∧ Returned submission request job)
          (Refused submission request C)) process := by
  cases played with
  | cons permitted arrived tail =>
      obtain ⟨present, _⟩ := Machine.apply_arrive arrived
      have guided := replaying_handler config standing invariant.ready repeats
        fun holds => (permits s _ permitted holds).1
      refine (Machine.Run.guided (ReplayInvariant config request) ?_ ?_ tail (invariant.apply arrived) present guided).2
      · intro s event s' invariant _ applied
        exact invariant.apply applied
      · intro s choice act answer w' invariant permitted _ executed
        exact invariant.ready.answers (fun holds => (permits s _ permitted holds).1)
          (fun holds => (permits s _ permitted holds).2 choice rfl) executed

/-! ### The law -/

/-- What becomes of a submission whose key answers to a stored request: it changes nothing; it returns the stored job
only if the canonical requests agree, and reports a conflict of requests only if they differ; and with an eligible
source and answered queries it does return the job if they agree, and is rejected if not. -/
structure ReplayLaw (config : GuardConfig) (s : GuardSystem) (request : GuardRequest) (submission : Submission) :
    Prop where
  silent : ∀ events s₁ choice s₂,
    (guardMachine config).Run (fun _ _ => True) s (.arrive submission.job :: events) s₁ →
      (guardMachine config).apply s₁ (.step s.runs.length choice) = some s₂ → s₂.world = s₁.world
  returned : ∀ events s₁ reply,
    (guardMachine config).Run (fun _ _ => True) s (.arrive submission.job :: events) s₁ →
      s₁.runs[s.runs.length]? = some (.done (.ok reply)) →
        (∃ job, reply = some job ∧ job.toGuardRequest = request) ∧ submission.canonical = request.fingerprint
  conflicting : ∀ events s₁,
    (guardMachine config).Run (fun _ _ => True) s (.arrive submission.job :: events) s₁ →
      s₁.runs[s.runs.length]? = some (.done (.error (.conflict "guard_request_conflict"))) →
        submission.canonical ≠ request.fingerprint
  eligible : ∀ standing events s₁ reply,
    (guardMachine config).Run (Undisturbed config submission standing s.runs.length) s
        (.arrive submission.job :: events) s₁ →
      s₁.runs[s.runs.length]? = some (.done reply) →
        (submission.canonical = request.fingerprint →
          ∃ job, reply = .ok (some job) ∧ job.toGuardRequest = request) ∧
        (submission.canonical ≠ request.fingerprint → ∃ message, reply = .error (.conflict message))

theorem ReplayInvariant.law (invariant : ReplayInvariant config request s) (repeats : submission.Repeats request) :
    ReplayLaw config s request submission := by
  -- Without a condition on the run the standing plays no part.
  have always {events : List GuardSystemEvent} {s₁ : GuardSystem}
      (played : (guardMachine config).Run (fun _ _ => True) s (.arrive submission.job :: events) s₁) :=
    replaying_run (C := False) ⟨.companyOwner, 0, none, .xlsx, 0⟩ invariant repeats
      (fun _ _ _ impossible => impossible.elim) played
  constructor
  case silent =>
    intro events s₁ choice s₂ played applied
    obtain ⟨process, present, guided⟩ := always played
    simp only [Machine.apply, present] at applied
    split at applied
    · rename_i act resume waiting
      cases waiting
      obtain ⟨read, rfl⟩ := guided.1
      obtain ⟨⟨answer, world⟩, executed, rfl⟩ := Option.map_eq_some_iff.mp applied
      exact (congrArg Prod.snd (Option.some.inj executed)).symm
    · cases applied
  case returned =>
    intro events s₁ reply played done
    obtain ⟨process, present, guided⟩ := always played
    cases present.symm.trans done
    obtain ⟨job, rfl, same, canonical⟩ := guided
    exact ⟨⟨job, rfl, same⟩, canonical⟩
  case conflicting =>
    intro events s₁ played done
    obtain ⟨process, present, guided⟩ := always played
    cases present.symm.trans done
    rcases guided with ⟨_, differs⟩ | ⟨_, other⟩
    · exact differs
    · exact absurd rfl other
  case eligible =>
    intro standing events s₁ reply played done
    obtain ⟨process, present, guided⟩ := replaying_run (C := True) standing invariant repeats
      (fun _ _ permitted _ => permitted) played
    cases present.symm.trans done
    cases reply with
    | ok reply =>
        obtain ⟨job, rfl, same, canonical⟩ := guided
        exact ⟨fun _ => ⟨job, rfl, same⟩, fun differs => absurd canonical differs⟩
    | error failure =>
        rcases guided with ⟨⟨message, rfl⟩, differs⟩ | ⟨failing, _⟩
        · exact ⟨fun canonical => absurd canonical differs, fun _ => ⟨message, rfl⟩⟩
        · exact absurd trivial failing

/-- The admission of guard jobs in a state: one job a key, one active job a company, ten jobs of a company within any
minute, and the replay of every stored request. -/
structure AdmissionLaw (config : GuardConfig) (s : GuardSystem) : Prop where
  keys : ∀ id job id' job', s.world.db.jobs id = some job → s.world.db.jobs id' = some job' →
    job.companyId = job'.companyId → job.requestedBy = job'.requestedBy → job.requestKey = job'.requestKey → id = id'
  active : ∀ id job id' job', s.world.db.jobs id = some job → s.world.db.jobs id' = some job' → job.active = true →
    job'.active = true → job.companyId = job'.companyId → id = id'
  window : ∀ companyId start, (s.world.db.allJobs.countP fun job =>
    decide (job.companyId = companyId ∧ start ≤ job.createdAt ∧ job.createdAt ≤ start + 60000)) ≤ 10
  replays : ∀ id job submission, s.world.db.jobs id = some job → submission.Repeats job.toGuardRequest →
    ReplayLaw config s job.toGuardRequest submission

/-- The creations of a company are those of its jobs. -/
theorem window_eq (companyId : Nat) (start : Int) :
    (db.allJobs.countP fun job =>
      decide (job.companyId = companyId ∧ start ≤ job.createdAt ∧ job.createdAt ≤ start + 60000)) =
        (db.creations companyId).countP (inWindow 60000 start) := by
  rw [GuardDb.creations, requests_eq, List.countP_map, List.countP_filter, List.countP_map]
  refine List.countP_congr fun job _ => ?_
  simp only [Function.comp, inWindow, Bool.and_eq_true, decide_eq_true_eq]
  constructor
  · rintro ⟨company, from_start, to_end⟩
    exact ⟨⟨from_start, to_end⟩, company⟩
  · rintro ⟨⟨from_start, to_end⟩, company⟩
    exact ⟨company, from_start, to_end⟩

/-- In every run from a system without jobs, under every interleaving of submissions, cancellations, passes of workers,
deletions and changes of users, companies and files, every state that is reached obeys the law of admission. -/
theorem guard_admission {ok : GuardSystem → GuardSystemEvent → Prop} (fresh : Fresh s)
    (reached : (guardMachine config).Run ok s events s') : AdmissionLaw config s' := by
  have guard := fresh_reaches fresh reached
  have admitted := admitted_of_run fresh.allMeet reached fresh.db.admitted
  have asked : s.world.db.WellAsked := by
    intro id job found
    cases (fresh.db.jobs id).symm.trans found
  obtain ⟨selections, asked⟩ := wellAsked_of_run
    (.idle ⟨fresh.db.consistent, fresh.db.consistent⟩ fresh.runs) reached asked
  constructor
  case keys =>
    intro id job id' job' found found' company requester key
    exact admitted.keys id job id' job' found found' ⟨company, requester, key⟩
  case active => exact admitted.active
  case window =>
    intro companyId start
    rw [window_eq]
    exact admitted.window companyId start
  case replays =>
    intro id job submission found repeats
    obtain rfl := (guard.inv.ids id job found).1
    have invariant : ReplayInvariant config job.toGuardRequest s' :=
      { guard := guard
        selections := selections
        ready := ⟨guard.inv, admitted, asked, job, found, rfl⟩ }
    exact invariant.law repeats

/-! ### A repeated submission -/

/-- The scan of `requeuedScan`, submitted again. -/
def repeatedScan : Submission := .scan owner 0 ⟨5, [.email], none⟩

/-- The job that a run has returned. -/
def returnedJob (s : GuardSystem) (k : Nat) : Option GuardJob :=
  match s.runs[k]?.bind Process.returned with
  | some (.ok reply) => reply
  | _ => none

/-- The repeated submission gets the job that its key answers to. -/
theorem guard_admission_replayed :
    ∃ s' job s'' job', (guardMachine approvedGuard).play requeuedScan oneWorkbook = some s' ∧
      s'.world.db.jobs 2 = some job ∧ AdmissionLaw approvedGuard s' ∧
      (guardMachine approvedGuard).play (.arrive repeatedScan.job :: stepping 3 5 {}) s' = some s'' ∧
      returnedJob s'' 3 = some job' ∧ job'.toGuardRequest = job.toGuardRequest := by
  have plays : ((guardMachine approvedGuard).play requeuedScan oneWorkbook).any fun s' =>
      decide (s'.runs.length = 3) && ((s'.world.db.jobs 2).any fun job => decide (job.requestKey = 5 ∧
        job.companyId = 7 ∧ job.requestedBy = 1)) &&
      ((guardMachine approvedGuard).play (.arrive repeatedScan.job :: stepping 3 5 {}) s').any fun s'' =>
        (returnedJob s'' 3).isSome := by decide +kernel
  obtain ⟨s', played, checks⟩ := (Option.any_eq_true ..).mp plays
  simp only [Bool.and_eq_true, decide_eq_true_eq] at checks
  obtain ⟨⟨three, stored⟩, again⟩ := checks
  obtain ⟨job, found, identity⟩ := (Option.any_eq_true ..).mp stored
  obtain ⟨key, company, requester⟩ := of_decide_eq_true identity
  obtain ⟨s'', replayed, answered⟩ := (Option.any_eq_true ..).mp again
  obtain ⟨job', answer⟩ := Option.isSome_iff_exists.mp answered
  have law := guard_admission oneWorkbook_fresh (Machine.run_of_play played)
  have replay := law.replays 2 job repeatedScan found ⟨company, requester, key⟩
  have done : s''.runs[s'.runs.length]? = some (.done (.ok (some job'))) := by
    rw [three]
    unfold returnedJob at answer
    split at answer
    · rename_i reply returned
      cases answer
      obtain ⟨process, present, value⟩ := Option.bind_eq_some_iff.mp returned
      rw [present, Process.returned_eq_some.mp value]
    · cases answer
  obtain ⟨⟨_, same, request⟩, _⟩ := replay.returned _ s'' _ (Machine.run_of_play replayed) done
  cases same
  exact ⟨s', job, s'', job', played, found, law, replayed, answer, request⟩

end DataVault.Guard
