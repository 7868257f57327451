/-
Module: DataVault.Guard.ServiceMeets
Layer: Proof
Purpose: Every guard handler meets the guard contract. The handlers of the users take free actions only; a pass
  of the worker knows, from one await to the next, that it has claimed nothing yet, then the document that it has
  claimed, then that the digest of its output is recorded.
Imports: DataVault.Guard.Contract
Trusted boundary: none
Main exports: GuardWorks, works_free, run_works, guardContract_sound, guard_invariant, moves_of_apply
-/
import DataVault.Guard.Contract

namespace DataVault.Guard

open DataVault.Control DataVault.Interleaving DataVault.Users

variable {config : GuardConfig} {run : Nat} {α β : Type} {w : GuardWorld} {job : GuardJob}

/-! ### Free handlers -/

abbrev FreeHandler (program : GuardHandler α) : Prop := Process.Every GuardAct.Free program.run

theorem free_query (read : GuardQuery) : FreeHandler (query read) := ⟨trivial, fun _ => trivial⟩

theorem free_write {command : GuardCommand} (free : command.Free) : FreeHandler (write command) :=
  ⟨free, fun _ => trivial⟩

theorem free_check {outcome : Except GuardFailure α} : FreeHandler (check outcome) := Process.every_liftExcept

/-- The reads of the database. -/
def IsQuery (act : GuardAct) : Prop := ∃ read, act = .query read

abbrev QueryHandler (program : GuardHandler α) : Prop := Process.Every IsQuery program.run

theorem queries_query (read : GuardQuery) : QueryHandler (query read) := ⟨⟨read, rfl⟩, fun _ => trivial⟩

theorem queries_check {outcome : Except GuardFailure α} : QueryHandler (check outcome) := Process.every_liftExcept

theorem queries_processingSource (actor : AuthenticatedUser) (fileId : Nat) :
    QueryHandler (processingSource actor fileId) := by
  refine Process.every_bind (queries_query _) fun found => Process.every_bind queries_check fun file => ?_
  split
  · trivial
  · exact Process.every_bind (queries_query _) fun _ => Process.every_bind queries_check fun _ => trivial

theorem queries_resolve (userId companyId fileId : Nat) : QueryHandler (resolve userId companyId fileId) := by
  refine Process.every_bind (queries_query _) fun user => Process.every_bind (queries_query _) fun company => ?_
  refine Process.every_bind queries_check fun user => Process.every_bind queries_check fun _ => ?_
  exact Process.every_bind (queries_processingSource _ _) fun _ => trivial

theorem queries_authorized (actor : AuthenticatedUser) (id : Nat) : QueryHandler (authorized actor id) := by
  refine Process.every_bind (queries_query _) fun found => Process.every_bind queries_check fun job => ?_
  exact Process.every_recover (Process.every_bind (queries_resolve _ _ _) fun _ => trivial) fun _ => trivial

theorem free_of_queries {program : GuardHandler α} (queries : QueryHandler program) : FreeHandler program :=
  Process.Every.mono (fun _ ⟨_, same⟩ => same ▸ trivial) queries

theorem free_processingSource (actor : AuthenticatedUser) (fileId : Nat) :
    FreeHandler (processingSource actor fileId) :=
  free_of_queries (queries_processingSource actor fileId)

theorem free_resolve (userId companyId fileId : Nat) : FreeHandler (resolve userId companyId fileId) :=
  free_of_queries (queries_resolve userId companyId fileId)

theorem free_authorized (actor : AuthenticatedUser) (id : Nat) : FreeHandler (authorized actor id) :=
  free_of_queries (queries_authorized actor id)

theorem free_replay (job : GuardJob) (fingerprint : Fingerprint) : FreeHandler (replay job fingerprint) :=
  Process.every_bind free_check fun _ => trivial

theorem free_submitScan (actor : AuthenticatedUser) (fileId : Nat) (dto : GuardScanDto) :
    FreeHandler (submitScan config actor fileId dto) := by
  refine Process.every_bind (free_resolve _ _ _) fun _ => Process.every_bind (free_processingSource _ _) fun _ => ?_
  refine Process.every_bind free_check fun _ => Process.every_bind free_check fun _ => ?_
  refine Process.every_bind free_check fun _ => Process.every_bind (free_query _) fun existing => ?_
  split
  · exact free_replay _ _
  · refine Process.every_bind (free_query _) fun recent => Process.every_bind free_check fun _ => ?_
    refine Process.every_recover (free_write trivial) fun failure => ?_
    refine Process.every_bind (free_query _) fun committed => ?_
    split
    · exact free_replay _ _
    · split
      · trivial
      · split <;> trivial

theorem free_submitCopy (actor : AuthenticatedUser) (scanId : Nat) (dto : GuardRedactDto) :
    FreeHandler (submitCopy config actor scanId dto) := by
  refine Process.every_bind (free_authorized _ _) fun scan => Process.every_bind free_check fun _ => ?_
  refine Process.every_bind free_check fun _ => Process.every_bind (free_processingSource _ _) fun source => ?_
  refine Process.every_bind free_check fun _ => Process.every_bind free_check fun _ => ?_
  refine Process.every_bind (free_query _) fun existing => ?_
  split
  · exact Process.every_bind free_check fun _ => trivial
  · refine Process.every_recover (free_write trivial) fun failure => ?_
    refine Process.every_bind (free_query _) fun committed => ?_
    split
    · split <;> trivial
    · trivial

theorem free_cancelJob (actor : AuthenticatedUser) (id : Nat) : FreeHandler (cancelJob actor id) := by
  refine Process.every_bind (free_authorized _ _) fun job => Process.every_bind (free_write trivial) fun _ => ?_
  exact free_authorized _ _

theorem free_deleteObject (key : StorageKey) : FreeHandler (deleteObject none key) := ⟨rfl, fun _ => trivial⟩

theorem free_deleteFile (actor : AuthenticatedUser) (fileId : Nat) : FreeHandler (deleteFile actor fileId) := by
  refine Process.every_bind (free_query _) fun found => Process.every_bind free_check fun file => ?_
  refine Process.every_bind free_check fun _ => ?_
  have rest : FreeHandler (do
      deleteObject none file.storageKey
      if ← write (.deleteFile actor file) then pure () else throw (.notFound "File not found")) := by
    refine Process.every_bind (free_deleteObject _) fun _ => Process.every_bind (free_write trivial) fun done => ?_
    split <;> trivial
  split
  · exact Process.every_bind (free_write trivial) fun _ => rest
  · exact rest

theorem free_stillClaimed (job : GuardJob) : FreeHandler (stillClaimed job) := by
  refine Process.every_bind (free_query _) fun claimed => ?_
  split
  · exact Process.every_bind (free_resolve _ _ _) fun _ => trivial
  · trivial

theorem free_readSource (actor : AuthenticatedUser) (fileId : Nat) : FreeHandler (readSource actor fileId) := by
  refine Process.every_recover ⟨trivial, fun _ => trivial⟩ fun failure => ?_
  split <;> trivial

theorem free_aborted : FreeHandler aborted := ⟨trivial, fun _ => trivial⟩

theorem free_runScan (bytes : Bytes) (categories : List Category) (phoneRegion : Option String) :
    FreeHandler (runScan config bytes categories phoneRegion) :=
  Process.every_bind ⟨trivial, fun _ => trivial⟩ fun _ => free_check

/-! ### Rules -/

/-- A handler, executed by `run` from `w` on, meets the contract, ends in `Q`, and fails in `K`. -/
def GuardWorks (config : GuardConfig) (run : Nat) (K : GuardWorld → Prop) (program : GuardHandler α)
    (Q : α → GuardWorld → Prop) (w : GuardWorld) : Prop :=
  (guardContract config).Meets run (Ends Q fun _ => K) program.run w

variable {K : GuardWorld → Prop} {Q : α → GuardWorld → Prop}

theorem works_bind {R : β → GuardWorld → Prop} {first : GuardHandler α} {next : α → GuardHandler β}
    (works : GuardWorks config run K first (fun value w' => GuardWorks config run K (next value) R w') w) :
    GuardWorks config run K (first >>= next) R w :=
  Contract.meets_bind works fun _ _ continued => continued

theorem works_mono {K' : GuardWorld → Prop} {R : α → GuardWorld → Prop} {program : GuardHandler α}
    (works : GuardWorks config run K program Q w) (weaker : ∀ value w', Q value w' → R value w')
    (fails : ∀ w', K w' → K' w') : GuardWorks config run K' program R w := by
  refine Contract.Meets.mono (fun outcome w' ended => ?_) works
  cases outcome with
  | ok value => exact weaker value w' ended
  | error failure => exact fails w' ended

theorem works_check {outcome : Except GuardFailure α} (known : K w) (passes : ∀ value, outcome = .ok value → Q value w) :
    GuardWorks config run K (check outcome) Q w := by
  cases outcome with
  | ok value => exact passes value rfl
  | error failure => exact known

/-- Free actions keep what is stable. -/
theorem works_free (stable : ∀ w w', GuardRely run w w' → K w → K w') {program : GuardHandler α}
    (free : FreeHandler program) (known : K w) : GuardWorks config run K program (fun _ => K) w := by
  refine Contract.Meets.mono (fun outcome w' ended => ?_) (Contract.Meets.of_every (m := guardMachine config)
    (C := guardContract config) stable (fun act w free consistent => ?_) free known)
  · cases outcome with
    | ok value => exact ended
    | error failure => exact ended
  · exact ⟨free.known, fun choice answer w' executed => rely_of_free consistent free executed⟩

/-- A query; its answer is what the collections had. -/
theorem works_query {read : GuardQuery} {Q : read.Res → GuardWorld → Prop}
    (continues : ∀ w₁, GuardRely run w w₁ → w₁.db.Consistent →
      K w₁ ∧ ∀ now, Q (w₁.db.answer config run now read) w₁) : GuardWorks config run K (query read) Q w := by
  intro w₁ relied consistent
  obtain ⟨fails, answers⟩ := continues w₁ relied consistent
  refine ⟨trivial, fun choice answer w₂ executed => ?_⟩
  obtain ⟨rfl, rfl⟩ := Prod.mk.inj (Option.some.inj executed)
  split
  · exact answers _
  · exact fails

/-- A command; a failure may hide the effect. -/
theorem works_write {command : GuardCommand} {Q : command.Res → GuardWorld → Prop}
    (continues : ∀ w₁, GuardRely run w w₁ → w₁.db.Consistent → command.Known run w₁.db ∧ K w₁ ∧
      ∀ moment reply db, w₁.db.execute config run moment command = .ok (reply, db) →
        K { w₁ with db := db } ∧ Q reply { w₁ with db := db }) :
    GuardWorks config run K (write command) Q w := by
  intro w₁ relied consistent
  obtain ⟨known, fails, answers⟩ := continues w₁ relied consistent
  refine ⟨known, fun choice answer w₂ executed => ?_⟩
  obtain ⟨_, executed⟩ := runCommand_of_exec executed
  rcases runCommand_cases executed with ⟨rfl, failure, rfl⟩ | ⟨reply, db, done, rfl, rfl | ⟨failure, rfl⟩⟩
  · exact fails
  · exact (answers _ reply db done).2
  · exact (answers _ reply db done).1

/-! ### Recovery and cleanup -/

/-- What a document shows of its lease was claimed. -/
theorem claimed_of_stored {id : Nat} (consistent : w.db.Consistent) (found : w.db.jobs id = some job) :
    Claimed job w := by
  intro token leased
  obtain ⟨lease, mem, of_token, of_id, of_attempts⟩ := consistent.leased id job token found leased
  exact ⟨lease, mem, of_token, of_id.trans (consistent.ids id job found).1.symm, of_attempts⟩

theorem recoverAll_works {expired : List GuardJob} (claimed : ∀ job ∈ expired, Claimed job w) :
    GuardWorks config run (fun _ => True) (recoverAll expired) Any w := by
  induction expired generalizing w with
  | nil => trivial
  | cons job rest ih =>
      refine works_bind (works_write fun w₁ relied consistent => ?_)
      have known : GuardCommand.Known run w₁.db (.recoverJob job) :=
        (claimed job (List.mem_cons_self ..)).rely relied
      refine ⟨known, trivial, fun moment reply db executed => ⟨trivial, ih fun other mem => ?_⟩⟩
      have own : GuardRely run w₁ { w₁ with db := db } :=
        .of_move (consistent.recoverJob known executed) consistent (Nat.succ_ne_self run)
      exact ((claimed other (List.mem_cons_of_mem _ mem)).rely relied).rely own

theorem recoverExpired_works : GuardWorks config run (fun _ => True) recoverExpired Any w := by
  refine works_bind (works_query fun w₁ relied consistent => ⟨trivial, fun now => ?_⟩)
  refine recoverAll_works fun job mem => ?_
  obtain ⟨_, found⟩ := mem_allJobs (List.mem_of_mem_filter (List.mem_of_mem_take mem))
  exact claimed_of_stored consistent found

/-- What `cleanup` finds has ended. -/
theorem over_of_pending {now : Int} (consistent : w.db.Consistent) (mem : job ∈ w.db.pendingCleanup now) :
    Over job w ∧ job.kind = .sanitize := by
  have sorted := (List.mem_insertionSort _).mp (List.mem_of_mem_take mem)
  obtain ⟨mem, passes⟩ := List.mem_filter.mp sorted
  simp only [Bool.and_eq_true, decide_eq_true_eq, Bool.not_eq_true'] at passes
  obtain ⟨id, found⟩ := mem_allJobs mem
  obtain ⟨rfl, _⟩ := consistent.ids id job found
  have active := (consistent.sound _ job found).active
  rw [passes.1.1.2] at active
  exact ⟨⟨job, found, rfl, by simpa using active⟩, passes.1.1.1⟩

/-- A job that has ended and whose file is missing is abandoned. -/
theorem Over.abandoned {fileId : Nat} (ended : Over job w) (consistent : w.db.Consistent)
    (kind : job.kind = .sanitize) (reserved : job.resultFileId = some fileId)
    (missing : (w.db.files fileId).filter (fun file => file.companyId = job.companyId) = none) :
    Abandoned job w := by
  obtain ⟨stored, found, same, terminal⟩ := ended
  have sound := consistent.sound job.id stored found
  have result := (sound.result ((congrArg GuardRequest.kind same).trans kind)).1
  have of_id : fileId = job.id + 1 := by
    have named := (congrArg GuardRequest.resultFileId same).symm.trans result
    rw [congrArg GuardRequest.id same] at named
    exact Option.some.inj (reserved.symm.trans named)
  subst of_id
  refine ⟨stored, found, same, terminal, ?_⟩
  cases copy : (w.db.trace job.id).copy with
  | none => rfl
  | some file =>
      have company := (sound.row file copy).1
      have there : w.db.files (job.id + 1) = some file := copy
      rw [there, Option.filter_some, if_pos] at missing
      · cases missing
      · exact decide_eq_true (company.trans (congrArg GuardRequest.companyId same))

theorem compensate_works (stable : ∀ w w', GuardRely run w w' → K w → K w') (known : K w) (ended : Over job w)
    (kind : job.kind = .sanitize) : GuardWorks config run K (compensate job) (fun _ => K) w := by
  have both : ∀ w w', GuardRely run w w' → K w ∧ Over job w → K w' ∧ Over job w' :=
    fun w w' relied known => ⟨stable w w' relied known.1, known.2.rely relied⟩
  refine works_bind (works_mono (works_free both (free_write trivial) ⟨known, ended⟩) ?_ fun _ known => known.1)
  rintro _ w₁ ⟨known, ended⟩
  split
  · rename_i key fileId named reserved
    refine works_bind (works_query fun w₂ relied consistent => ⟨stable _ _ relied known, fun now => ?_⟩)
    have known := stable _ _ relied known
    split
    · exact known
    · rename_i missing
      have absent := Option.not_isSome_iff_eq_none.mp missing
      have abandoned := (ended.rely relied).abandoned consistent kind reserved absent
      split
      · exact known
      · rename_i own
        intro w₃ relied' consistent'
        obtain ⟨stored, found, same, terminal, gone⟩ := abandoned.rely relied'
        have company : stored.companyId = job.companyId := congrArg GuardRequest.companyId same
        refine ⟨⟨stored, found, terminal, gone, ?_⟩, fun choice answer w₄ executed => ?_⟩
        · rw [company]
          exact not_not.mp own
        · obtain rfl := congrArg Prod.snd (Option.some.inj executed)
          cases answer with
          | ok _ => exact stable w₃ _ (.of_same (GuardWorld.request_db ..)) (stable _ _ relied' known)
          | error _ => exact stable w₃ _ (.of_same (GuardWorld.request_db ..)) (stable _ _ relied' known)
  · exact known

theorem compensateAll_works {pending : List GuardJob}
    (ended : ∀ job ∈ pending, Over job w ∧ job.kind = .sanitize) :
    GuardWorks config run (fun _ => True) (compensateAll pending) Any w := by
  induction pending generalizing w with
  | nil => trivial
  | cons job rest ih =>
      obtain ⟨of_job, kind⟩ := ended job (List.mem_cons_self ..)
      have of_rest : ∀ other ∈ rest, Over other w ∧ other.kind = .sanitize :=
        fun other mem => ended other (List.mem_cons_of_mem _ mem)
      have stable : ∀ w w', GuardRely run w w' → (∀ other ∈ rest, Over other w ∧ other.kind = .sanitize) →
          ∀ other ∈ rest, Over other w' ∧ other.kind = .sanitize :=
        fun w w' relied known other mem => ⟨(known other mem).1.rely relied, (known other mem).2⟩
      exact Contract.meets_bind (Contract.meets_recover (compensate_works stable of_rest of_job kind)
        fun _ _ known => known) fun _ w' known => ih known

theorem cleanup_works : GuardWorks config run (fun _ => True) (cleanup config) Any w := by
  unfold cleanup
  split
  · refine works_bind (works_query fun w₁ relied consistent => ⟨trivial, fun now => ?_⟩)
    exact compensateAll_works fun job mem => over_of_pending consistent mem
  · trivial

/-! ### The work on a job

From its claim on a pass holds a document that may be out of date. Two facts survive everything the others do: the
job was claimed under this token, and, once the digest is recorded, that it is this digest. Each step of the work is
taken with one of them and fails harmlessly where the lease is gone. -/

/-- What was recorded by the claimant of a lease is what it wanted to record. -/
theorem recorded_of_output {digest : Nat} {moment : Moment} {actor : AuthenticatedUser} {db : GuardDb}
    (holding : Holding run job w) (consistent : w.db.Consistent)
    (executed : w.db.execute config run moment (.recordOutput job digest) = .ok (actor, db)) :
    Recorded run job digest { w with db := db } ∧ actor.companyId = job.companyId := by
  obtain ⟨stored, claimed, executed⟩ := bind_ok_iff.mp executed
  obtain ⟨_, _, executed⟩ := bind_ok_iff.mp executed
  obtain ⟨live, resolved, executed⟩ := bind_ok_iff.mp executed
  cases executed
  obtain ⟨found, _, _⟩ := claimed_eq_some (orFail_ok_iff.mp claimed)
  have same := consistent.held_request holding.lease found
  have named : stored.id = job.id := congrArg GuardRequest.id same
  refine ⟨⟨holding.lease, { stored with phase := .publishing, cleanupPending := true, outputDigest := some digest },
    ?_, same, rfl⟩, resolve_companyId resolved⟩
  show Function.update w.db.jobs stored.id _ job.id = some _
  rw [named, Function.update_self]

/-- The `try` block of `process`, after the digest was recorded. -/
theorem publishOutput_works {actor : AuthenticatedUser} {key : StorageKey} {result : SanitizationResponse}
    (recorded : Recorded run job result.outputDigest w) (kind : job.kind = .sanitize)
    (company : actor.companyId = job.companyId) (named : job.outputStorageKey = some key)
    (hashed : config.sha256 result.output = result.outputDigest) :
    GuardWorks config run (fun _ => True) (publishOutput job actor key result) Any w := by
  have put : GuardWorks config run (fun _ => True) (putObject job.id key result.output)
      (fun _ => Recorded run job result.outputDigest) w := by
    intro w₁ relied consistent
    have recorded := recorded.rely relied
    obtain ⟨stored, found, same, shown⟩ := recorded.stored
    refine ⟨⟨stored, found, ?_, ?_⟩, fun choice answer w₂ executed => ?_⟩
    · rw [hashed]
      exact shown
    · have sanitize : stored.kind = .sanitize := (congrArg GuardRequest.kind same).trans kind
      have result := ((consistent.sound job.id stored found).result sanitize).2
      rw [congrArg GuardRequest.outputStorageKey same, congrArg GuardRequest.id same] at result
      exact Option.some.inj (named.symm.trans result)
    · obtain rfl := congrArg Prod.snd (Option.some.inj executed)
      cases answer with
      | ok _ => exact recorded.rely (.of_same (GuardWorld.request_db ..))
      | error _ => trivial
  refine works_bind (works_mono put ?_ fun _ _ => trivial)
  intro _ w₁ recorded
  have stable : ∀ w w', GuardRely run w w' → Recorded run job result.outputDigest w →
      Recorded run job result.outputDigest w' := fun _ _ relied known => known.rely relied
  refine works_bind (works_mono (works_free stable free_aborted recorded) ?_ fun _ _ => trivial)
  intro _ w₂ recorded
  split
  · trivial
  · refine works_write fun w₃ relied _ => ⟨?_, trivial, fun _ _ _ _ => ⟨trivial, trivial⟩⟩
    exact ⟨(recorded.rely relied).lease, kind, company⟩

theorem holding_stable : ∀ w w', GuardRely run w w' → Holding run job w → Holding run job w' :=
  fun _ _ relied known => known.rely relied

/-- Free steps of a pass on its job. -/
theorem works_holding {program : GuardHandler α} (free : FreeHandler program) (holding : Holding run job w) :
    GuardWorks config run (fun _ => True) program (fun _ => Holding run job) w :=
  works_mono (works_free holding_stable free holding) (fun _ _ known => known) fun _ _ => trivial

theorem works_checked {outcome : Except GuardFailure α} {Q : α → GuardWorld → Prop}
    (passes : ∀ value, outcome = .ok value → Q value w) :
    GuardWorks config run (fun _ => True) (check outcome) Q w := works_check trivial passes

/-- The runner has hashed what it passes on. -/
theorem acceptSanitization_ok {response result : SanitizationResponse}
    (accepted : acceptSanitization config response = .ok result) :
    config.sha256 result.output = result.outputDigest := by
  unfold acceptSanitization at accepted
  split at accepted
  · cases accepted
  · rename_i sound
    cases accepted
    simp only [Bool.or_eq_true, not_or, decide_eq_true_eq, ne_eq, not_not] at sound
    exact sound.2

theorem sanitizeJob_works {bytes : Bytes} (holding : Holding run job w) (kind : job.kind = .sanitize) :
    GuardWorks config run (fun _ => True) (sanitizeJob config job bytes) Any w := by
  refine works_bind (works_checked fun _ _ => works_bind (works_checked fun _ _ => ?_))
  refine works_bind (works_mono (works_holding (free_query _) holding) ?_ fun _ _ => trivial)
  intro found w₁ holding
  refine works_bind (works_checked fun scan _ => works_bind (works_checked fun _ _ => ?_))
  refine works_bind (works_mono (works_holding (free_query _) holding) ?_ fun _ _ => trivial)
  intro findings w₂ holding
  refine works_bind (works_checked fun _ _ => ?_)
  have ran : GuardWorks config run (fun _ => True) (runSanitize config bytes
      { selection := ⟨job.categories, job.columns⟩
        categories := scan.categories
        phoneRegion := scan.phoneRegion
        findingsDigest := config.findingsDigest (findings.map (·.finding)) })
      (fun result w' => Holding run job w' ∧ config.sha256 result.output = result.outputDigest) w₂ := by
    refine works_bind (works_mono (works_holding ⟨trivial, fun _ => trivial⟩ holding) ?_ fun _ _ => trivial)
    intro response w₃ holding
    exact works_checked fun result accepted => ⟨holding, acceptSanitization_ok accepted⟩
  refine works_bind (works_mono ran ?_ fun _ _ => trivial)
  rintro result w₃ ⟨holding, hashed⟩
  split
  · rename_i key _ named _
    refine works_bind (works_mono (works_holding free_aborted holding) ?_ fun _ _ => trivial)
    intro stopped w₄ holding
    split
    · trivial
    · refine works_bind (works_write fun w₅ relied consistent => ?_)
      have holding := holding.rely relied
      have known : GuardCommand.Known run w₅.db (.recordOutput job result.outputDigest) := by
        intro stored found leased
        obtain ⟨other, there, same⟩ := holding.stored
        cases found.symm.trans there
        exact same leased
      refine ⟨known, trivial, fun moment actor db executed => ⟨trivial, ?_⟩⟩
      obtain ⟨recorded, company⟩ := recorded_of_output holding consistent executed
      have stable : ∀ w w', GuardRely run w w' → Recorded run job result.outputDigest w →
          Recorded run job result.outputDigest w' := fun _ _ relied known => known.rely relied
      refine works_bind (works_mono (works_free stable free_aborted recorded) ?_ fun _ _ => trivial)
      intro stopped w₆ recorded
      split
      · trivial
      · refine Contract.meets_recover (publishOutput_works recorded kind company named hashed) ?_
        exact fun _ _ _ => trivial
  · trivial

theorem workOn_works (holding : Holding run job w) :
    GuardWorks config run (fun _ => True) (workOn config job) Any w := by
  refine works_bind (works_mono (works_holding (free_stillClaimed _) holding) ?_ fun _ _ => trivial)
  intro claimed w₁ holding
  refine works_bind (works_checked fun _ _ => ?_)
  refine works_bind (works_mono (works_holding (free_resolve _ _ _) holding) ?_ fun _ _ => trivial)
  intro actor w₂ holding
  refine works_bind (works_mono (works_holding (free_readSource _ _) holding) ?_ fun _ _ => trivial)
  intro bytes w₃ holding
  refine works_bind (works_mono (works_holding (free_stillClaimed _) holding) ?_ fun _ _ => trivial)
  intro claimed w₄ holding
  refine works_bind (works_checked fun _ _ => ?_)
  split
  · rename_i kind
    refine works_bind (works_checked fun _ _ => ?_)
    refine works_bind (works_mono (works_holding (free_write trivial) holding) ?_ fun _ _ => trivial)
    intro _ w₅ holding
    exact sanitizeJob_works holding kind
  · rename_i other
    refine works_bind (works_mono (works_holding (free_write trivial) holding) ?_ fun _ _ => trivial)
    intro _ w₅ holding
    refine works_bind (works_mono (works_holding (free_runScan _ _ _) holding) ?_ fun _ _ => trivial)
    intro result w₆ holding
    refine works_write fun w₇ relied _ => ⟨?_, trivial, fun _ _ _ _ => ⟨trivial, trivial⟩⟩
    refine ⟨(holding.rely relied).lease, ?_⟩
    cases kind : job.kind with
    | scan => rfl
    | sanitize => exact absurd kind other

/-- A claim gives the run its job. -/
theorem holding_of_claim {moment : Moment} {db : GuardDb}
    (executed : w.db.execute config run moment .claimNext = .ok (some job, db)) :
    Holding run job { w with db := db } := by
  simp only [GuardDb.execute] at executed
  split at executed
  · cases executed
  · rename_i stored first
    cases executed
    exact ⟨List.mem_cons_self .., _, Function.update_self .., fun _ => rfl⟩

/-- A pass of the worker. -/
theorem run_works : GuardWorks config run (fun _ => True) (Guard.run config) Any w := by
  refine works_bind (works_mono recoverExpired_works ?_ fun _ _ => trivial)
  intro _ w₁ _
  refine works_bind (works_mono cleanup_works ?_ fun _ _ => trivial)
  intro _ w₂ _
  refine works_bind (works_write fun w₃ _ _ => ?_)
  refine ⟨trivial, trivial, fun moment claimed db executed => ⟨trivial, ?_⟩⟩
  split
  · trivial
  · refine Contract.meets_recover (workOn_works (holding_of_claim executed)) fun failure w' _ => ?_
    exact works_free (fun _ _ _ _ => trivial) (free_write trivial) trivial

/-! ### The contract -/

/-- A handler of free actions. -/
theorem works_any {program : GuardHandler α} (free : FreeHandler program) :
    GuardWorks config run (fun _ => True) program Any w :=
  works_mono (works_free (fun _ _ _ _ => trivial) free trivial) (fun _ _ _ => trivial) fun _ _ => trivial

theorem handler_works (job : GuardRequestJob) :
    GuardWorks config run (fun _ => True) (job.handler config) Any w := by
  cases job with
  | submitScan actor fileId dto => exact works_any (Process.every_bind (free_submitScan ..) fun _ => trivial)
  | submitCopy actor scanId dto => exact works_any (Process.every_bind (free_submitCopy ..) fun _ => trivial)
  | cancel actor id => exact works_any (Process.every_bind (free_cancelJob ..) fun _ => trivial)
  | deleteFile actor fileId => exact works_any (Process.every_bind (free_deleteFile ..) fun _ => trivial)
  | tick =>
      refine works_bind ?_
      unfold tick
      split
      · exact Contract.meets_recover run_works fun _ _ _ => trivial
      · trivial

theorem guardContract_sound (config : GuardConfig) :
    (guardContract config).Sound (fun _ _ _ _ => True) fun _ _ => True where
  refl := GuardRely.refl
  trans := GuardRely.trans
  step consistent known _ executed other differs :=
    .of_move (moves_of_exec consistent known executed) consistent (Ne.symm differs)
  keeps consistent known _ executed := consistent.move (moves_of_exec consistent known executed)
  drift {change w w'} consistent _ drifted run := by
    have moved : DbMove (run + 1) w.db w'.db := drift_moves consistent drifted
    exact .of_move moved consistent (Nat.succ_ne_self run)
  driftKeeps {change w w'} consistent _ drifted := by
    have moved : DbMove 0 w.db w'.db := drift_moves consistent drifted
    exact consistent.move moved
  handler job run w := Contract.Meets.mono (fun _ _ _ => trivial) (handler_works job)
  ended _ _ := trivial

variable {s s' : GuardSystem} {events : List GuardSystemEvent}

/-- The invariant rule of the guard: what every step and every drift keeps, given what the acting run knows, holds
in every state that an idle system with consistent collections reaches. -/
theorem guard_invariant {ok : GuardSystem → GuardSystemEvent → Prop} (inv : GuardWorld → Prop)
    (keeps : ∀ run choice act w answer w', w.db.Consistent → inv w → act.Known config run w →
      guardExec config run choice act w = some (answer, w') → inv w')
    (driftKeeps : ∀ change w w', w.db.Consistent → inv w → guardDrift change w = some w' → inv w')
    (played : (guardMachine config).Run ok s events s') (all : Contract.AllMeet (guardContract config) s)
    (start : inv s.world) : Contract.AllMeet (guardContract config) s' ∧ inv s'.world := by
  have free : (guardMachine config).Run (Contract.Permits (fun _ _ _ _ => True) fun _ _ => True) s events s' := by
    refine played.mono fun s event _ => ?_
    cases event with
    | arrive job => trivial
    | step run choice => exact fun _ _ _ => trivial
    | drift change => trivial
  refine (guardContract_sound config).invariant inv ?_ ?_ free all start
  · intro run choice act w answer w' consistent holds known _ executed
    exact keeps run choice act w answer w' consistent holds known executed
  · intro change w w' consistent holds _ drifted
    exact driftKeeps change w w' consistent holds drifted

/-- One event moves the collections by one step. -/
theorem moves_of_apply {event : GuardSystemEvent} (all : Contract.AllMeet (guardContract config) s)
    (applied : (guardMachine config).apply s event = some s') : ∃ run, DbMove run s.world.db s'.world.db := by
  cases event with
  | arrive job =>
      cases applied
      exact ⟨0, .unchanged⟩
  | step run choice =>
      simp only [Machine.apply] at applied
      split at applied
      · rename_i act resume waiting
        obtain ⟨⟨answer, world⟩, executed, rfl⟩ := Option.map_eq_some_iff.mp applied
        have known := (all.meets run _ waiting s.world (GuardRely.refl ..) all.inv).1
        exact ⟨run, moves_of_exec all.inv known executed⟩
      · cases applied
  | drift change =>
      obtain ⟨world, drifted, rfl⟩ := Option.map_eq_some_iff.mp applied
      exact ⟨0, drift_moves all.inv drifted⟩

end DataVault.Guard
