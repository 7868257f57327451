/-
Module: DataVault.Guard.CopySelections
Layer: Proof
Purpose: A stored sanitization was asked for a selection that its scan covers. The handler has checked the selection
  against a scan that had completed when it was read, a completed scan never changes in what the check looks at, and
  no other handler creates sanitizations.
Imports: DataVault.Guard.Admission
Trusted boundary: none
Main exports: Covers, selectionContract, submitCopy_meets, WellAsked, wellAsked_of_run
-/
import DataVault.Guard.Admission

namespace DataVault.Guard

open DataVault.Control DataVault.Interleaving DataVault.Users

variable {config : GuardConfig} {run : Nat} {w w' : GuardWorld} {α : Type}

/-! ### Completed scans -/

/-- The scan has completed and covers the selection. -/
def Covers (db : GuardDb) (scanId : Nat) (selection : RedactionSelection) : Prop :=
  ∃ scan, db.jobs scanId = some scan ∧ scan.status = .completed ∧ selectionInvalid scan selection = false

/-- The check looks at nothing that the cleanup of a job changes. -/
theorem selectionInvalid_settled {scan scan' : GuardJob} (same : scan'.settled = scan.settled)
    (selection : RedactionSelection) : selectionInvalid scan' selection = selectionInvalid scan selection := by
  have categories : scan'.settled.categories = scan.settled.categories := by rw [same]
  have sheets : scan'.settled.sheets = scan.settled.sheets := by rw [same]
  simp only [GuardJob.settled] at categories sheets
  simp only [selectionInvalid, categories, sheets]

/-- Completed jobs stay as they are, apart from the fields of the cleanup. A copy can therefore rely on the scan that it
was created for. -/
def CompletedStay (w w' : GuardWorld) : Prop :=
  ∀ id job, w.db.jobs id = some job → job.status = .completed →
    ∃ job', w'.db.jobs id = some job' ∧ job'.settled = job.settled

theorem settled_status {job job' : GuardJob} (same : job'.settled = job.settled) : job'.status = job.status := by
  have status : job'.settled.status = job.settled.status := by rw [same]
  exact status

namespace CompletedStay

theorem refl (w : GuardWorld) : CompletedStay w w := fun _ job found _ => ⟨job, found, rfl⟩

theorem trans {w'' : GuardWorld} (one : CompletedStay w w') (two : CompletedStay w' w'') : CompletedStay w w'' := by
  intro id job found completed
  obtain ⟨job', found', same⟩ := one id job found completed
  obtain ⟨job'', found'', same'⟩ := two id job' found' ((settled_status same).trans completed)
  exact ⟨job'', found'', same'.trans same⟩

theorem of_move (consistent : w.db.Consistent) (move : DbMove run w.db w'.db) : CompletedStay w w' := by
  intro id job found completed
  obtain ⟨job', found', moved⟩ := move.job consistent found
  have terminal : job.status.terminal = true := by
    rw [completed]
    rfl
  exact ⟨job', found', (moved.settled (consistent.sound id job found) terminal).1⟩

end CompletedStay

theorem Covers.stay {scanId : Nat} {selection : RedactionSelection} (covers : Covers w.db scanId selection)
    (stay : CompletedStay w w') : Covers w'.db scanId selection := by
  obtain ⟨scan, found, completed, valid⟩ := covers
  obtain ⟨scan', found', same⟩ := stay scanId scan found completed
  exact ⟨scan', found', (settled_status same).trans completed, (selectionInvalid_settled same selection).trans valid⟩

/-! ### The contract -/

/-- A sanitization is only created for a selection that its scan covers. -/
def WellAsked (w : GuardWorld) : GuardAct → Prop
  | .command (.createCopy _ scan _ selection) => Covers w.db scan.id selection
  | _ => True

def selectionContract (config : GuardConfig) : Contract (guardMachine config) where
  rely _ := CompletedStay
  inv w := w.db.Consistent
  needs _ act w := WellAsked w act
  ends _ := Any

/-- The actions that create no sanitization. -/
def GuardAct.NoCopy : GuardAct → Prop
  | .command (.createCopy ..) => False
  | _ => True

theorem wellAsked_of_noCopy {act : GuardAct} (other : act.NoCopy) : WellAsked w act := by
  cases act with
  | command command =>
      cases command with
      | createCopy actor scan requestKey selection => exact other.elim
      | _ => trivial
  | _ => trivial

abbrev NoCopyHandler (program : GuardHandler α) : Prop := Process.Every GuardAct.NoCopy program.run

theorem noCopy_of_queries {program : GuardHandler α} (queries : QueryHandler program) : NoCopyHandler program :=
  Process.Every.mono (fun _ ⟨_, same⟩ => same ▸ trivial) queries

theorem noCopy_query (read : GuardQuery) : NoCopyHandler (query read) := noCopy_of_queries (queries_query read)

theorem noCopy_check {outcome : Except GuardFailure α} : NoCopyHandler (check outcome) := Process.every_liftExcept

/-- Any other action. -/
theorem noCopy_await {act : GuardAct} (other : act.NoCopy) : Process.Every GuardAct.NoCopy (await act) :=
  ⟨other, fun _ => trivial⟩

/-! ### The handlers that create none -/

theorem noCopy_replay (job : GuardJob) (fingerprint : Fingerprint) : NoCopyHandler (replay job fingerprint) :=
  Process.every_bind noCopy_check fun _ => trivial

theorem noCopy_submitScan (actor : AuthenticatedUser) (fileId : Nat) (dto : GuardScanDto) :
    NoCopyHandler (submitScan config actor fileId dto) := by
  refine Process.every_bind (noCopy_of_queries (queries_resolve _ _ _)) fun _ => ?_
  refine Process.every_bind (noCopy_of_queries (queries_processingSource _ _)) fun _ => ?_
  refine Process.every_bind noCopy_check fun _ => Process.every_bind noCopy_check fun _ => ?_
  refine Process.every_bind noCopy_check fun _ => Process.every_bind (noCopy_query _) fun existing => ?_
  split
  · exact noCopy_replay _ _
  · refine Process.every_bind (noCopy_query _) fun recent => Process.every_bind noCopy_check fun _ => ?_
    refine Process.every_recover (noCopy_await trivial) fun failure => ?_
    refine Process.every_bind (noCopy_query _) fun committed => ?_
    split
    · exact noCopy_replay _ _
    · split
      · trivial
      · split <;> trivial

theorem noCopy_cancelJob (actor : AuthenticatedUser) (id : Nat) : NoCopyHandler (cancelJob actor id) := by
  refine Process.every_bind (noCopy_of_queries (queries_authorized _ _)) fun job => ?_
  refine Process.every_bind (noCopy_await trivial) fun _ => ?_
  exact noCopy_of_queries (queries_authorized _ _)

theorem noCopy_deleteFile (actor : AuthenticatedUser) (fileId : Nat) : NoCopyHandler (deleteFile actor fileId) := by
  have rest (file : CompanyFile) : NoCopyHandler (do
      deleteObject none file.storageKey
      if ← write (.deleteFile actor file) then pure () else throw (.notFound "File not found")) := by
    refine Process.every_bind (noCopy_await trivial) fun _ => Process.every_bind (noCopy_await trivial) fun done => ?_
    split <;> trivial
  refine Process.every_bind (noCopy_query _) fun found => Process.every_bind noCopy_check fun file => ?_
  refine Process.every_bind noCopy_check fun _ => ?_
  split
  · exact Process.every_bind (noCopy_await trivial) fun _ => rest file
  · exact rest file

theorem noCopy_recoverAll (expired : List GuardJob) : NoCopyHandler (recoverAll expired) := by
  induction expired with
  | nil => trivial
  | cons job rest ih => exact Process.every_bind (noCopy_await trivial) fun _ => ih

theorem noCopy_compensate (job : GuardJob) : NoCopyHandler (compensate job) := by
  refine Process.every_bind (noCopy_await trivial) fun _ => ?_
  split
  · refine Process.every_bind (noCopy_query _) fun found => ?_
    split
    · trivial
    · split
      · trivial
      · exact noCopy_await trivial
  · trivial

theorem noCopy_compensateAll (pending : List GuardJob) : NoCopyHandler (compensateAll pending) := by
  induction pending with
  | nil => trivial
  | cons job rest ih =>
      exact Process.every_bind (Process.every_recover (noCopy_compensate job) fun _ => trivial) fun _ => ih

theorem noCopy_cleanup : NoCopyHandler (cleanup config) := by
  unfold cleanup
  split
  · exact Process.every_bind (noCopy_query _) fun pending => noCopy_compensateAll pending
  · trivial

theorem noCopy_stillClaimed (job : GuardJob) : NoCopyHandler (stillClaimed job) := by
  refine Process.every_bind (noCopy_query _) fun claimed => ?_
  split
  · exact Process.every_bind (noCopy_of_queries (queries_resolve _ _ _)) fun _ => trivial
  · trivial

theorem noCopy_publishOutput (job : GuardJob) (actor : AuthenticatedUser) (key : StorageKey)
    (result : SanitizationResponse) : NoCopyHandler (publishOutput job actor key result) := by
  refine Process.every_bind (noCopy_await trivial) fun _ => Process.every_bind ⟨trivial, fun _ => trivial⟩ fun stopped => ?_
  split
  · trivial
  · exact noCopy_await trivial

theorem noCopy_sanitizeJob (job : GuardJob) (bytes : Bytes) : NoCopyHandler (sanitizeJob config job bytes) := by
  refine Process.every_bind noCopy_check fun _ => Process.every_bind noCopy_check fun _ => ?_
  refine Process.every_bind (noCopy_query _) fun found => Process.every_bind noCopy_check fun scan => ?_
  refine Process.every_bind noCopy_check fun _ => Process.every_bind (noCopy_query _) fun findings => ?_
  refine Process.every_bind noCopy_check fun _ => ?_
  refine Process.every_bind (Process.every_bind (noCopy_await trivial) fun _ => noCopy_check) fun result => ?_
  split
  · refine Process.every_bind ⟨trivial, fun _ => trivial⟩ fun stopped => ?_
    split
    · trivial
    · refine Process.every_bind (noCopy_await trivial) fun actor => ?_
      refine Process.every_bind ⟨trivial, fun _ => trivial⟩ fun stopped => ?_
      split
      · trivial
      · exact Process.every_recover (noCopy_publishOutput _ _ _ _) fun _ => trivial
  · trivial

theorem noCopy_workOn (job : GuardJob) : NoCopyHandler (workOn config job) := by
  refine Process.every_bind (noCopy_stillClaimed job) fun _ => Process.every_bind noCopy_check fun _ => ?_
  refine Process.every_bind (noCopy_of_queries (queries_resolve _ _ _)) fun actor => ?_
  refine Process.every_bind (Process.every_recover (noCopy_await trivial) fun failure => ?_) fun bytes => ?_
  · split <;> trivial
  refine Process.every_bind (noCopy_stillClaimed job) fun _ => Process.every_bind noCopy_check fun _ => ?_
  split
  · refine Process.every_bind noCopy_check fun _ => Process.every_bind (noCopy_await trivial) fun _ => ?_
    exact noCopy_sanitizeJob job bytes
  · refine Process.every_bind (noCopy_await trivial) fun _ => ?_
    refine Process.every_bind (Process.every_bind (noCopy_await trivial) fun _ => noCopy_check) fun result => ?_
    exact noCopy_await trivial

theorem noCopy_tick : NoCopyHandler (tick config) := by
  unfold tick
  split
  · refine Process.every_recover ?_ fun _ => trivial
    refine Process.every_bind (Process.every_bind (noCopy_query _) fun expired => noCopy_recoverAll expired) fun _ => ?_
    refine Process.every_bind noCopy_cleanup fun _ => Process.every_bind (noCopy_await trivial) fun taken => ?_
    split
    · trivial
    · exact Process.every_recover (noCopy_workOn _) fun _ => noCopy_await trivial
  · trivial

/-! ### The handler that creates them

The handler reads the scan, checks the selection and creates the sanitization later. In between the scan may be
cleaned up or its file deleted, but a completed scan never changes in what was checked. -/

/-- The program meets the contract and ends in `Q` where it does not fail. -/
def SelectionWorks (config : GuardConfig) (run : Nat) (program : GuardHandler α) (Q : α → GuardWorld → Prop)
    (w : GuardWorld) : Prop :=
  (selectionContract config).Meets run (Ends Q Any) program.run w

section Rules

variable {β : Type} {Q : α → GuardWorld → Prop} {R : β → GuardWorld → Prop}

theorem selection_bind {first : GuardHandler α} {next : α → GuardHandler β} (works : SelectionWorks config run first Q w)
    (later : ∀ value w', Q value w' → SelectionWorks config run (next value) R w') :
    SelectionWorks config run (first >>= next) R w :=
  Contract.meets_bind works later

theorem selection_check {outcome : Except GuardFailure α} (passes : ∀ value, outcome = .ok value → Q value w) :
    SelectionWorks config run (check outcome) Q w := by
  cases outcome with
  | ok value => exact passes value rfl
  | error failure => exact trivial

/-- A query; its answer is what the collections have. -/
theorem selection_query {read : GuardQuery} {Q : read.Res → GuardWorld → Prop}
    (answers : ∀ w₁, CompletedStay w w₁ → w₁.db.Consistent → ∀ now, Q (w₁.db.answer config run now read) w₁) :
    SelectionWorks config run (query read) Q w := by
  intro w₁ stay consistent
  refine ⟨trivial, fun choice answer w₂ executed => ?_⟩
  obtain ⟨rfl, rfl⟩ := Prod.mk.inj (Option.some.inj executed)
  split
  · exact answers _ stay consistent _
  · trivial

/-- Queries keep what completed jobs keep. -/
theorem selection_queries {K : GuardWorld → Prop} (stable : ∀ w w', CompletedStay w w' → K w → K w')
    {program : GuardHandler α} (queries : QueryHandler program) (known : K w) :
    SelectionWorks config run program (fun _ => K) w := by
  refine Contract.Meets.mono (fun outcome w' ended => ?_) (Contract.Meets.of_every (m := guardMachine config)
    (C := selectionContract config) stable ?_ queries known)
  · cases outcome with
    | ok value => exact ended
    | error failure => trivial
  · rintro act w ⟨read, rfl⟩ _
    refine ⟨trivial, fun choice answer w' executed => ?_⟩
    obtain ⟨_, rfl⟩ := Prod.mk.inj (Option.some.inj executed)
    exact CompletedStay.refl w

end Rules

/-- The document of a completed job is the stored one, up to its cleanup. -/
def Seen (job : GuardJob) (w : GuardWorld) : Prop :=
  job.status = .completed → ∃ stored, w.db.jobs job.id = some stored ∧ stored.settled = job.settled

theorem Seen.stay {job : GuardJob} : ∀ w w', CompletedStay w w' → Seen job w → Seen job w' := by
  intro w w' stay seen completed
  obtain ⟨stored, found, same⟩ := seen completed
  obtain ⟨stored', found', same'⟩ := stay _ stored found ((settled_status same).trans completed)
  exact ⟨stored', found', same'.trans same⟩

theorem Covers.stable {scanId : Nat} {selection : RedactionSelection} :
    ∀ w w', CompletedStay w w' → Covers w.db scanId selection → Covers w'.db scanId selection :=
  fun _ _ stay covers => covers.stay stay

theorem authorized_works (actor : AuthenticatedUser) (id : Nat) :
    SelectionWorks config run (authorized actor id) Seen w := by
  refine selection_bind (Q := fun found w => ∀ job, found = some job → Seen job w) (selection_query ?_) fun found w' seen => ?_
  · intro w₁ _ consistent now job found _
    obtain ⟨stored, _⟩ := Option.filter_eq_some_iff.mp found
    obtain rfl := (consistent.ids id job stored).1
    exact ⟨job, stored, rfl⟩
  refine selection_bind (Q := Seen) (selection_check ?_) fun job w' known => ?_
  · intro job present
    exact seen job (orFail_ok_iff.mp present)
  refine Contract.meets_recover (E := Any) ?_ fun _ _ _ => trivial
  refine selection_bind (selection_queries Seen.stay (queries_resolve _ _ _) known) fun _ _ kept => ?_
  exact kept

/-- A sanitization is created for a selection that the handler has checked. -/
theorem submitCopy_works (actor : AuthenticatedUser) (scanId : Nat) (dto : GuardRedactDto) :
    SelectionWorks config run (submitCopy config actor scanId dto) Any w := by
  refine selection_bind (authorized_works actor scanId) fun scan w₁ seen => ?_
  refine selection_bind (Q := fun _ => Seen scan) (selection_check fun _ _ => seen) fun _ w₂ seen => ?_
  refine selection_bind
    (Q := fun _ w => ∃ stored, w.db.jobs scan.id = some stored ∧ stored.status = .completed ∧
      stored.settled = scan.settled)
    (selection_check ?_) fun _ w₃ stored => ?_
  · intro _ passed
    have eligible := require_ok_iff.mp passed
    simp only [Bool.and_eq_true, decide_eq_true_eq] at eligible
    obtain ⟨stored, found, same⟩ := seen eligible.1.2
    exact ⟨stored, found, (settled_status same).trans eligible.1.2, same⟩
  have stable : ∀ w w' : GuardWorld, CompletedStay w w' →
      (∃ stored, w.db.jobs scan.id = some stored ∧ stored.status = .completed ∧ stored.settled = scan.settled) →
      ∃ stored, w'.db.jobs scan.id = some stored ∧ stored.status = .completed ∧ stored.settled = scan.settled := by
    rintro w w' stay ⟨stored, found, completed, same⟩
    obtain ⟨stored', found', same'⟩ := stay _ stored found completed
    exact ⟨stored', found', (settled_status same').trans completed, same'.trans same⟩
  refine selection_bind (selection_queries stable (queries_processingSource _ _) stored) fun source w₄ stored => ?_
  refine selection_bind (Q := fun _ w => ∃ stored, w.db.jobs scan.id = some stored ∧ stored.status = .completed ∧
    stored.settled = scan.settled) (selection_check fun _ _ => stored) fun _ w₅ stored => ?_
  refine selection_bind (Q := fun _ w => Covers w.db scan.id dto.selection) (selection_check ?_) fun _ w₆ covers => ?_
  · intro _ passed
    have valid := require_ok_iff.mp passed
    simp only [Bool.not_eq_true'] at valid
    obtain ⟨found, there, completed, same⟩ := stored
    exact ⟨found, there, completed, (selectionInvalid_settled same _).trans valid⟩
  refine selection_bind (selection_queries Covers.stable (queries_query _) covers) fun existing w₇ covers => ?_
  cases existing with
  | some existing => exact selection_bind (Q := Any) (selection_check fun _ _ => trivial) fun _ _ _ => trivial
  | none =>
      refine Contract.meets_recover (E := Any) ?_ fun failure w' _ => ?_
      · intro w₈ stay _
        refine ⟨covers.stay stay, fun choice answer w₉ _ => ?_⟩
        cases answer <;> trivial
      · -- What follows a failed write only reads.
        refine selection_queries (K := fun _ => True) (fun _ _ _ _ => trivial) ?_ trivial
        refine Process.every_bind (queries_query _) fun found => ?_
        split
        · split <;> trivial
        · trivial

/-- Every handler meets the contract. -/
theorem handler_wellAsked (job : GuardRequestJob) :
    (selectionContract config).Meets run Any ((guardMachine config).handler job) w := by
  have others {program : GuardHandler (Option GuardJob)} (other : NoCopyHandler program) :
      (selectionContract config).Meets run Any program.run w :=
    Contract.meets_any_of_every (fun _ _ noCopy => wellAsked_of_noCopy noCopy) other
  cases job with
  | submitScan actor fileId dto => exact others (Process.every_bind (noCopy_submitScan ..) fun _ => trivial)
  | submitCopy actor scanId dto =>
      refine Contract.Meets.mono (fun _ _ _ => trivial)
        (selection_bind (R := Any) (submitCopy_works actor scanId dto) fun _ _ _ => trivial)
  | cancel actor id => exact others (Process.every_bind (noCopy_cancelJob ..) fun _ => trivial)
  | deleteFile actor fileId => exact others (Process.every_bind (noCopy_deleteFile ..) fun _ => trivial)
  | tick => exact others (Process.every_bind noCopy_tick fun _ => trivial)

/-- Together with the contract of the guard. -/
theorem selectionContract_sound (config : GuardConfig) :
    ((guardContract config).both (selectionContract config)).Sound (fun _ _ _ _ => True) fun _ _ => True := by
  refine (guardContract_sound config).both (fun _ => CompletedStay.refl) CompletedStay.trans ?_ ?_ ?_ ?_
  · intro run choice act w answer w' consistent known _ _ _ executed
    have move := moves_of_exec consistent known executed
    exact ⟨fun _ _ => .of_move consistent move, consistent.move move⟩
  · intro change w w' consistent _ _ drifted
    have move : DbMove 0 w.db w'.db := drift_moves consistent drifted
    exact ⟨fun _ => .of_move consistent move, consistent.move move⟩
  · intro job run w
    exact handler_wellAsked job
  · intro run out w w' ended _
    exact ended

/-! ### The stored requests -/

/-- What the fingerprint of a stored job says of it: with the fingerprint of a copy it is a sanitization, and the scan
in the fingerprint covers the selection in it. -/
def GuardDb.WellAsked (db : GuardDb) : Prop :=
  ∀ id job, db.jobs id = some job → ∀ scanId selection, job.fingerprint = .copy scanId selection →
    job.kind = .sanitize ∧ Covers db scanId selection

/-- A job that a command has created. -/
theorem created_of_execute {moment : Moment} {db db' : GuardDb} {command : GuardCommand} {answer : command.Res}
    (move : DbMove run db db') (executed : db.execute config run moment command = .ok (answer, db')) {id : Nat}
    {job : GuardJob} (found : db'.jobs id = some job) (absent : db.jobs id = none) :
    (∃ actor fileId requestKey categories phoneRegion,
      job = db.newScan actor fileId requestKey categories phoneRegion moment.later) ∨
      ∃ actor scan requestKey selection sourceDigest, command = .createCopy actor scan requestKey selection ∧
        job = db.newCopy actor scan requestKey selection sourceDigest moment.later := by
  have of_insert {new answer : GuardJob} (inserted : db.insertJob new = .ok (answer, db')) : job = new := by
    obtain ⟨_, _, inserted⟩ := bind_ok_iff.mp inserted
    obtain rfl := congrArg Prod.snd (Except.ok.inj inserted)
    change Function.update db.jobs new.id (some new) id = some job at found
    by_cases same : id = new.id
    · subst same
      rw [Function.update_self] at found
      exact (Option.some.inj found).symm
    · rw [Function.update_of_ne same, absent] at found
      cases found
  rcases execute_nextId executed with bound | ⟨actor, fileId, requestKey, categories, phoneRegion, rfl⟩ |
    ⟨actor, scan, requestKey, selection, rfl⟩
  · cases move with
    | quiet jobs =>
        rw [jobs, absent] at found
        cases found
    | born _ nextId => omega
    | @moved other _ _ there jobs =>
        have differs : id ≠ other := by
          rintro rfl
          cases absent.symm.trans there
        rw [jobs, Function.update_of_ne differs, absent] at found
        cases found
  · obtain ⟨_, _, executed⟩ := bind_ok_iff.mp executed
    obtain ⟨_, _, inserted⟩ := bind_ok_iff.mp executed
    exact .inl ⟨_, _, _, _, _, of_insert inserted⟩
  · obtain ⟨_, _, executed⟩ := bind_ok_iff.mp executed
    obtain ⟨sourceDigest, _, executed⟩ := bind_ok_iff.mp executed
    obtain ⟨_, _, inserted⟩ := bind_ok_iff.mp executed
    exact .inr ⟨_, _, _, _, sourceDigest, rfl, of_insert inserted⟩

/-- What was stored before keeps what its fingerprint says. -/
theorem GuardDb.WellAsked.kept {w w' : GuardWorld} (asked : w.db.WellAsked) (consistent : w.db.Consistent)
    (move : DbMove run w.db w'.db) {id : Nat} {job job' : GuardJob} (found : w.db.jobs id = some job)
    (found' : w'.db.jobs id = some job') {scanId : Nat} {selection : RedactionSelection}
    (copy : job'.fingerprint = .copy scanId selection) : job'.kind = .sanitize ∧ Covers w'.db scanId selection := by
  obtain ⟨moved, there, step⟩ := move.job consistent found
  cases there.symm.trans found'
  have request := step.request
  have fingerprint : job'.fingerprint = job.fingerprint := by rw [request]
  have kind : job'.kind = job.kind := by rw [request]
  obtain ⟨sanitize, covers⟩ := asked id job found scanId selection (fingerprint.symm.trans copy)
  exact ⟨kind.trans sanitize, covers.stay (.of_move consistent move)⟩

variable {ok : GuardSystem → GuardSystemEvent → Prop} {s s' : GuardSystem} {events : List GuardSystemEvent}

/-- Both contracts, and what the fingerprints say, along every run. -/
theorem wellAsked_of_run
    (all : Contract.AllMeet ((guardContract config).both (selectionContract config)) s)
    (reached : (guardMachine config).Run ok s events s') (asked : s.world.db.WellAsked) :
    Contract.AllMeet ((guardContract config).both (selectionContract config)) s' ∧ s'.world.db.WellAsked := by
  have free : (guardMachine config).Run (Contract.Permits (fun _ _ _ _ => True) fun _ _ => True) s events s' := by
    refine reached.mono fun s event _ => ?_
    cases event with
    | arrive job => trivial
    | step run choice => exact fun _ _ _ => trivial
    | drift change => trivial
  refine (selectionContract_sound config).invariant (fun w => w.db.WellAsked) ?_ ?_ free all asked
  · intro run choice act w answer w' consistent asked known _ executed id job found scanId selection copy
    have move := moves_of_exec consistent.1 known.1 executed
    cases before : w.db.jobs id with
    | some old => exact asked.kept consistent.1 move before found copy
    | none =>
        rcases db_of_exec executed with same | ⟨command, reply, rfl, done, _⟩
        · rw [same, before] at found
          cases found
        · rcases created_of_execute move done found before with
            ⟨_, _, _, _, _, rfl⟩ | ⟨actor, scan, requestKey, chosen, _, rfl, rfl⟩
          · cases copy
          · cases copy
            have covers : Covers w.db scan.id selection := known.2
            exact ⟨rfl, covers.stay (.of_move consistent.1 move)⟩
  · intro change w w' consistent asked _ drifted id job found scanId selection copy
    have move : DbMove 0 w.db w'.db := drift_moves consistent.1 drifted
    cases before : w.db.jobs id with
    | some old => exact asked.kept consistent.1 move before found copy
    | none =>
        rw [(drift_jobs drifted).1, before] at found
        cases found

end DataVault.Guard
