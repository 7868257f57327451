/-
Module: DataVault.Maintenance.SmokeRecovery
Layer: Proof
Purpose: What the smoke test does to a live system. It suspends one company at most, only after the administration and
  the tenant have both shown it to be the untouched fixture; and every company ends with the status it had, wherever
  requests or answers are lost, unless the test reports that its recovery failed.
Imports: DataVault.Companies.Entity, DataVault.Maintenance.SmokeTest
Trusted boundary: none
Main exports: SmokeWorld, SmokeEnv, Due, Cleared, smoke_test_restores, smoke_test_suspends_fixture
-/
import DataVault.Companies.Entity
import DataVault.Maintenance.SmokeTest

namespace DataVault.Maintenance.SmokeTest

open Companies Control Interleaving Store Text

/-! ### The server -/

/-- The statuses on the server, and the exchanges so far, the last one first. -/
structure SmokeWorld where
  standing : ObjectId → CompanyPlatformStatus
  log : List (Step SmokeAct SmokeAct.Res) := []

def statusText : CompanyPlatformStatus → String
  | .active => "active"
  | .suspended => "suspended"

namespace SmokeWorld

variable (w : SmokeWorld)

def after (step : Step SmokeAct SmokeAct.Res) : SmokeWorld := { w with log := step :: w.log }

def set (companyId : ObjectId) (status : CompanyPlatformStatus) : SmokeWorld :=
  { w with standing := Function.update w.standing companyId status }

end SmokeWorld

/-- The status that a request asks for, and the company. -/
def SmokeEndpoint.sets : SmokeEndpoint → Option (String × CompanyPlatformStatus)
  | .suspend id => some (id, .suspended)
  | .reactivate id => some (id, .active)
  | _ => none

/-- The platform status in the body of a company's detail. -/
def shownStatus (body : Option Json) : Option Json :=
  (body.bind fun detail => detail.field "company").bind fun company => company.field "platformStatus"

/-- An answer with the detail of a company shows the status that the company has. -/
def Truthful (w : SmokeWorld) (endpoint : SmokeEndpoint) (answer : Option SmokeResponse) : Prop :=
  ∀ id companyId body text, endpoint = .company id → ObjectId.ofHex? id = some companyId → answer = some ⟨200, body⟩ →
    shownStatus body = some (.string text) → text = statusText (w.standing companyId)

/-- A server: every answer may be lost, and a change may take effect whatever is answered. An honest one confirms only
what has taken effect and shows the statuses as they are. -/
inductive SmokeEnv (honest : Prop) : Environment SmokeAct SmokeAct.Res SmokeWorld
  | prompted (w : SmokeWorld) (answer : Option String) :
      SmokeEnv honest w .promptActivation answer (w.after ⟨.promptActivation, answer⟩)
  | read (w : SmokeWorld) {endpoint : SmokeEndpoint} (token : Option String) (body : Option Json)
      {answer : Option SmokeResponse} (reads : endpoint.sets = none) (truthful : honest → Truthful w endpoint answer) :
      SmokeEnv honest w (.request endpoint token body) answer (w.after ⟨.request endpoint token body, answer⟩)
  | changed (w : SmokeWorld) {endpoint : SmokeEndpoint} (token : Option String) (body : Option Json)
      (answer : Option SmokeResponse) {id : String} {companyId : ObjectId} {status : CompanyPlatformStatus}
      (sets : endpoint.sets = some (id, status)) (named : ObjectId.ofHex? id = some companyId) :
      SmokeEnv honest w (.request endpoint token body) answer
        ((w.set companyId status).after ⟨.request endpoint token body, answer⟩)
  | unchanged (w : SmokeWorld) {endpoint : SmokeEndpoint} (token : Option String) (body : Option Json)
      {answer : Option SmokeResponse} (refused : honest → ∀ response, answer = some response → response.status ≠ 200) :
      SmokeEnv honest w (.request endpoint token body) answer (w.after ⟨.request endpoint token body, answer⟩)

/-! ### What is due -/

variable {honest : Prop} {runtime : SmokeRuntime} {operator : SmokeOperator} {fixtureName : String} {start : SmokeStart}
variable {initial : ObjectId → CompanyPlatformStatus} {w w' : SmokeWorld} {α : Type}

def asksSuspension : SmokeAct → Bool
  | .request (.suspend _) _ _ => true
  | _ => false

/-- The tenant of the company has shown itself as its owner, and is no administrator. -/
structure TenantShown (operator : SmokeOperator) (id : String) (log : List (Step SmokeAct SmokeAct.Res)) : Prop where
  shown : ∃ token user, ⟨.request .currentUser (some token) none, some ⟨200, some user⟩⟩ ∈ log ∧
    user.field "companyId" = some (.string id) ∧ isText "company_owner" (user.field "role") = true ∧
    isText operator.email (user.field "email") = true ∧
    ∃ body, ⟨.request .dashboard (some token) none, some ⟨401, body⟩⟩ ∈ log

/-- What must have happened before a suspension: none was asked for, the tenant has shown itself as the owner of the
company, and the last answer shows the fixture untouched. -/
structure Cleared (operator : SmokeOperator) (fixtureName id : String) (log : List (Step SmokeAct SmokeAct.Res)) :
    Prop where
  first : ∀ step ∈ log, asksSuspension step.1 = false
  tenant : TenantShown operator id log
  fixture : ∃ detail earlier,
    log = ⟨.request (.company id) (some operator.adminToken) none, some ⟨200, some detail⟩⟩ :: earlier ∧
      pristineFixture detail fixtureName id operator.email true = true

/-- The requests that need a reason. -/
def Due (operator : SmokeOperator) (fixtureName : String) (start : SmokeStart) (w : SmokeWorld) : SmokeAct → Prop
  | .request (.suspend id) _ _ => Cleared operator fixtureName id w.log
  | .request (.reactivate id) _ _ => ∃ step ∈ w.log, ∃ token body, step.1 = .request (.suspend id) token body
  | .request .signUp _ _ => start.isSome = true
  | _ => True

/-- A part of the test keeps to what is due, and ends in `Q` or fails in `E`. It is irreducible, so that no
proof runs a part ahead. -/
@[irreducible]
def Tests (honest : Prop) (operator : SmokeOperator) (fixtureName : String) (start : SmokeStart)
    (part : SmokeHandler α) (Q : α → SmokeWorld → Prop) (E : SmokeFailure → SmokeWorld → Prop) (w : SmokeWorld) : Prop :=
  part.run.Ensures (SmokeEnv honest) (Due operator fixtureName start) (Ends Q E) w

theorem expectStatus_ok {stage : SmokeStage} {status : Nat} {answer : Option SmokeResponse} {body : Option Json}
    (expected : expectStatus stage status answer = .ok body) : answer = some ⟨status, body⟩ := by
  cases answer with
  | none => cases expected
  | some response =>
      rw [expectStatus] at expected
      split at expected
      · rename_i same
        cases expected
        rw [← same]
      · cases expected

/-! ### Rules -/

section Rules

variable {Q : α → SmokeWorld → Prop} {E : SmokeFailure → SmokeWorld → Prop} {β : Type}

theorem tests_pure {value : α} (ends : Q value w) : Tests honest operator fixtureName start (pure value) Q E w := by
  unfold Tests
  exact ends

/-- A check at the end. -/
theorem tests_checked {outcome : Except SmokeFailure α} (passes : ∀ value, outcome = .ok value → Q value w)
    (fails : ∀ failure, outcome = .error failure → E failure w) :
    Tests honest operator fixtureName start (check outcome) Q E w := by
  unfold Tests
  cases outcome with
  | ok value => exact passes value rfl
  | error failure => exact fails failure rfl

theorem tests_mono {part : SmokeHandler α} {R : α → SmokeWorld → Prop} {F : SmokeFailure → SmokeWorld → Prop}
    (succeeds : ∀ value w, R value w → Q value w) (fails : ∀ failure w, F failure w → E failure w)
    (ensures : Tests honest operator fixtureName start part R F w) :
    Tests honest operator fixtureName start part Q E w := by
  unfold Tests at ensures ⊢
  refine Process.Ensures.mono (fun outcome w ended => ?_) ensures
  cases outcome with
  | ok value => exact succeeds value w ended
  | error failure => exact fails failure w ended

theorem tests_bind {first : SmokeHandler β} {next : β → SmokeHandler α} {R : β → SmokeWorld → Prop}
    (ensures : Tests honest operator fixtureName start first R E w)
    (continues : ∀ value w, R value w → Tests honest operator fixtureName start (next value) Q E w) :
    Tests honest operator fixtureName start (first >>= next) Q E w := by
  unfold Tests at ensures continues ⊢
  exact Process.ensures_bind ensures continues

theorem tests_check {outcome : Except SmokeFailure β} {next : β → SmokeHandler α}
    (passes : ∀ value, outcome = .ok value → Tests honest operator fixtureName start (next value) Q E w)
    (fails : ∀ failure, outcome = .error failure → E failure w) :
    Tests honest operator fixtureName start (check outcome >>= next) Q E w := by
  unfold Tests at passes ⊢
  exact Process.ensures_liftExcept passes fails

theorem tests_await {act : SmokeAct} {next : act.Res → SmokeHandler α} (isDue : Due operator fixtureName start w act)
    (continues : ∀ answer w', SmokeEnv honest w act answer w' →
      Tests honest operator fixtureName start (next answer) Q E w') :
    Tests honest operator fixtureName start (await act >>= next) Q E w := by
  unfold Tests at continues ⊢
  exact Process.ensures_lift isDue continues

/-- An expected answer, or a failure after any answer. -/
theorem tests_call {stage : SmokeStage} {endpoint : SmokeEndpoint} {status : Nat} {token : Option String}
    {body : Option Json} (isDue : Due operator fixtureName start w (.request endpoint token body))
    (fails : ∀ failure answer w', SmokeEnv honest w (.request endpoint token body) answer w' → E failure w') :
    Tests honest operator fixtureName start (call stage endpoint status token body)
      (fun value w' => SmokeEnv honest w (.request endpoint token body) (some ⟨status, value⟩) w') E w := by
  refine tests_await isDue fun answer w' leaves => tests_checked (fun value expected => ?_) fun failure _ =>
    fails failure answer w' leaves
  rw [← expectStatus_ok expected]
  exact leaves

theorem tests_recover {body : SmokeHandler α} {handler : SmokeFailure → SmokeHandler α}
    {F : SmokeFailure → SmokeWorld → Prop} (ensures : Tests honest operator fixtureName start body Q F w)
    (handles : ∀ failure w, F failure w → Tests honest operator fixtureName start (handler failure) Q E w) :
    Tests honest operator fixtureName start (Process.recover body handler) Q E w := by
  unfold Tests at ensures handles ⊢
  exact Process.ensures_recover ensures handles

end Rules

theorem SmokeEnv.reads {endpoint : SmokeEndpoint} {token : Option String} {body : Option Json}
    {answer : Option SmokeResponse} (leaves : SmokeEnv honest w (.request endpoint token body) answer w')
    (reads : endpoint.sets = none) : w' = w.after ⟨.request endpoint token body, answer⟩ := by
  cases leaves with
  | read => rfl
  | changed _ _ _ _ sets =>
      rw [reads] at sets
      cases sets
  | unchanged => rfl

theorem SmokeEnv.truthful {endpoint : SmokeEndpoint} {token : Option String} {body : Option Json}
    {answer : Option SmokeResponse} (leaves : SmokeEnv honest w (.request endpoint token body) answer w')
    (reads : endpoint.sets = none) (holds : honest) : Truthful w endpoint answer := by
  cases leaves with
  | read _ _ _ _ truthful => exact truthful holds
  | changed _ _ _ _ sets =>
      rw [reads] at sets
      cases sets
  | unchanged _ _ _ refused =>
      intro id companyId body text _ _ answered _
      exact absurd rfl (refused holds _ answered)

/-! ### Before the suspension -/

/-- No status has changed, and nobody has asked for a suspension. -/
structure Reading (initial : ObjectId → CompanyPlatformStatus) (w : SmokeWorld) : Prop where
  standing : w.standing = initial
  unasked : ∀ step ∈ w.log, asksSuspension step.1 = false

theorem Reading.after {step : Step SmokeAct SmokeAct.Res} (reading : Reading initial w)
    (unasked : asksSuspension step.1 = false) : Reading initial (w.after step) := by
  constructor
  · exact reading.standing
  · intro other mem
    rcases List.mem_cons.mp mem with rfl | earlier
    · exact unasked
    · exact reading.unasked other earlier

/-- What a part leaves that only reads. -/
def Quiet (initial : ObjectId → CompanyPlatformStatus) (_ : SmokeFailure) (w : SmokeWorld) : Prop := w.standing = initial

theorem tests_reading {stage : SmokeStage} {endpoint : SmokeEndpoint} {status : Nat} {token : Option String}
    {body : Option Json} (reading : Reading initial w) (reads : endpoint.sets = none)
    (isDue : Due operator fixtureName start w (.request endpoint token body)) :
    Tests honest operator fixtureName start (call stage endpoint status token body)
      (fun value w' => w' = w.after ⟨.request endpoint token body, some ⟨status, value⟩⟩ ∧ Reading initial w' ∧
        (honest → Truthful w endpoint (some ⟨status, value⟩))) (Quiet initial) w := by
  have unasked : asksSuspension (.request endpoint token body) = false := by
    cases endpoint with
    | suspend => cases reads
    | _ => rfl
  refine tests_mono (fun value w' leaves => ?_) (fun _ _ quiet => quiet)
    (tests_call isDue fun failure answer w' leaves => ?_)
  · have same := leaves.reads reads
    subst same
    exact ⟨rfl, reading.after unasked, leaves.truthful reads⟩
  · have same := leaves.reads reads
    subst same
    exact reading.standing

/-- Reading a part further. -/
theorem tests_read {stage : SmokeStage} {endpoint : SmokeEndpoint} {status : Nat} {token : Option String}
    {body : Option Json} {next : Option Json → SmokeHandler α} {Q : α → SmokeWorld → Prop}
    (reading : Reading initial w) (reads : endpoint.sets = none)
    (isDue : Due operator fixtureName start w (.request endpoint token body))
    (continues : ∀ value, Reading initial (w.after ⟨.request endpoint token body, some ⟨status, value⟩⟩) →
      (honest → Truthful w endpoint (some ⟨status, value⟩)) →
      Tests honest operator fixtureName start (next value) Q (Quiet initial)
        (w.after ⟨.request endpoint token body, some ⟨status, value⟩⟩)) :
    Tests honest operator fixtureName start (call stage endpoint status token body >>= next) Q (Quiet initial) w := by
  refine tests_bind (tests_reading reading reads isDue) fun value w' answered => ?_
  obtain ⟨rfl, still, truthful⟩ := answered
  exact continues value still truthful

theorem tests_activateSmokeCompany {link : String} (reading : Reading initial w) :
    Tests honest operator fixtureName start (activateSmokeCompany runtime link) (fun _ => Reading initial)
      (Quiet initial) w := by
  unfold activateSmokeCompany
  refine tests_check (fun token _ => ?_) fun _ _ => reading.standing
  exact tests_read reading rfl trivial fun _ activated _ => tests_pure activated

theorem tests_activateNormally (reading : Reading initial w) :
    Tests honest operator fixtureName start (activateNormally runtime) (fun _ => Reading initial) (Quiet initial) w := by
  unfold activateNormally
  refine tests_await trivial fun answer w' leaves => ?_
  cases leaves with
  | prompted =>
      refine tests_check (fun link _ => ?_) fun _ _ => reading.standing
      exact tests_activateSmokeCompany (reading.after rfl)

theorem tests_register {registration : SmokeRegistration} (reading : Reading initial w) :
    Tests honest operator fixtureName (some registration) (register runtime operator fixtureName registration)
      (fun _ => Reading initial) (Quiet initial) w := by
  unfold register
  exact tests_read reading rfl rfl fun _ registered _ => tests_activateNormally registered

theorem tests_resume (reading : Reading initial w) :
    Tests honest operator fixtureName start (resume runtime operator fixtureName) (fun _ => Reading initial)
      (Quiet initial) w := by
  unfold resume
  refine tests_read reading rfl trivial fun listing listed _ => ?_
  refine tests_check (fun companyId _ => ?_) fun _ _ => listed.standing
  refine tests_read listed rfl trivial fun detail shown _ => ?_
  refine tests_check (fun preliminary _ => ?_) fun _ _ => shown.standing
  refine tests_check (fun company _ => ?_) fun _ _ => shown.standing
  refine tests_check (fun _ _ => ?_) fun _ _ => shown.standing
  cases truthy (company.field "activatedAt") with
  | true => exact tests_pure shown
  | false => exact tests_bind (tests_activateNormally shown) fun _ _ activated => tests_pure activated

/-! ### Answers that pass -/

@[simp] theorem isText_iff {text : String} {value : Option Json} :
    isText text value = true ↔ value = some (.string text) := by
  rcases value with _ | value
  · simp [isText, strictEquals]
  · cases value <;> simp [isText, strictEquals]

theorem optionalRecord_eq_some {value : Option Json} {found : Json} (passed : optionalRecord value = some found) :
    value = some found := by
  unfold optionalRecord at passed
  split at passed
  · exact passed
  · cases passed

theorem record_ok {value : Option Json} {found : Json} (passed : record value = .ok found) : value = some found :=
  optionalRecord_eq_some (orFail_ok_iff.mp passed)

theorem textField_ok {value : Json} {name text : String} {failure : SmokeFailure}
    (passed : textField value name failure = .ok text) : value.field name = some (.string text) := by
  unfold textField at passed
  split at passed
  · rename_i found
    cases passed
    exact found
  · cases passed

/-- An untouched fixture is active. -/
theorem shownStatus_of_pristine {detail : Json} {id email : String} {activated : Bool}
    (pristine : pristineFixture detail fixtureName id email activated = true) :
    shownStatus (some detail) = some (.string "active") := by
  unfold pristineFixture at pristine
  split at pristine
  · rename_i company _ _ _ _ _ found _ _ _ _ _
    simp only [Bool.and_eq_true, isText_iff] at pristine
    have active := pristine.1.1.1.1.1.1.1.1.1.1.1.1.1.1.1.2
    simp only [shownStatus, Option.bind_some, optionalRecord_eq_some found, active]
  · cases pristine

theorem lower_isHexDigit {c : Char} (digit : isHexDigit c = true) :
    (isHexDigit c.toLower && c.toLower.toLower = c.toLower) = true := by
  have ascii : c.toNat < 103 := by
    simp only [isHexDigit, Bool.or_eq_true, Bool.and_eq_true, decide_eq_true_eq, Char.le_def, UInt32.le_iff_toNat_le]
      at digit
    change c.val.toNat < 103
    rcases digit with (⟨_, below⟩ | ⟨_, below⟩) | ⟨_, below⟩
    all_goals exact Nat.lt_of_le_of_lt below (by decide)
  have each : ∀ code < 103, isHexDigit (Char.ofNat code) = true →
      (isHexDigit (Char.ofNat code).toLower && (Char.ofNat code).toLower.toLower = (Char.ofNat code).toLower) = true := by
    decide
  rw [← Char.ofNat_toNat c] at digit ⊢
  exact each c.toNat ascii digit

theorem ofHex_of_isCompanyId {id : String} (valid : isCompanyId id = true) :
    ∃ companyId, ObjectId.ofHex? id = some companyId := by
  simp only [isCompanyId, Bool.and_eq_true, decide_eq_true_eq] at valid
  have digits : ((id.toList.map Char.toLower).length = 24 ∧
      (id.toList.map Char.toLower).all (fun c => isHexDigit c && c.toLower = c) = true) := by
    refine ⟨by rw [List.length_map, valid.1], List.all_eq_true.mpr fun c mem => ?_⟩
    obtain ⟨digit, there, rfl⟩ := List.mem_map.mp mem
    exact lower_isHexDigit (List.all_eq_true.mp valid.2 digit there)
  exact ⟨⟨_, digits⟩, dif_pos ⟨valid.2, digits⟩⟩

theorem statusText_injective {first second : CompanyPlatformStatus} (same : statusText first = statusText second) :
    first = second := by
  cases first <;> cases second
  case active.active | suspended.suspended => rfl
  case active.suspended | suspended.active => exact absurd same (by decide)

/-- Ready for the suspension: every status is what it was, the checks have passed, and on an honest server the company
is active. -/
structure Ready (honest : Prop) (operator : SmokeOperator) (fixtureName : String)
    (initial : ObjectId → CompanyPlatformStatus) (prepared : Prepared) (w : SmokeWorld) : Prop where
  standing : w.standing = initial
  cleared : Cleared operator fixtureName prepared.companyId w.log
  active : ∃ companyId, ObjectId.ofHex? prepared.companyId = some companyId ∧ (honest → initial companyId = .active)

theorem tests_startFixture (reading : Reading initial w) :
    Tests honest operator fixtureName start (startFixture runtime operator fixtureName start)
      (fun _ => Reading initial) (Quiet initial) w := by
  unfold startFixture
  cases start with
  | some registration => exact tests_bind (tests_register reading) fun _ _ registered => tests_pure registered
  | none => exact tests_bind (tests_resume reading) fun _ _ found => tests_pure found

theorem tests_prepare (reading : Reading initial w) :
    Tests honest operator fixtureName start (prepare runtime operator fixtureName start)
      (Ready honest operator fixtureName initial) (Quiet initial) w := by
  unfold prepare
  refine tests_read reading rfl trivial fun _ authenticated _ => ?_
  refine tests_bind (tests_startFixture authenticated) fun resumed w' started => ?_
  refine tests_read started rfl trivial fun login signedIn _ => ?_
  refine tests_check (fun login _ => ?_) fun _ _ => signedIn.standing
  refine tests_check (fun tenantToken _ => ?_) fun _ _ => signedIn.standing
  refine tests_read signedIn rfl trivial fun user known _ => ?_
  refine tests_check (fun user recorded => ?_) fun _ _ => known.standing
  refine tests_check (fun companyId owned => ?_) fun _ _ => known.standing
  refine tests_check (fun _ owner => ?_) fun _ _ => known.standing
  refine tests_check (fun _ _ => ?_) fun _ _ => known.standing
  refine tests_read known rfl trivial fun denial denied _ => ?_
  refine tests_read denied rfl trivial fun detail shown truthful => ?_
  refine tests_check (fun fixture found => ?_) fun _ _ => shown.standing
  refine tests_check (fun _ pristine => ?_) fun _ _ => shown.standing
  refine tests_check (fun baseline _ => ?_) fun _ _ => shown.standing
  have shownUser := record_ok recorded
  subst shownUser
  have shownDetail := record_ok found
  subst shownDetail
  simp only [require_ok_iff, Bool.and_eq_true] at owner pristine
  obtain ⟨id, named⟩ := ofHex_of_isCompanyId owner.1.1
  refine tests_pure ⟨shown.standing, ⟨shown.unasked, ?tenant, fixture, _, rfl, pristine⟩, id, named, fun holds => ?active⟩
  case tenant =>
    exact ⟨tenantToken, user, List.mem_cons_of_mem _ (List.mem_cons_of_mem _ List.mem_cons_self), textField_ok owned,
      owner.1.2, owner.2, denial, List.mem_cons_of_mem _ List.mem_cons_self⟩
  case active =>
    have active := truthful holds companyId id _ "active" rfl named rfl (shownStatus_of_pristine pristine)
    rw [denied.standing] at active
    exact (statusText_injective (show statusText .active = statusText (initial id) from active)).symm

/-! ### From the suspension on

Once the suspension was asked for, one company may have another status than before. Every part from here on ends in
one of two ways, the company is active again or the part fails with that state, and the recovery is what turns the
second into the first or into a failure of its own. -/

/-- Only this company's status may have changed, and its suspension was asked for. -/
structure Touched (initial : ObjectId → CompanyPlatformStatus) (id : String) (companyId : ObjectId) (w : SmokeWorld) :
    Prop where
  others : ∀ other, other ≠ companyId → w.standing other = initial other
  asked : ∃ step ∈ w.log, ∃ token body, step.1 = .request (.suspend id) token body

variable {id : String} {companyId : ObjectId}

theorem SmokeEnv.others {endpoint : SmokeEndpoint} {token : Option String} {body : Option Json}
    {answer : Option SmokeResponse} (leaves : SmokeEnv honest w (.request endpoint token body) answer w')
    (named : ObjectId.ofHex? id = some companyId) (own : ∀ other status, endpoint.sets = some (other, status) → other = id)
    (others : ∀ other, other ≠ companyId → w.standing other = initial other) :
    ∀ other, other ≠ companyId → w'.standing other = initial other := by
  cases leaves with
  | read => exact others
  | unchanged => exact others
  | changed _ _ _ _ sets found =>
      intro other differs
      have same := own _ _ sets
      subst same
      cases named.symm.trans found
      change Function.update _ _ _ _ = _
      rw [Function.update_of_ne differs]
      exact others other differs

theorem SmokeEnv.logs {act : SmokeAct} {answer : act.Res} (leaves : SmokeEnv honest w act answer w') :
    w'.log = ⟨act, answer⟩ :: w.log := by
  cases leaves <;> rfl

theorem Touched.step {endpoint : SmokeEndpoint} {token : Option String} {body : Option Json}
    {answer : Option SmokeResponse} (touched : Touched initial id companyId w)
    (leaves : SmokeEnv honest w (.request endpoint token body) answer w')
    (named : ObjectId.ofHex? id = some companyId)
    (own : ∀ other status, endpoint.sets = some (other, status) → other = id) : Touched initial id companyId w' := by
  obtain ⟨step, mem, asked⟩ := touched.asked
  exact ⟨leaves.others named own touched.others, step, leaves.logs ▸ List.mem_cons_of_mem _ mem, asked⟩

/-- A call after the suspension. -/
theorem tests_touching {stage : SmokeStage} {endpoint : SmokeEndpoint} {status : Nat} {token : Option String}
    {body : Option Json} {next : Option Json → SmokeHandler α} {Q : α → SmokeWorld → Prop}
    (touched : Touched initial id companyId w) (named : ObjectId.ofHex? id = some companyId)
    (own : ∀ other status, endpoint.sets = some (other, status) → other = id)
    (isDue : Due operator fixtureName start w (.request endpoint token body))
    (continues : ∀ value w', SmokeEnv honest w (.request endpoint token body) (some ⟨status, value⟩) w' →
      Touched initial id companyId w' →
      Tests honest operator fixtureName start (next value) Q (fun _ => Touched initial id companyId) w') :
    Tests honest operator fixtureName start (call stage endpoint status token body >>= next) Q
      (fun _ => Touched initial id companyId) w :=
  tests_bind (tests_call isDue fun _ _ _ leaves => touched.step leaves named own) fun value w' leaves =>
    continues value w' leaves (touched.step leaves named own)

/-- The status of the company, on an honest server. -/
def Stands (honest : Prop) (companyId : ObjectId) (status : CompanyPlatformStatus) (w : SmokeWorld) : Prop :=
  honest → w.standing companyId = status

/-- A detail that shows a status. -/
theorem SmokeEnv.stands {token : Option String} {body shown : Option Json} {status : CompanyPlatformStatus}
    (leaves : SmokeEnv honest w (.request (.company id) token body) (some ⟨200, shown⟩) w')
    (named : ObjectId.ofHex? id = some companyId) (shows : shownStatus shown = some (.string (statusText status))) :
    Stands honest companyId status w' := by
  intro holds
  have truthful := leaves.truthful rfl holds id companyId shown _ rfl named rfl shows
  have same := leaves.reads rfl
  subst same
  exact (statusText_injective truthful).symm

theorem tests_checkPreserved {prepared : Prepared} {status : CompanyPlatformStatus} {text : String}
    (touched : Touched initial prepared.companyId companyId w)
    (named : ObjectId.ofHex? prepared.companyId = some companyId) (means : text = statusText status) :
    Tests honest operator fixtureName start (checkPreserved operator prepared text)
      (fun _ w' => Touched initial prepared.companyId companyId w' ∧ Stands honest companyId status w')
      (fun _ => Touched initial prepared.companyId companyId) w := by
  unfold checkPreserved
  refine tests_touching touched named (fun _ _ sets => by cases sets) trivial fun shown w' leaves touched => ?_
  refine tests_check (fun detail found => ?_) fun _ _ => touched
  refine tests_check (fun company there => ?_) fun _ _ => touched
  refine tests_check (fun _ shows => ?_) fun _ _ => touched
  refine tests_check (fun state _ => ?_) fun _ _ => touched
  refine tests_checked (fun _ _ => ⟨touched, leaves.stands named ?_⟩) fun _ _ => touched
  rw [require_ok_iff, isText_iff] at shows
  simp only [shownStatus, record_ok found, record_ok there, shows, Option.bind_some, means]

/-- The audits of a company that has been suspended and reactivated once were shown. -/
def Audited (id : String) (w : SmokeWorld) : Prop :=
  ∃ token page, ⟨.request (.auditLogs id) token none, some ⟨200, page⟩⟩ ∈ w.log ∧ checkAudits id page = .ok ()

/-- The test has passed: the company is active again, and the records of the administration show both changes. -/
structure Passed (honest : Prop) (initial : ObjectId → CompanyPlatformStatus) (id : String) (companyId : ObjectId)
    (w : SmokeWorld) : Prop where
  touched : Touched initial id companyId w
  active : Stands honest companyId .active w
  audited : Audited id w

theorem tests_exercise {prepared : Prepared} (ready : Ready honest operator fixtureName initial prepared w)
    (named : ObjectId.ofHex? prepared.companyId = some companyId) :
    Tests honest operator fixtureName start (exercise operator prepared)
      (fun _ => Passed honest initial prepared.companyId companyId)
      (fun _ => Touched initial prepared.companyId companyId) w := by
  unfold exercise
  have begun {answer w'} (leaves : SmokeEnv honest w (.request (.suspend prepared.companyId) (some operator.adminToken)
      (some (.object [("reason", .string "operational_hold")]))) answer w') :
      Touched initial prepared.companyId companyId w' := by
    refine ⟨leaves.others named (fun _ _ sets => by cases sets; rfl) fun other _ => by rw [ready.standing], _,
      leaves.logs ▸ List.mem_cons_self, _, _, rfl⟩
  refine tests_bind (tests_call ready.cleared fun _ _ _ leaves => begun leaves) fun _ w₁ leaves => ?_
  have touched := begun leaves
  refine tests_touching touched named (fun _ _ sets => by cases sets) trivial fun _ w₂ _ touched => ?_
  refine tests_touching touched named (fun _ _ sets => by cases sets) trivial fun _ w₃ _ touched => ?_
  refine tests_bind (tests_checkPreserved touched named (rfl : _ = statusText .suspended)) fun _ w₄ preserved => ?_
  refine tests_touching preserved.1 named (fun _ _ sets => by cases sets) trivial fun _ w₅ _ touched => ?_
  refine tests_touching touched named (fun _ _ sets => by cases sets; rfl) touched.asked fun _ w₆ _ touched => ?_
  refine tests_touching touched named (fun _ _ sets => by cases sets) trivial fun _ w₇ _ touched => ?_
  refine tests_bind (tests_checkPreserved touched named (rfl : _ = statusText .active)) fun _ w₈ preserved => ?_
  refine tests_touching preserved.1 named (fun _ _ sets => by cases sets) trivial fun page w₉ leaves touched => ?_
  have same := leaves.reads rfl
  subst same
  refine tests_checked (fun _ audited => ?_) fun _ _ => touched
  exact ⟨touched, preserved.2, _, page, List.mem_cons_self, audited⟩

/-- The recovery has found or made the company active. -/
def Restored (honest : Prop) (initial : ObjectId → CompanyPlatformStatus) (id : String) (companyId : ObjectId)
    (w : SmokeWorld) : Prop :=
  Touched initial id companyId w ∧ Stands honest companyId .active w

/-- What the latest detail decides. -/
theorem inspectLatest_ok {latest : SmokeResponse} {restoration : Restoration}
    (inspected : (inspectLatest fixtureName latest).mapError (fun _ => SmokeFailure.recovery) = .ok restoration) :
    latest.status = 200 ∧ (restoration = .nothing → shownStatus latest.body = some (.string (statusText .active))) := by
  rw [mapError_ok_iff] at inspected
  simp only [inspectLatest, bind_ok_iff, require_ok_iff, Bool.and_eq_true, decide_eq_true_eq] at inspected
  obtain ⟨detail, found, company, there, _, ⟨status, _⟩, decided⟩ := inspected
  refine ⟨status, fun nothing => ?_⟩
  subst nothing
  split at decided
  · cases decided
  · obtain ⟨_, active, _⟩ := bind_ok_iff.mp decided
    rw [require_ok_iff, isText_iff] at active
    simp only [shownStatus, record_ok found, record_ok there, active, Option.bind_some, statusText]

/-- A confirmed reactivation has taken effect. -/
theorem SmokeEnv.reactivated {token : Option String} {body : Option Json} {response : SmokeResponse}
    (leaves : SmokeEnv honest w (.request (.reactivate id) token body) (some response) w')
    (named : ObjectId.ofHex? id = some companyId) (confirmed : response.status = 200) :
    Stands honest companyId .active w' := by
  intro holds
  cases leaves with
  | read _ _ _ reads => cases reads
  | unchanged _ _ _ refused => exact absurd confirmed (refused holds response rfl)
  | changed _ _ _ _ sets found =>
      cases sets
      cases named.symm.trans found
      exact Function.update_self ..

theorem tests_restore (touched : Touched initial id companyId w) (named : ObjectId.ofHex? id = some companyId) :
    Tests honest operator fixtureName start (restore operator fixtureName id)
      (fun _ => Restored honest initial id companyId) (fun failure _ => failure = .recovery) w := by
  unfold restore
  refine tests_await trivial fun answer w₁ leaves => ?_
  have still := touched.step leaves named fun _ _ sets => by cases sets
  refine tests_check (fun latest answered => ?_) fun failure failed => ?_
  · rw [orFail_ok_iff] at answered
    subst answered
    refine tests_check (fun restoration inspected => ?_) fun failure failed => ?_
    · obtain ⟨status, decides⟩ := inspectLatest_ok inspected
      cases restoration with
      | nothing =>
          cases latest
          cases status
          exact tests_pure ⟨still, leaves.stands named (decides rfl)⟩
      | reactivate =>
          refine tests_await still.asked fun answer w₂ leaves => ?_
          have restored := still.step leaves named fun _ _ sets => by cases sets; rfl
          refine tests_check (fun response answered => ?_) fun failure failed => ?_
          · rw [orFail_ok_iff] at answered
            subst answered
            refine tests_checked (fun _ confirmed => ⟨restored, leaves.reactivated named ?_⟩) fun failure failed => ?_
            · simpa using confirmed
            · by_contra differs
              exact require_ne_error (Ne.symm differs) failed
          · by_contra differs
            exact orFail_ne_error (Ne.symm differs) failed
    · cases inspection : inspectLatest fixtureName latest with
      | ok restoration =>
          rw [inspection] at failed
          cases failed
      | error early =>
          rw [inspection] at failed
          cases failed
          rfl
  · by_contra differs
    exact orFail_ne_error (Ne.symm differs) failed

/-! ### The whole test -/

/-- Every status is what it was. -/
def Unchanged (honest : Prop) (initial : ObjectId → CompanyPlatformStatus) (w : SmokeWorld) : Prop :=
  honest → w.standing = initial

theorem Touched.unchanged (touched : Touched initial id companyId w) (active : Stands honest companyId .active w)
    (before : honest → initial companyId = .active) : Unchanged honest initial w := by
  intro holds
  funext other
  by_cases same : other = companyId
  · rw [same, active holds, before holds]
  · exact touched.others other same

theorem tests_run (reading : Reading initial w) :
    Tests honest operator fixtureName start (runPlatformAdminSmokeTest runtime operator fixtureName start)
      (fun success w' => Unchanged honest initial w' ∧ Audited success.companyId w')
      (fun failure w' => failure ≠ .recovery → Unchanged honest initial w') w := by
  unfold runPlatformAdminSmokeTest
  refine tests_check (fun _ _ => ?_) fun _ _ _ _ => reading.standing
  refine tests_bind (tests_mono (fun _ _ ready => ready) (fun _ _ quiet _ _ => quiet) (tests_prepare reading))
    fun prepared w₁ ready => ?_
  obtain ⟨companyId, named, before⟩ := ready.active
  refine tests_bind (tests_recover (tests_exercise ready named) fun failure w₂ touched => ?_) fun _ w₃ passed => ?_
  · refine tests_bind (tests_mono (fun _ _ restored => restored) ?_ (tests_restore touched named))
      fun _ w₃ restored => tests_checked ?_ ?_
    · intro failure _ recovery unrecovered
      exact absurd recovery unrecovered
    · intro _ impossible
      cases impossible
    · intro _ _ _
      exact restored.1.unchanged restored.2 before
  · exact tests_pure ⟨passed.touched.unchanged passed.active before, passed.audited⟩

theorem course_logs {steps : List (Step SmokeAct SmokeAct.Res)} {process process' : Process SmokeAct SmokeAct.Res α}
    (course : process.Course (SmokeEnv honest) w steps process' w') : w'.log = steps.reverse ++ w.log := by
  induction course with
  | nil => rfl
  | cons leaves _ ih => rw [ih, leaves.logs, List.reverse_cons, List.append_assoc, List.singleton_append]

variable {steps : List (Step SmokeAct SmokeAct.Res)} {outcome : Except SmokeFailure SmokeSuccess}
variable {process : Process SmokeAct SmokeAct.Res (Except SmokeFailure SmokeSuccess)}

/-- On an honest server, whichever requests and answers are lost, every company ends with the platform status it had
before the test, unless the test reports that its recovery has failed. -/
theorem smoke_test_restores
    (course : (runPlatformAdminSmokeTest runtime operator fixtureName start).run.Course (SmokeEnv True)
      { standing := initial } steps (.done outcome) w')
    (recovered : outcome ≠ .error .recovery) : w'.standing = initial := by
  have tests : Tests True operator fixtureName start (runPlatformAdminSmokeTest runtime operator fixtureName start) _ _
    { standing := initial } := tests_run ⟨rfl, fun _ mem => by cases mem⟩
  unfold Tests at tests
  have ended := tests.course course
  cases outcome with
  | ok success => exact ended.1 trivial
  | error failure => exact ended (fun same => recovered (same ▸ rfl)) trivial

/-! A server with one company, on which the answer to a suspension is lost. -/

def smokeId : String := "aaaaaaaaaaaaaaaaaaaaaaaa"

def smokeName : String := "DataVault admin smoke"

def fixtureDetail : CompanyPlatformStatus → Json
  | status => .object
      [("company", .object
        [("id", .string smokeId), ("name", .string (smokeName ++ " 1")), ("activatedAt", .string "now"),
          ("platformStatus", .string (statusText status)),
          ("platformStatusReason", if status = .active then .null else .string "operational_hold")]),
        ("owner", .object [("email", .string "owner")]), ("subscription", .object [("planCode", .string "free")]),
        ("employees", .object [("accepted", .number 0), ("pendingInvitations", .number 0)]),
        ("currentlyStoredFiles", .object [("total", .number 0)]),
        ("billingEstimate", .object
          [("successfulUploads", .number 0), ("overageChargeCents", .number 0), ("totalAmountCents", .number 0)]),
        ("stripe", .null), ("integrityWarnings", .array [])]

def smokeOwner : Json :=
  .object [("companyId", .string smokeId), ("role", .string "company_owner"), ("email", .string "owner")]

/-- The answer, and the status that the request sets. -/
def respond (w : SmokeWorld) (token : Option String) :
    SmokeEndpoint → Option SmokeResponse × Option (ObjectId × CompanyPlatformStatus)
  | .dashboard => (some ⟨if token = some "admin" then 200 else 401, none⟩, none)
  | .companies _ =>
      (some ⟨200, some (.object [("items", .array [.object
        [("id", .string smokeId), ("name", .string (smokeName ++ " 1"))]])])⟩, none)
  | .signIn => (some ⟨201, some (.object [("accessToken", .string "tenant")])⟩, none)
  | .currentUser => (some ⟨200, some smokeOwner⟩, none)
  | .company id =>
      match ObjectId.ofHex? id with
      | some companyId => (some ⟨200, some (fixtureDetail (w.standing companyId))⟩, none)
      | none => (some ⟨404, none⟩, none)
  | .suspend id => (none, (ObjectId.ofHex? id).map fun companyId => (companyId, .suspended))
  | .reactivate id =>
      match ObjectId.ofHex? id with
      | some companyId => (some ⟨200, none⟩, some (companyId, .active))
      | none => (some ⟨404, none⟩, none)
  | .signUp | .verifyAccount | .auditLogs _ => (some ⟨404, none⟩, none)

def smokeServer (w : SmokeWorld) : (act : SmokeAct) → act.Res × SmokeWorld
  | .promptActivation => (none, w.after ⟨.promptActivation, none⟩)
  | .request endpoint token body =>
      let (answer, change) := respond w token endpoint
      let changed := match change with
        | some (companyId, status) => w.set companyId status
        | none => w
      (answer, changed.after ⟨.request endpoint token body, answer⟩)

theorem shownStatus_fixtureDetail (status : CompanyPlatformStatus) :
    shownStatus (some (fixtureDetail status)) = some (.string (statusText status)) := by
  rw [← isText_iff]
  cases status <;> decide +kernel

theorem smokeServer_permits (w : SmokeWorld) (act : SmokeAct) :
    SmokeEnv honest w act (smokeServer w act).1 (smokeServer w act).2 := by
  cases act with
  | promptActivation => exact .prompted w none
  | request endpoint token body =>
      cases endpoint with
      | company id =>
          cases found : ObjectId.ofHex? id with
          | none =>
              simp only [smokeServer, respond, found]
              refine .unchanged w token body fun _ response answered => ?_
              cases answered
              decide
          | some companyId =>
              simp only [smokeServer, respond, found]
              refine .read w token body (by rfl) fun _ other otherId shown text same named answered shows => ?_
              cases same
              cases found.symm.trans named
              cases answered
              rw [shownStatus_fixtureDetail] at shows
              cases shows
              rfl
      | suspend id =>
          cases found : ObjectId.ofHex? id with
          | none =>
              simp only [smokeServer, respond, found, Option.map_none]
              refine .unchanged w token body fun _ response answered => ?_
              cases answered
          | some companyId =>
              simp only [smokeServer, respond, found, Option.map_some]
              exact .changed w token body none (by rfl) found
      | reactivate id =>
          cases found : ObjectId.ofHex? id with
          | none =>
              simp only [smokeServer, respond, found]
              refine .unchanged w token body fun _ response answered => ?_
              cases answered
              decide
          | some companyId =>
              simp only [smokeServer, respond, found]
              exact .changed w token body _ (by rfl) found
      | _ => exact .read w token body (by rfl) fun _ _ _ _ _ same => by cases same

def smokeRuntime : SmokeRuntime := ⟨fun _ => true, fun _ => none, fun text => text⟩

def smokeOperator : SmokeOperator := ⟨"owner", "password", "admin"⟩

/-- The test of the fixture, for at most this many requests. -/
def smokePlay (requests : Nat) :=
  Process.serve smokeServer requests
    (runPlatformAdminSmokeTest smokeRuntime smokeOperator (smokeName ++ " 1") none).run { standing := fun _ => .active }

/-- The suspension takes effect, its answer is lost, and the recovery takes it back. -/
theorem smoke_test_restores_lost :
    ∃ steps w', (runPlatformAdminSmokeTest smokeRuntime smokeOperator (smokeName ++ " 1") none).run.Course
        (SmokeEnv True) { standing := fun _ => .active } steps (.done (.error (.assertion .suspend none))) w' ∧
      steps.any (fun step => asksSuspension step.1) = true ∧ w'.standing = fun _ => .active := by
  have course := Process.course_of_serve (@smokeServer_permits True) 30
    (runPlatformAdminSmokeTest smokeRuntime smokeOperator (smokeName ++ " 1") none).run { standing := fun _ => .active }
  have ended : (smokePlay 30).1.returned = some (.error (.assertion .suspend none)) := by decide +kernel
  rw [Process.returned_eq_some] at ended
  change Process.Course _ _ _ _ (smokePlay 30).1 _ at course
  rw [ended] at course
  exact ⟨_, _, course, by decide +kernel, smoke_test_restores course (by decide)⟩

/-- Whatever a server answers, the test asks for a suspension only once, and only after the last answer has shown the
company to the administration as the active, untouched fixture of that name and owner, and after the tenant's token has
shown that owner and was refused by the administration. It reactivates only what it has asked to suspend, registers
only in its first mode, and passes only on the two audit records. -/
theorem smoke_test_suspends_fixture
    (course : (runPlatformAdminSmokeTest runtime operator fixtureName start).run.Course (SmokeEnv False)
      { standing := initial } steps process w') :
    (∀ id token body, process.awaited = some (.request (.suspend id) token body) →
      Cleared operator fixtureName id steps.reverse) ∧
    (∀ id token body, process.awaited = some (.request (.reactivate id) token body) →
      ∃ step ∈ steps, ∃ token body, step.1 = .request (.suspend id) token body) ∧
    (∀ token body, process.awaited = some (.request .signUp token body) → start.isSome = true) ∧
    ∀ success, process = .done (.ok success) → ∃ token page,
      ⟨.request (.auditLogs success.companyId) token none, some ⟨200, page⟩⟩ ∈ steps ∧
        checkAudits success.companyId page = .ok () := by
  have tests : Tests False operator fixtureName start (runPlatformAdminSmokeTest runtime operator fixtureName start) _ _
    { standing := initial } := tests_run ⟨rfl, fun _ mem => by cases mem⟩
  unfold Tests at tests
  have ensures := tests.course course
  have logs : w'.log = steps.reverse := by rw [course_logs course, List.append_nil]
  refine ⟨fun id token body awaits => ?_, fun id token body awaits => ?_, fun token body awaits => ?_,
    fun success passed => ?_⟩
  · exact logs ▸ ensures.isDue awaits
  · obtain ⟨step, mem, asked⟩ := ensures.isDue awaits
    exact ⟨step, List.mem_reverse.mp (logs ▸ mem), asked⟩
  · exact ensures.isDue awaits
  · subst passed
    obtain ⟨token, page, mem, audited⟩ := ensures.2
    exact ⟨token, page, List.mem_reverse.mp (logs ▸ mem), audited⟩

/-- Before the suspension of that fixture. -/
theorem smoke_test_suspends_fixture_cleared :
    ∃ (id : String) (steps : List (Step SmokeAct SmokeAct.Res)), steps.length = 7 ∧
      Cleared smokeOperator (smokeName ++ " 1") id steps.reverse := by
  have course := Process.course_of_serve (@smokeServer_permits False) 7
    (runPlatformAdminSmokeTest smokeRuntime smokeOperator (smokeName ++ " 1") none).run { standing := fun _ => .active }
  have asks : (smokePlay 7).1.awaited.any asksSuspension = true := by decide +kernel
  have length : (smokePlay 7).2.1.length = 7 := by decide +kernel
  obtain ⟨act, awaits, asked⟩ := (Option.any_eq_true _ _).mp asks
  unfold asksSuspension at asked
  split at asked
  · exact ⟨_, _, length, (smoke_test_suspends_fixture course).1 _ _ _ awaits⟩
  · cases asked

end DataVault.Maintenance.SmokeTest
