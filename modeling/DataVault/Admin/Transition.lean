/-
Module: DataVault.Admin.Transition
Layer: Proof
Purpose: What one step does to the access requests, their audit records, the issued links and the administrators. It
  takes a request at most one transition further and writes the record of that transition with it.
Imports: DataVault.Admin.AccessRequests, DataVault.Interleaving.Guided
Trusted boundary: none
Main exports: story, trail, Change, Move, move_exec, move_drift, Becomes, Move.origin
-/
import DataVault.Admin.AccessRequests
import DataVault.Interleaving.Guided

namespace DataVault.Admin

open DataVault.Auth (AuthFailure Bcrypt Fate)
open DataVault.Control DataVault.Interleaving DataVault.Store

variable {hashToken : Nat → Nat} {bcrypt : Bcrypt}

/-! ### The story of a request -/

/-- The transitions that lead to a state, as they are recorded. -/
def story : AccessStatus → List AuditAction
  | .awaitingVerification | .expired => [.accessRequested]
  | .pendingReview => [.accessRequested, .accessVerified]
  | .approved => [.accessRequested, .accessVerified, .accessApproved]
  | .rejected => [.accessRequested, .accessVerified, .accessRejected]
  | .activated => [.accessRequested, .accessVerified, .accessApproved, .accessActivated]

/-- The record belongs to the access request. -/
def AdminAudit.concerns (requestId : Nat) (row : AdminAudit) : Bool :=
  row.targetType = some .adminAccessRequest && row.targetId = some requestId

/-- What is recorded about a request, in order. -/
def trail (requestId : Nat) (audits : List AdminAudit) : List AuditAction :=
  (audits.filter (·.concerns requestId)).map (·.action)

theorem trail_append {requestId : Nat} {audits rows : List AdminAudit} :
    trail requestId (audits ++ rows) = trail requestId audits ++ trail requestId rows := by
  simp [trail]

theorem trail_own {action : AuditAction} {actorId : Option Nat} {requestId : Nat} :
    trail requestId [accessAudit action actorId requestId] = [action] := by
  simp [trail, AdminAudit.concerns, accessAudit]

theorem trail_other {action : AuditAction} {actorId : Option Nat} {requestId other : Nat} (differs : other ≠ requestId) :
    trail requestId [accessAudit action actorId other] = [] := by
  simp [trail, AdminAudit.concerns, accessAudit, differs]

/-! ### What one step does -/

variable {request changed : AdminAccessRequest} {w w' : AdminWorld} {act : Option AdminAct}

/-- The actions that expire requests. -/
def Expires : Option AdminAct → Prop
  | some (.expireStale ..) | some (.expireRequest _) => True
  | _ => False

/-- What an action makes of one request, with the records, the links and the administrators it adds. -/
inductive Change (hashToken : Nat → Nat) (nextId : Nat) (act : Option AdminAct) (request : AdminAccessRequest) :
    AdminAccessRequest → List AdminAudit → List IssuedLink → List PlatformAdmin → Prop where
  | expired (asked : Expires act) (before : request.status = .awaitingVerification) :
      Change hashToken nextId act request request.expire [] [] []
  | verified (tokenHash : Nat) (now : Int) (asked : act = some (.verify tokenHash))
      (before : request.status = .awaitingVerification) (token : request.verificationTokenHash = some tokenHash) :
      Change hashToken nextId act request (request.verify now) [accessAudit .accessVerified none request.id] [] []
  | approved (actorId token : Nat) (now : Int) (asked : act = some (.decide actorId request.id true))
      (before : request.status = .pendingReview) :
      Change hashToken nextId act request (request.approve actorId (hashToken token) now)
        [accessAudit .accessApproved (some actorId) request.id] [⟨.setup, request.id, token⟩] []
  | rejected (actorId : Nat) (now : Int) (asked : act = some (.decide actorId request.id false))
      (before : request.status = .pendingReview) :
      Change hashToken nextId act request (request.reject actorId now)
        [accessAudit .accessRejected (some actorId) request.id] [] []
  | renewed (token : Nat) (now : Int) (asked : act = some (.resendSetup request.id))
      (before : request.status = .approved) :
      Change hashToken nextId act request (request.renewSetup (hashToken token) now) []
        [⟨.setup, request.id, token⟩] []
  | activated (tokenHash : Nat) (now : Int) (password : String) (asked : act = some (.setup tokenHash password))
      (before : request.status = .approved) (token : request.setupTokenHash = some tokenHash) :
      Change hashToken nextId act request (request.activate now)
        [accessAudit .accessActivated (some nextId) request.id] []
        [{ id := nextId, email := request.email, fullName := request.fullName, password := password }]

/-- The administrators by id and email, which never change. -/
def AdminWorld.people (w : AdminWorld) : List (Nat × String) := w.admins.map fun admin => (admin.id, admin.email)

/-- The record that the bootstrap command leaves of an administrator. -/
def bootstrapAudit (adminId : Nat) : AdminAudit :=
  ⟨.bootstrapCreated, some adminId, some adminId, some .platformAdmin⟩

/-- What a step does to the collections. Every invariant of the access requests is derived from this, by its cases, and
none looks at the handlers again. -/
inductive Move (hashToken : Nat → Nat) (w w' : AdminWorld) (act : Option AdminAct) : Prop where
  /-- Nothing, or something that concerns no access request. -/
  | foreign (rows : List AdminAudit)
      (unrelated : ∀ row ∈ rows, row.targetType ≠ some .adminAccessRequest ∧ row.action ≠ .accessActivated)
      (requests : w'.requests = w.requests) (audits : w'.audits = w.audits ++ rows) (links : w'.links = w.links)
      (admins : w'.people = w.people ∧ w'.nextId = w.nextId ∨
        ∃ email, w'.people = (w.nextId, email) :: w.people ∧ w'.nextId = w.nextId + 1 ∧
          bootstrapAudit w.nextId ∈ rows)
  /-- Requests expire whose links were never used. -/
  | lapsed (select : AdminAccessRequest → Bool) (asked : Expires act)
      (before : ∀ request, select request → request.status = .awaitingVerification)
      (requests : w'.requests = updateMany select AdminAccessRequest.expire w.requests) (audits : w'.audits = w.audits)
      (links : w'.links = w.links) (admins : w'.admins = w.admins) (ids : w'.nextId = w.nextId)
  | requested (new : AdminAccessRequest) (token : Nat)
      (asked : ∃ email fullName reason now, act = some (.createRequest email fullName reason now))
      (named : new.id = w.nextId)
      (status : new.status = .awaitingVerification) (verification : new.verificationTokenHash = some (hashToken token))
      (setup : new.setupTokenHash = none) (fresh : token ∉ w.links.map (·.token))
      (requests : w'.requests = new :: w.requests)
      (unique : countDocuments w'.requests (·.openFor new.email) ≤ 1)
      (audits : w'.audits = w.audits ++ [accessAudit .accessRequested none new.id])
      (links : w'.links = ⟨.verification, new.id, token⟩ :: w.links) (admins : w'.admins = w.admins)
      (ids : w'.nextId = w.nextId + 1)
  | changed (request changed : AdminAccessRequest) (rows : List AdminAudit) (issued : List IssuedLink)
      (created : List PlatformAdmin) (change : Change hashToken w.nextId act request changed rows issued created)
      (mem : request ∈ w.requests)
      (fresh : ∀ link ∈ issued, link.token ∉ w.links.map (·.token))
      (requests : w'.requests = w.requests.map fun other => if other.id = request.id then changed else other)
      (audits : w'.audits = w.audits ++ rows) (links : w'.links = issued ++ w.links)
      (admins : w'.admins = created ++ w.admins) (ids : w'.nextId = w.nextId + created.length)

theorem Move.idle (requests : w'.requests = w.requests) (audits : w'.audits = w.audits) (links : w'.links = w.links)
    (admins : w'.admins = w.admins) (ids : w'.nextId = w.nextId) : Move hashToken w w' act :=
  .foreign [] (by simp) requests (by simp [audits]) links (.inl ⟨by rw [AdminWorld.people, admins, AdminWorld.people], ids⟩)

theorem Move.same : Move hashToken w w act := .idle rfl rfl rfl rfl rfl

/-- Ids are distinct. -/
def DistinctIds (w : AdminWorld) : Prop := (w.requests.map (·.id)).Nodup

variable {token actorId id tokenHash : Nat} {email fullName password : String} {reason : Option String} {now : Int}

theorem move_expireStale : Move hashToken w (w.expireStale email now) (some (.expireStale email now)) := by
  refine .lapsed (·.stale email now) trivial (fun request stale => ?_) rfl rfl rfl rfl rfl
  simp only [AdminAccessRequest.stale, Bool.and_eq_true, decide_eq_true_eq] at stale
  exact stale.1.2

theorem move_createRequest {answer : Nat × Nat} (fresh : token ∉ w.links.map (·.token))
    (committed : w.createRequest hashToken token email fullName reason now = .ok (answer, w')) :
    Move hashToken w w' (some (.createRequest email fullName reason now)) := by
  obtain ⟨_, unique, committed⟩ := bind_ok_iff.mp committed
  cases committed
  exact .requested _ token ⟨_, _, _, _, rfl⟩ rfl rfl rfl rfl fresh rfl (of_decide_eq_true (require_ok_iff.mp unique)) rfl rfl rfl rfl

theorem move_expireRequest (distinct : DistinctIds w) :
    Move hashToken w (w.expireRequest id) (some (.expireRequest id)) := by
  unfold AdminWorld.expireRequest
  split
  · exact .same
  · rename_i found
    obtain ⟨request, mem, matched, rfl, rfl⟩ := findOneAndUpdate_map distinct found
    simp only [AdminAccessRequest.inStatus, Bool.and_eq_true, decide_eq_true_eq] at matched
    exact .changed request _ [] [] [] (.expired trivial matched.2) mem (by simp) rfl (by simp) rfl rfl rfl

theorem move_verify {answer : AdminAccessRequest} (distinct : DistinctIds w)
    (committed : w.verify tokenHash now = .ok (answer, w')) : Move hashToken w w' (some (.verify tokenHash)) := by
  obtain ⟨⟨updated, requests⟩, found, committed⟩ := bind_ok_iff.mp committed
  cases committed
  obtain ⟨request, mem, matched, rfl, rfl⟩ := findOneAndUpdate_map distinct (orFail_ok_iff.mp found)
  simp only [AdminAccessRequest.verifiable, Bool.and_eq_true, decide_eq_true_eq] at matched
  exact .changed request _ _ _ _ (.verified tokenHash now rfl matched.1.1 matched.1.2) mem (by simp) rfl rfl rfl rfl rfl

theorem move_approve {answer : AdminAccessRequest × Option Nat} (distinct : DistinctIds w)
    (fresh : token ∉ w.links.map (·.token)) (committed : w.approve hashToken token actorId id now = .ok (answer, w')) :
    Move hashToken w w' (some (.decide actorId id true)) := by
  obtain ⟨⟨updated, requests⟩, found, committed⟩ := bind_ok_iff.mp committed
  cases committed
  obtain ⟨request, mem, matched, rfl, rfl⟩ := findOneAndUpdate_map distinct (orFail_ok_iff.mp found)
  simp only [AdminAccessRequest.inStatus, Bool.and_eq_true, decide_eq_true_eq] at matched
  obtain ⟨rfl, before⟩ := matched
  exact .changed request _ _ _ _ (.approved actorId token now rfl before) mem (by simpa using fresh) rfl rfl rfl rfl rfl

theorem move_reject {answer : AdminAccessRequest × Option Nat} (distinct : DistinctIds w)
    (committed : w.reject actorId id now = .ok (answer, w')) :
    Move hashToken w w' (some (.decide actorId id false)) := by
  obtain ⟨⟨updated, requests⟩, found, committed⟩ := bind_ok_iff.mp committed
  cases committed
  obtain ⟨request, mem, matched, rfl, rfl⟩ := findOneAndUpdate_map distinct (orFail_ok_iff.mp found)
  simp only [AdminAccessRequest.inStatus, Bool.and_eq_true, decide_eq_true_eq] at matched
  obtain ⟨rfl, before⟩ := matched
  exact .changed request _ _ _ _ (.rejected actorId now rfl before) mem (by simp) rfl rfl rfl rfl rfl

theorem move_resendSetup {answer : Option (String × Nat)} (distinct : DistinctIds w)
    (fresh : token ∉ w.links.map (·.token)) (committed : w.resendSetup hashToken token id now = .ok (answer, w')) :
    Move hashToken w w' (some (.resendSetup id)) := by
  unfold AdminWorld.resendSetup at committed
  split at committed
  · cases committed
    exact .same
  · rename_i found
    cases committed
    obtain ⟨request, mem, matched, rfl, rfl⟩ := findOneAndUpdate_map distinct found
    simp only [AdminAccessRequest.inStatus, Bool.and_eq_true, decide_eq_true_eq] at matched
    obtain ⟨rfl, before⟩ := matched
    exact .changed request _ _ _ _ (.renewed token now rfl before) mem (by simpa using fresh) rfl (by simp) rfl rfl rfl

theorem move_setup {answer : Unit} (distinct : DistinctIds w)
    (committed : w.setup tokenHash password now = .ok (answer, w')) :
    Move hashToken w w' (some (.setup tokenHash password)) := by
  obtain ⟨⟨updated, requests⟩, found, committed⟩ := bind_ok_iff.mp committed
  obtain ⟨_, _, committed⟩ := bind_ok_iff.mp committed
  cases committed
  obtain ⟨request, mem, matched, rfl, rfl⟩ := findOneAndUpdate_map distinct (orFail_ok_iff.mp found)
  simp only [AdminAccessRequest.activatable, Bool.and_eq_true, decide_eq_true_eq] at matched
  exact .changed request _ _ _ _ (.activated tokenHash now password rfl matched.1.1 matched.1.2) mem (by simp) rfl rfl
    rfl rfl rfl

/-- A transaction moves the collections as its committed work does, or not at all. -/
theorem move_transact {α : Type} {choice : AdminChoice} {work : Except AuthFailure (α × AdminWorld)}
    {answer : Except AuthFailure α} (done : transact choice w work = (answer, w'))
    (moves : ∀ value after, work = .ok (value, after) → Move hashToken w after act) :
    Move hashToken w w' act := by
  unfold transact at done
  split at done
  · cases done
    exact .same
  · rename_i value after
    have moved := moves value after rfl
    cases fate : choice.fate <;> rw [fate] at done <;> cases done
    · exact moved
    · exact moved
    · exact .same

theorem not_repeats_iff : w.repeats token = false ↔ token ∉ w.links.map (·.token) := by
  simp [AdminWorld.repeats, List.any_eq_false]

/-- Every action moves the collections. -/
theorem move_exec {run : Nat} {choice : AdminChoice} {act : AdminAct} {answer : act.Res} (distinct : DistinctIds w)
    (executed : (adminMachine hashToken bcrypt).exec run choice act w = some (answer, w')) :
    Move hashToken w w' (some act) := by
  cases act with
  | now | hash | adminExists | openRequestExists | findActiveAdmins =>
      cases executed
      exact .same
  | expireStale email now =>
      refine move_transact (Option.some.inj executed) fun value after committed => ?_
      cases committed
      exact move_expireStale
  | expireRequest id =>
      refine move_transact (Option.some.inj executed) fun value after committed => ?_
      cases committed
      exact move_expireRequest distinct
  | createRequest email fullName reason now =>
      simp only [adminMachine, adminExec] at executed
      split at executed
      · cases executed
      · rename_i fresh
        exact move_transact (Option.some.inj executed) fun value after committed =>
          move_createRequest (not_repeats_iff.mp (by simpa using fresh)) committed
  | verify tokenHash =>
      exact move_transact (Option.some.inj executed) fun value after committed => move_verify distinct committed
  | decide actorId id approving =>
      simp only [adminMachine, adminExec] at executed
      cases approving with
      | true =>
          rw [if_pos rfl] at executed
          split at executed
          · cases executed
          · rename_i fresh
            exact move_transact (Option.some.inj executed) fun value after committed =>
              move_approve distinct (not_repeats_iff.mp (by simpa using fresh)) committed
      | false =>
          exact move_transact (Option.some.inj executed) fun value after committed => move_reject distinct committed
  | resendSetup id =>
      simp only [adminMachine, adminExec] at executed
      split at executed
      · cases executed
      · rename_i fresh
        exact move_transact (Option.some.inj executed) fun value after committed =>
          move_resendSetup distinct (not_repeats_iff.mp (by simpa using fresh)) committed
  | setup tokenHash password =>
      exact move_transact (Option.some.inj executed) fun value after committed => move_setup distinct committed
  | send recipients mail =>
      simp only [adminMachine, adminExec] at executed
      cases fate : choice.fate <;> rw [fate] at executed <;> cases executed
      · exact .idle rfl rfl rfl rfl rfl
      · exact .idle rfl rfl rfl rfl rfl
      · exact .same

/-- So does everything that happens beside the requests. -/
theorem move_drift {drift : AdminDrift} (happened : (adminMachine hashToken bcrypt).drift drift w = some w') :
    Move hashToken w w' none := by
  cases drift with
  | tick elapsed =>
      cases happened
      exact .idle rfl rfl rfl rfl rfl
  | bootstrap email fullName password =>
      simp only [adminMachine, adminDrift] at happened
      split at happened
      · cases happened
      · cases happened
        exact .foreign [_] (by simp) rfl rfl rfl (.inr ⟨email, rfl, rfl, by simp [bootstrapAudit]⟩)
  | setActive id isActive =>
      cases happened
      refine .foreign [] (by simp) rfl (by simp) rfl (.inl ⟨?_, rfl⟩)
      simp only [AdminWorld.people, updateMany, List.map_map]
      refine List.map_congr_left fun admin _ => ?_
      simp only [Function.comp]
      split <;> rfl
  | audit action actorId targetId =>
      cases happened
      exact .foreign [_] (by simp) rfl rfl rfl (.inl ⟨rfl, rfl⟩)

/-! ### Where a request comes from -/

variable {rows : List AdminAudit} {issued : List IssuedLink} {created : List PlatformAdmin} {nextId : Nat}

theorem Change.id_eq (change : Change hashToken nextId act request changed rows issued created) :
    changed.id = request.id := by
  cases change <;> rfl

theorem Change.email_eq (change : Change hashToken nextId act request changed rows issued created) :
    changed.email = request.email := by
  cases change <;> rfl

/-- The records of a change continue the story of the request. -/
theorem Change.story_eq (change : Change hashToken nextId act request changed rows issued created) :
    story changed.status = story request.status ++ trail request.id rows := by
  cases change with
  | expired _ before => simp [AdminAccessRequest.expire, before, story, trail]
  | verified _ _ _ before => simp [AdminAccessRequest.verify, before, story, trail_own]
  | approved _ _ _ _ before => simp [AdminAccessRequest.approve, before, story, trail_own]
  | rejected _ _ _ before => simp [AdminAccessRequest.reject, before, story, trail_own]
  | renewed _ _ _ before => simp [AdminAccessRequest.renewSetup, before, story, trail]
  | activated _ _ _ _ before => simp [AdminAccessRequest.activate, before, story, trail_own]

/-- They belong to no other request. -/
theorem Change.trail_other (change : Change hashToken nextId act request changed rows issued created) {id : Nat}
    (differs : request.id ≠ id) : trail id rows = [] := by
  cases change with
  | expired | renewed => rfl
  | _ => exact Admin.trail_other differs

/-- No change opens a request again, and a final state is left by none. -/
theorem Change.was_open (change : Change hashToken nextId act request changed rows issued created) :
    request.status.isOpen = true := by
  cases change with
  | expired _ before | verified _ _ _ before | approved _ _ _ _ before | rejected _ _ _ before
  | renewed _ _ _ before | activated _ _ _ _ before => simp [AccessStatus.isOpen, before]

/-- What a step makes of one request: it stays, with nothing recorded about it, or takes one transition with the
records, links and administrators that belong to the transition. -/
inductive Becomes (hashToken : Nat → Nat) (w w' : AdminWorld) (act : Option AdminAct) (request : AdminAccessRequest) :
    AdminAccessRequest → Prop where
  | kept (unrecorded : trail request.id w'.audits = trail request.id w.audits) :
      Becomes hashToken w w' act request request
  | changed (changed : AdminAccessRequest) (rows : List AdminAudit) (issued : List IssuedLink)
      (created : List PlatformAdmin) (change : Change hashToken w.nextId act request changed rows issued created)
      (audits : w'.audits = w.audits ++ rows) (links : w'.links = issued ++ w.links)
      (admins : w'.admins = created ++ w.admins) : Becomes hashToken w w' act request changed

theorem Becomes.id_eq (becomes : Becomes hashToken w w' act request changed) : changed.id = request.id := by
  cases becomes with
  | kept => rfl
  | changed _ _ _ _ change => exact change.id_eq

theorem Becomes.email_eq (becomes : Becomes hashToken w w' act request changed) : changed.email = request.email := by
  cases becomes with
  | kept => rfl
  | changed _ _ _ _ change => exact change.email_eq

/-- A request that has just been made. -/
structure Requested (hashToken : Nat → Nat) (w w' : AdminWorld) (new : AdminAccessRequest) : Prop where
  named : new.id = w.nextId
  ids : w'.nextId = w.nextId + 1
  status : new.status = .awaitingVerification
  verification : ∃ token, new.verificationTokenHash = some (hashToken token) ∧
    ⟨.verification, new.id, token⟩ ∈ w'.links
  setup : new.setupTokenHash = none
  audits : w'.audits = w.audits ++ [accessAudit .accessRequested none new.id]
  unique : countDocuments w'.requests (·.openFor new.email) ≤ 1

/-- Every request of the next state is one of the present state, one step further, or a new one; and none is lost. -/
theorem Move.origin (move : Move hashToken w w' act) (distinct : DistinctIds w) (allocated : ∀ request ∈ w.requests, request.id < w.nextId) :
    (∀ changed ∈ w'.requests, (∃ request ∈ w.requests, Becomes hashToken w w' act request changed) ∨
      Requested hashToken w w' changed) ∧
    ∀ request ∈ w.requests, ∃ changed ∈ w'.requests, Becomes hashToken w w' act request changed := by
  cases move with
  | foreign rows unrelated requests audits =>
      have unrecorded : ∀ id, trail id w'.audits = trail id w.audits := by
        intro id
        have none : trail id rows = [] := by
          simp only [trail, List.map_eq_nil_iff, List.filter_eq_nil_iff]
          intro row mem
          simp [AdminAudit.concerns, (unrelated row mem).1]
        rw [audits, trail_append, none, List.append_nil]
      rw [requests]
      exact ⟨fun request mem => .inl ⟨request, mem, .kept (unrecorded _)⟩,
        fun request mem => ⟨request, mem, .kept (unrecorded _)⟩⟩
  | lapsed select asked before requests audits links admins =>
      have becomes : ∀ request, Becomes hashToken w w' act request
          (if select request then request.expire else request) := by
        intro request
        split
        · rename_i selected
          exact .changed _ [] [] [] (.expired asked (before request selected)) (by simp [audits]) (by simp [links])
            (by simp [admins])
        · exact .kept (by rw [audits])
      rw [requests]
      constructor
      · intro changed mem
        obtain ⟨request, requestMem, rfl⟩ := List.mem_map.mp mem
        exact .inl ⟨request, requestMem, becomes request⟩
      · exact fun request mem => ⟨_, List.mem_map.mpr ⟨request, mem, rfl⟩, becomes request⟩
  | requested new token _ named status verification setup _ requests unique audits links _ ids =>
      have kept : ∀ request ∈ w.requests, Becomes hashToken w w' act request request := by
        intro request mem
        have earlier := allocated request mem
        exact .kept (by rw [audits, trail_append, Admin.trail_other (by omega), List.append_nil])
      constructor
      · intro changed mem
        rw [requests] at mem
        rcases List.mem_cons.mp mem with rfl | mem
        · exact .inr ⟨named, ids, status, ⟨token, verification, by simp [links]⟩, setup, audits, unique⟩
        · exact .inl ⟨changed, mem, kept changed mem⟩
      · exact fun request mem => ⟨request, by simp [requests, mem], kept request mem⟩
  | changed target changed rows issued created change mem _ requests audits links admins =>
      have becomes : ∀ request ∈ w.requests, Becomes hashToken w w' act request
          (if request.id = target.id then changed else request) := by
        intro request requestMem
        split
        · rename_i same
          obtain rfl := List.inj_on_of_nodup_map distinct requestMem mem same
          exact .changed _ rows issued created change audits links admins
        · rename_i differs
          exact .kept (by rw [audits, trail_append, change.trail_other (Ne.symm differs), List.append_nil])
      rw [requests]
      constructor
      · intro other otherMem
        obtain ⟨request, requestMem, rfl⟩ := List.mem_map.mp otherMem
        exact .inl ⟨request, requestMem, becomes request requestMem⟩
      · exact fun request requestMem => ⟨_, List.mem_map.mpr ⟨request, requestMem, rfl⟩, becomes request requestMem⟩

end DataVault.Admin
