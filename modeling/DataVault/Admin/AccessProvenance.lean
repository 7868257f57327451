/-
Module: DataVault.Admin.AccessProvenance
Layer: Proof
Purpose: Where platform administrators come from, over all interleavings of the operations on access requests: an
  administrator that was not bootstrapped has exactly one activation in the records, at the end of the story of a
  verified and approved request, and every token works at most once.
Imports: DataVault.Admin.Outbox
Trusted boundary: none
Main exports: Transition, Uses, Dead, AccessLaw, access_provenance
-/
import DataVault.Admin.Outbox

namespace DataVault.Admin

open DataVault.Auth (AuthFailure Bcrypt Fate)
open DataVault.Control DataVault.Interleaving DataVault.Store

variable {hashToken : Nat → Nat} {bcrypt : Bcrypt}
variable {request changed : AdminAccessRequest} {w w' : AdminWorld} {act : Option AdminAct}
variable {token id : Nat}
variable {s s' : AdminSystem} {event : AdminEvent} {events : List AdminEvent}

/-! ### Transitions and tokens

A token works once because a digest that is taken leaves the collection and no later step can store it again: new
digests belong to new tokens, and the digest has no collisions. -/

/-- The transition that a step takes a request through, with what it takes and what it leaves: the record, and for an
activation the administrator. -/
inductive Transition (hashToken : Nat → Nat) (s s' : AdminSystem) (event : AdminEvent)
    (request changed : AdminAccessRequest) : Prop where
  | expired (before : request.status = .awaitingVerification) (after : changed.status = .expired)
  | verified (token : Nat) (asked : Performs (.verify (hashToken token)) s event)
      (issued : ⟨.verification, request.id, token⟩ ∈ s.world.links)
      (before : request.status = .awaitingVerification) (after : changed.status = .pendingReview)
      (audits : s'.world.audits = s.world.audits ++ [accessAudit .accessVerified none request.id])
  | approved (actorId : Nat) (asked : Performs (.decide actorId request.id true) s event)
      (before : request.status = .pendingReview) (after : changed.status = .approved)
      (reviewer : changed.reviewedBy = some actorId)
      (audits : s'.world.audits = s.world.audits ++ [accessAudit .accessApproved (some actorId) request.id])
  | rejected (actorId : Nat) (asked : Performs (.decide actorId request.id false) s event)
      (before : request.status = .pendingReview) (after : changed.status = .rejected)
      (reviewer : changed.reviewedBy = some actorId)
      (audits : s'.world.audits = s.world.audits ++ [accessAudit .accessRejected (some actorId) request.id])
  | activated (token : Nat) (password : String) (asked : Performs (.setup (hashToken token) password) s event)
      (issued : ⟨.setup, request.id, token⟩ ∈ s.world.links)
      (before : request.status = .approved) (after : changed.status = .activated)
      (admin : s'.world.people = (s.world.nextId, request.email) :: s.world.people)
      (audits : s'.world.audits = s.world.audits ++ [activationAudit s.world.nextId request.id])

/-- A step that takes a request somewhere else takes it through a transition. -/
theorem transition_of_becomes (sound : RequestsSound hashToken s.world)
    (asked : ∀ performed, act = some performed ↔ Performs performed s event) (mem : request ∈ s.world.requests)
    (becomes : Becomes hashToken s.world s'.world act request changed) :
    changed.status = request.status ∨ Transition hashToken s s' event request changed := by
  cases becomes with
  | kept => exact .inl rfl
  | changed _ rows _ _ change audits _ admins =>
      cases change with
      | expired _ before => exact .inr (.expired before rfl)
      | renewed _ _ _ before => exact .inl rfl
      | verified tokenHash now same before stored =>
          obtain ⟨_, token, rfl, issued⟩ := sound.verification request mem tokenHash stored
          exact .inr (.verified token ((asked _).mp same) issued before rfl audits)
      | approved actorId _ _ same before => exact .inr (.approved actorId ((asked _).mp same) before rfl rfl audits)
      | rejected actorId _ same before => exact .inr (.rejected actorId ((asked _).mp same) before rfl rfl audits)
      | activated tokenHash _ password same before stored =>
          obtain ⟨_, token, rfl, issued⟩ := sound.setup request mem tokenHash stored
          exact .inr (.activated token password ((asked _).mp same) issued before rfl
            (by simp [AdminWorld.people, admins]) audits)

/-- The action presents the token of a link of this kind. -/
def Presents (kind : LinkKind) (tokenHash : Nat) : AdminAct → Prop
  | .verify presented => kind = .verification ∧ presented = tokenHash
  | .setup presented _ => kind = .setup ∧ presented = tokenHash
  | _ => False

/-- The step presents the token and it works: a request leaves its state. -/
def Uses (hashToken : Nat → Nat) (kind : LinkKind) (token : Nat) (s s' : AdminSystem) (event : AdminEvent) : Prop :=
  ∃ act, Presents kind (hashToken token) act ∧ Performs act s event ∧
    ∃ request ∈ s.world.requests, ∃ changed ∈ s'.world.requests,
      changed.id = request.id ∧ changed.status ≠ request.status

/-- The digest of this kind that is stored with a request. -/
def AdminAccessRequest.stored (request : AdminAccessRequest) : LinkKind → Option Nat
  | .verification => request.verificationTokenHash
  | .setup => request.setupTokenHash

/-- The token was issued and is stored nowhere any more. New tokens differ from all issued ones, so this lasts. -/
def Dead (hashToken : Nat → Nat) (kind : LinkKind) (token : Nat) (w : AdminWorld) : Prop :=
  token ∈ w.links.map (·.token) ∧ ∀ request ∈ w.requests, request.stored kind ≠ some (hashToken token)

/-- A digest that is stored after a step was stored before or belongs to a new token. -/
theorem Move.stored (move : Move hashToken w w' act) {kind : LinkKind} {tokenHash : Nat} (mem : changed ∈ w'.requests)
    (holds : changed.stored kind = some tokenHash) :
    (∃ request ∈ w.requests, request.id = changed.id ∧ request.stored kind = some tokenHash) ∨
      ∃ token, tokenHash = hashToken token ∧ token ∉ w.links.map (·.token) := by
  cases move with
  | foreign _ _ requests => exact .inl ⟨changed, requests ▸ mem, rfl, holds⟩
  | lapsed select _ _ requests =>
      rw [requests] at mem
      obtain ⟨request, requestMem, rfl⟩ := List.mem_map.mp mem
      split at holds
      · refine .inl ⟨request, requestMem, by split <;> rfl, ?_⟩
        cases kind with
        | verification => cases holds
        | setup => exact holds
      · exact .inl ⟨request, requestMem, by split <;> rfl, holds⟩
  | requested new token _ named status verification setup fresh requests =>
      rw [requests] at mem
      rcases List.mem_cons.mp mem with rfl | mem
      · cases kind with
        | verification => exact .inr ⟨token, Option.some.inj (holds.symm.trans verification), fresh⟩
        | setup =>
            rw [AdminAccessRequest.stored, setup] at holds
            cases holds
      · exact .inl ⟨changed, mem, rfl, holds⟩
  | changed request after _ issued _ change requestMem fresh requests =>
      rw [requests] at mem
      obtain ⟨other, otherMem, rfl⟩ := List.mem_map.mp mem
      split at holds
      · rename_i same
        rw [if_pos same]
        cases change with
        | expired | verified =>
            cases kind with
            | verification => cases holds
            | setup => exact .inl ⟨request, requestMem, rfl, holds⟩
        | rejected => exact .inl ⟨request, requestMem, rfl, by cases kind <;> exact holds⟩
        | approved _ token | renewed token =>
            cases kind with
            | verification => exact .inl ⟨request, requestMem, rfl, holds⟩
            | setup => exact .inr ⟨token, (Option.some.inj holds).symm, fresh _ List.mem_cons_self⟩
        | activated =>
            cases kind with
            | verification => exact .inl ⟨request, requestMem, rfl, holds⟩
            | setup => cases holds
      · rename_i differs
        rw [if_neg differs]
        exact .inl ⟨other, otherMem, rfl, holds⟩

theorem Move.dead (collisionFree : Function.Injective hashToken) (move : Move hashToken w w' act) {kind : LinkKind}
    (dead : Dead hashToken kind token w) : Dead hashToken kind token w' := by
  obtain ⟨issued, nowhere⟩ := dead
  constructor
  · obtain ⟨link, mem, same⟩ := List.mem_map.mp issued
    exact List.mem_map.mpr ⟨link, move.links_subset mem, same⟩
  · intro changed mem holds
    rcases move.stored mem holds with ⟨request, there, _, before⟩ | ⟨other, same, fresh⟩
    · exact nowhere request there before
    · exact fresh (collisionFree same ▸ issued)

/-- A stored digest belongs to a link of its request. -/
theorem RequestsSound.owner (sound : RequestsSound hashToken w) (collisionFree : Function.Injective hashToken)
    {kind : LinkKind} (mem : request ∈ w.requests) (holds : request.stored kind = some (hashToken token)) :
    ⟨kind, request.id, token⟩ ∈ w.links := by
  cases kind with
  | verification =>
      obtain ⟨_, other, same, issued⟩ := sound.verification request mem _ holds
      exact collisionFree same ▸ issued
  | setup =>
      obtain ⟨_, other, same, issued⟩ := sound.setup request mem _ holds
      exact collisionFree same ▸ issued

/-- A token that works was stored with the request that it moves, and with nothing after that. -/
theorem dead_of_uses (collisionFree : Function.Injective hashToken) (sound : RequestsSound hashToken s.world)
    (applied : (adminMachine hashToken bcrypt).apply s event = some s') {kind : LinkKind}
    (uses : Uses hashToken kind token s s' event) :
    (∃ request ∈ s.world.requests, request.stored kind = some (hashToken token)) ∧
      Dead hashToken kind token s'.world := by
  obtain ⟨act, move, asked⟩ := move_apply sound applied
  obtain ⟨performed, presents, performs, request, mem, changed, changedMem, same, differs⟩ := uses
  obtain rfl := (asked performed).mpr performs
  have sound' := move.requestsSound sound
  have becomes : Becomes hashToken s.world s'.world (some performed) request changed := by
    obtain ⟨after, afterMem, becomes⟩ := (move.origin sound.ids sound.allocated).2 request mem
    have equal : after = changed :=
      List.inj_on_of_nodup_map sound'.ids afterMem changedMem (becomes.id_eq.trans same.symm)
    exact equal ▸ becomes
  have stored : request.stored kind = some (hashToken token) ∧ changed.stored kind = none := by
    cases becomes with
    | kept => exact absurd rfl differs
    | changed _ _ _ _ change =>
        cases change with
        | renewed => exact absurd rfl differs
        | expired asked =>
            cases performed with
            | verify | setup => exact asked.elim
            | _ => exact presents.elim
        | approved _ _ _ asked | rejected _ _ asked =>
            cases asked
            exact presents.elim
        | verified tokenHash _ asked _ holds =>
            cases asked
            obtain ⟨rfl, rfl⟩ := presents
            exact ⟨holds, rfl⟩
        | activated tokenHash _ _ asked _ holds =>
            cases asked
            obtain ⟨rfl, rfl⟩ := presents
            exact ⟨holds, rfl⟩
  refine ⟨⟨request, mem, stored.1⟩, ?_, fun other otherMem holds => ?_⟩
  · exact List.mem_map.mpr ⟨_, move.links_subset (sound.owner collisionFree mem stored.1), rfl⟩
  · have there := sound'.owner collisionFree otherMem holds
    have here := move.links_subset (sound.owner collisionFree mem stored.1)
    have equal := List.inj_on_of_nodup_map sound'.tokens there here rfl
    simp only [IssuedLink.mk.injEq, true_and, and_true] at equal
    obtain rfl := List.inj_on_of_nodup_map sound'.ids otherMem changedMem (equal.trans same.symm)
    rw [stored.2] at holds
    cases holds

/-- The step carries out a `resendSetup` that stores a new token. -/
def Renews (id : Nat) (s s' : AdminSystem) (event : AdminEvent) : Prop :=
  Performs (.resendSetup id) s event ∧ s'.world.links ≠ s.world.links

/-- A renewal leaves no earlier setup token of the request. -/
theorem dead_of_renews (collisionFree : Function.Injective hashToken) (sound : RequestsSound hashToken s.world)
    (applied : (adminMachine hashToken bcrypt).apply s event = some s') (renews : Renews id s s' event)
    (issued : ⟨.setup, id, token⟩ ∈ s.world.links) : Dead hashToken .setup token s'.world := by
  obtain ⟨act, move, asked⟩ := move_apply sound applied
  obtain ⟨performs, differs⟩ := renews
  obtain rfl := (asked _).mpr performs
  have sound' := move.requestsSound sound
  refine ⟨List.mem_map.mpr ⟨_, move.links_subset issued, rfl⟩, fun other otherMem holds => ?_⟩
  have there := sound'.owner collisionFree otherMem holds
  have same := List.inj_on_of_nodup_map sound'.tokens there (move.links_subset issued) rfl
  simp only [IssuedLink.mk.injEq, true_and, and_true] at same
  cases move
  case foreign links _ => exact differs links
  case lapsed asked _ _ _ _ _ _ => exact asked
  case requested asked _ _ _ _ _ _ _ _ _ _ _ =>
    obtain ⟨_, _, _, _, asked⟩ := asked
    cases asked
  case changed request changed _ _ _ change mem fresh requests _ _ _ _ =>
    cases change with
    | expired asked => exact asked
    | verified _ _ asked | approved _ _ _ asked | rejected _ _ asked | activated _ _ _ asked => cases asked
    | renewed newToken now asked =>
        cases asked
        rw [requests] at otherMem
        obtain ⟨before, _, rfl⟩ := List.mem_map.mp otherMem
        have renewed : before.id = request.id := by
          by_contra differs
          rw [if_neg differs] at same
          exact differs same
        rw [if_pos renewed] at holds
        have equal := collisionFree (Option.some.inj holds)
        exact fresh _ List.mem_cons_self (List.mem_map.mpr ⟨_, issued, equal.symm⟩)

/-! ### The law of access requests -/

/-- What every reachable state and every run from there on obeys. The first fields are about the state, the others about
the steps and the runs that begin there. -/
structure AccessLaw (hashToken : Nat → Nat) (bcrypt : Bcrypt) (s : AdminSystem) : Prop where
  /-- An administrator was bootstrapped or is recorded as created by an activation. -/
  origin : ∀ admin ∈ s.world.admins, bootstrapAudit admin.id ∈ s.world.audits ∨
    ∃ requestId, activationAudit admin.id requestId ∈ s.world.audits
  /-- Such a record belongs to one activated request with the email of the administrator, which a reviewer approved,
  and to no other one. -/
  provenance : ∀ admin ∈ s.world.admins, ∀ requestId, activationAudit admin.id requestId ∈ s.world.audits →
    (∃ request ∈ s.world.requests, request.id = requestId ∧ request.status = .activated ∧ request.email = admin.email ∧
      ∃ actorId, request.reviewedBy = some actorId ∧
        accessAudit .accessApproved (some actorId) requestId ∈ s.world.audits) ∧
    ∀ other, activationAudit admin.id other ∈ s.world.audits → other = requestId
  /-- Exactly one record for every transition of a request, in the order of the transitions. -/
  trails : ∀ request ∈ s.world.requests, trail request.id s.world.audits = story request.status
  /-- A link is sent to nobody but the email of its request. -/
  emailed : ∀ recipient mail kind token, (recipient, mail) ∈ s.world.outbox → mail.link = some (kind, token) →
    IssuedTo recipient kind token s.world
  /-- At most one request of an email is open. -/
  unique : ∀ email, countDocuments s.world.requests (·.openFor email) ≤ 1
  /-- A step leaves every request where it is or takes it through one transition, with its record. -/
  step : ∀ event s', (adminMachine hashToken bcrypt).apply s event = some s' →
    ∀ request ∈ s.world.requests, ∃ changed ∈ s'.world.requests, changed.id = request.id ∧
      changed.email = request.email ∧
      (changed.status = request.status ∨ Transition hashToken s s' event request changed)
  /-- A request is made in the first state, with its record. -/
  made : ∀ event s', (adminMachine hashToken bcrypt).apply s event = some s' →
    ∀ changed ∈ s'.world.requests, (∃ request ∈ s.world.requests, request.id = changed.id) ∨
      changed.status = .awaitingVerification ∧
        s'.world.audits = s.world.audits ++ [accessAudit .accessRequested none changed.id]
  /-- A rejected, expired or activated request stays as it is. -/
  final : ∀ later s', AdminRun hashToken bcrypt s later s' → ∀ request ∈ s.world.requests,
    request.status.isOpen = false → request ∈ s'.world.requests
  /-- A token works at most once. -/
  once : ∀ kind token event s', (adminMachine hashToken bcrypt).apply s event = some s' →
    Uses hashToken kind token s s' event → ∀ later s'', AdminRun hashToken bcrypt s' later s'' →
      ∀ event' s₃, (adminMachine hashToken bcrypt).apply s'' event' = some s₃ →
        ¬Uses hashToken kind token s'' s₃ event'
  /-- A setup token that was replaced never works. -/
  replaced : ∀ id token event s', (adminMachine hashToken bcrypt).apply s event = some s' → Renews id s s' event →
    ⟨.setup, id, token⟩ ∈ s.world.links → ∀ later s'', AdminRun hashToken bcrypt s' later s'' →
      ∀ event' s₃, (adminMachine hashToken bcrypt).apply s'' event' = some s₃ →
        ¬Uses hashToken .setup token s'' s₃ event'

/-- What sound states keep under every move, every run keeps. -/
theorem keeps_run {P : AdminWorld → Prop} {later : List AdminEvent}
    (kept : ∀ w w' act, RequestsSound hashToken w → Move hashToken w w' act → P w → P w')
    (sound : RequestsSound hashToken s.world) (run : AdminRun hashToken bcrypt s later s') (holds : P s.world) :
    RequestsSound hashToken s'.world ∧ P s'.world := by
  refine run.keeps (P := fun s => RequestsSound hashToken s.world ∧ P s.world) ?_ ⟨sound, holds⟩
  rintro s event s' ⟨sound, holds⟩ _ applied
  obtain ⟨act, move, _⟩ := move_apply sound applied
  exact ⟨move.requestsSound sound, kept _ _ _ sound move holds⟩

/-- A dead token does not work at any later time. -/
theorem unused_of_dead (collisionFree : Function.Injective hashToken) (sound : RequestsSound hashToken s.world)
    {kind : LinkKind} (dead : Dead hashToken kind token s.world) {later : List AdminEvent} {s'' : AdminSystem}
    (run : AdminRun hashToken bcrypt s later s') (applied : (adminMachine hashToken bcrypt).apply s' event = some s'') :
    ¬Uses hashToken kind token s' s'' event := by
  intro uses
  obtain ⟨sound', _, nowhere⟩ := keeps_run (P := Dead hashToken kind token)
    (fun _ _ _ _ move dead => move.dead collisionFree dead) sound run dead
  obtain ⟨⟨request, mem, holds⟩, _⟩ := dead_of_uses collisionFree sound' applied uses
  exact nowhere request mem holds

/-- An administrator has one activation at most. -/
theorem activation_unique (nodup : (activators w.audits).Nodup) {adminId one two : Nat}
    (first : activationAudit adminId one ∈ w.audits) (second : activationAudit adminId two ∈ w.audits) : one = two := by
  have activates : ∀ requestId, activationAudit adminId requestId ∈ w.audits →
      activationAudit adminId requestId ∈ w.audits.filter fun row => row.action = .accessActivated := by
    intro requestId mem
    exact List.mem_filter.mpr ⟨mem, by simp [activationAudit, accessAudit]⟩
  have equal := List.inj_on_of_nodup_map nodup (activates one first) (activates two second) rfl
  simp only [activationAudit, accessAudit, AdminAudit.mk.injEq, Option.some.injEq] at equal
  exact equal.2.2.1

/-- Every state that a pristine system reaches obeys the law of access requests, and so does every run from there on:
nobody becomes an administrator but by the bootstrap or by a request that was verified, approved and activated, each of
them once and on the record. The digest of tokens has no collisions. -/
theorem access_provenance (collisionFree : Function.Injective hashToken) (idle : s.runs = [])
    (pristine : Pristine s.world) (reached : AdminRun hashToken bcrypt s events s') :
    AccessLaw hashToken bcrypt s' := by
  obtain ⟨sound, admins, outbox⟩ := reachable_of_run idle pristine reached
  have person : ∀ admin ∈ s'.world.admins, (admin.id, admin.email) ∈ s'.world.people :=
    fun admin mem => List.mem_map.mpr ⟨admin, mem, rfl⟩
  constructor
  case origin => exact fun admin mem => admins.origin _ (person admin mem)
  case provenance =>
    intro admin mem requestId recorded
    refine ⟨?_, fun other there => activation_unique admins.activations there recorded⟩
    obtain ⟨request, requestMem, rfl, status, known⟩ := admins.activated _ _ recorded
    obtain ⟨actorId, reviewer, approved⟩ := sound.reviewed request requestMem (.inr status)
    have same := List.inj_on_of_nodup_map admins.ids known (person admin mem) rfl
    exact ⟨request, requestMem, rfl, status, (Prod.mk.inj same).2, actorId, reviewer, approved⟩
  case trails => exact sound.trails
  case emailed =>
    exact fun recipient mail kind token mem carries => outbox recipient mail mem kind token carries _ List.mem_cons_self
  case unique => exact sound.unique
  case step =>
    intro event s'' applied request mem
    obtain ⟨act, move, asked⟩ := move_apply sound applied
    obtain ⟨changed, changedMem, becomes⟩ := (move.origin sound.ids sound.allocated).2 request mem
    exact ⟨changed, changedMem, becomes.id_eq, becomes.email_eq, transition_of_becomes sound asked mem becomes⟩
  case made =>
    intro event s'' applied changed mem
    obtain ⟨act, move, _⟩ := move_apply sound applied
    rcases (move.origin sound.ids sound.allocated).1 changed mem with ⟨request, there, becomes⟩ | new
    · exact .inl ⟨request, there, becomes.id_eq.symm⟩
    · exact .inr ⟨new.status, new.audits⟩
  case final =>
    intro later s'' run request mem final
    exact (keeps_run (P := fun w => request ∈ w.requests)
      (fun _ _ _ sound move mem => move.final sound mem final) sound run mem).2
  case once =>
    intro kind token event s₁ applied uses later s₂ run event' s₃ applied'
    obtain ⟨act, move, _⟩ := move_apply sound applied
    exact unused_of_dead collisionFree (move.requestsSound sound) (dead_of_uses collisionFree sound applied uses).2 run
      applied'
  case replaced =>
    intro id token event s₁ applied renews issued later s₂ run event' s₃ applied'
    obtain ⟨act, move, _⟩ := move_apply sound applied
    exact unused_of_dead collisionFree (move.requestsSound sound)
      (dead_of_renews collisionFree sound applied renews issued) run applied'

/-! ### A run -/

/-- A hash that shows its password. -/
def plain : Bcrypt where
  hash _ password := password
  compare password hashed := password == hashed

/-- A digest that shows its token. -/
def plainToken (token : Nat) : Nat := token

def pristine : AdminSystem where
  world := { clock := 0, requests := [], admins := [], audits := [], nextId := 0 }
  runs := []

/-- The bootstrapped administrator approves a verified request, whose setup link is sent once more; the first setup
token is refused and the second one creates an administrator. -/
def admission : List AdminEvent :=
  .drift (.bootstrap "root" "Root" "secret") :: .arrive (.request "new" "New" none) ::
    List.replicate 6 (.step 0 { token := 7 }) ++ .arrive (.verify 7) :: List.replicate 3 (.step 1 {}) ++
    .arrive (.decide 0 1 true) :: List.replicate 2 (.step 2 { token := 8 }) ++
    .arrive (.resendSetup 1) :: List.replicate 2 (.step 3 { token := 9 }) ++
    .arrive (.setup 8 "first") :: List.replicate 2 (.step 4 {}) ++
    .arrive (.setup 9 "second") :: List.replicate 2 (.step 5 {})

theorem access_provenance_admitted :
    ∃ s', (adminMachine plainToken plain).play admission pristine = some s' ∧ AccessLaw plainToken plain s' ∧
      s'.world.people = [(2, "new"), (0, "root")] ∧ s'.world.requests.map (·.status) = [.activated] := by
  have plays : ((adminMachine plainToken plain).play admission pristine).any fun s' => Decidable.decide
      (s'.world.people = [(2, "new"), (0, "root")] ∧ s'.world.requests.map (·.status) = [.activated]) := by
    decide +kernel
  obtain ⟨s', played, checked⟩ := (Option.any_eq_true ..).mp plays
  obtain ⟨people, statuses⟩ := of_decide_eq_true checked
  exact ⟨s', played, access_provenance (fun _ _ same => same) (s := pristine) rfl ⟨rfl, rfl, rfl, rfl, rfl⟩
    (Machine.run_of_play played), people, statuses⟩

end DataVault.Admin
