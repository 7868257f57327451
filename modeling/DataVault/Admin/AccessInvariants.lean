/-
Module: DataVault.Admin.AccessInvariants
Layer: Proof
Purpose: What holds in every reachable state of the access requests and of the administrators, step by step.
Imports: DataVault.Admin.Transition
Trusted boundary: none
Main exports: RequestsSound, Move.requestsSound, AdminsSound, Move.adminsSound
-/
import DataVault.Admin.Transition

namespace DataVault.Admin

open DataVault.Auth (AuthFailure Bcrypt Fate)
open DataVault.Control DataVault.Interleaving DataVault.Store

variable {hashToken : Nat → Nat}
variable {request changed : AdminAccessRequest} {w w' : AdminWorld} {act : Option AdminAct}

/-! ### What every reachable state satisfies

The records of a request tell its story, one record for each transition, and the invariant ties the story to the
status. Tokens are tied to requests by their digests: a stored digest is that of a link which was issued for this
request and no other. -/

/-- What holds of the access requests at all times: a stored digest is that of an issued link of the request and stands
only in the status that waits for it, the records of a request tell the story of its status, and an email has one open
request. -/
structure RequestsSound (hashToken : Nat → Nat) (w : AdminWorld) : Prop where
  ids : DistinctIds w
  allocated : ∀ request ∈ w.requests, request.id < w.nextId
  tokens : (w.links.map (·.token)).Nodup
  verification : ∀ request ∈ w.requests, ∀ tokenHash, request.verificationTokenHash = some tokenHash →
    request.status = .awaitingVerification ∧
      ∃ token, tokenHash = hashToken token ∧ ⟨.verification, request.id, token⟩ ∈ w.links
  setup : ∀ request ∈ w.requests, ∀ tokenHash, request.setupTokenHash = some tokenHash →
    request.status = .approved ∧ ∃ token, tokenHash = hashToken token ∧ ⟨.setup, request.id, token⟩ ∈ w.links
  trails : ∀ request ∈ w.requests, trail request.id w.audits = story request.status
  strangers : ∀ id, (∀ request ∈ w.requests, request.id ≠ id) → trail id w.audits = []
  reviewed : ∀ request ∈ w.requests, request.status = .approved ∨ request.status = .activated →
    ∃ actorId, request.reviewedBy = some actorId ∧ accessAudit .accessApproved (some actorId) request.id ∈ w.audits
  unique : ∀ email, countDocuments w.requests (·.openFor email) ≤ 1

theorem Move.ids_le (move : Move hashToken w w' act) : w.nextId ≤ w'.nextId := by
  cases move
  case foreign admins =>
    rcases admins with ⟨_, ids⟩ | ⟨_, _, ids, _⟩ <;> omega
  case lapsed ids | requested ids | changed ids => omega

theorem Move.links_subset (move : Move hashToken w w' act) : w.links ⊆ w'.links := by
  cases move
  case foreign links _ | lapsed links _ _ => exact links ▸ List.Subset.refl _
  case requested links _ _ => exact links ▸ List.subset_cons_self _ _
  case changed links _ _ => exact links ▸ List.subset_append_right _ _

theorem Move.audits_subset (move : Move hashToken w w' act) : w.audits ⊆ w'.audits := by
  cases move
  case foreign audits _ _ | requested audits _ _ _ | changed audits _ _ _ =>
    exact audits ▸ List.subset_append_left _ _
  case lapsed audits _ _ _ => exact audits ▸ List.Subset.refl _

theorem Move.tokens (move : Move hashToken w w' act) (tokens : (w.links.map (·.token)).Nodup) :
    (w'.links.map (·.token)).Nodup := by
  cases move
  case foreign links _ | lapsed links _ _ => exact links ▸ tokens
  case requested fresh _ _ _ links _ _ =>
    rw [links, List.map_cons, List.nodup_cons]
    exact ⟨fresh, tokens⟩
  case changed issued _ change _ fresh _ _ links _ _ =>
    rw [links]
    cases change with
    | approved | renewed =>
        simp only [List.map_cons, List.singleton_append, List.nodup_cons]
        exact ⟨fresh _ List.mem_cons_self, tokens⟩
    | _ => exact tokens

/-- No id is used again. -/
theorem Move.ids (move : Move hashToken w w' act) :
    (w'.requests.map (·.id)).Sublist (w.nextId :: w.requests.map (·.id)) := by
  cases move
  case foreign requests _ _ _ => exact requests ▸ List.sublist_cons_self _ _
  case lapsed select _ _ requests _ _ _ _ =>
    have same : w'.requests.map (·.id) = w.requests.map (·.id) := by
      rw [requests, updateMany, List.map_map]
      refine List.map_congr_left fun request _ => ?_
      simp only [Function.comp]
      split <;> rfl
    exact same ▸ List.sublist_cons_self _ _
  case requested new _ _ named _ _ _ _ requests _ _ _ _ _ =>
    rw [requests, List.map_cons, named]
  case changed target changed _ _ _ change _ _ requests _ _ _ _ =>
    have same : w'.requests.map (·.id) = w.requests.map (·.id) := by
      rw [requests, List.map_map]
      refine List.map_congr_left fun request _ => ?_
      simp only [Function.comp]
      split
      · rename_i equal
        rw [change.id_eq, equal]
      · rfl
    exact same ▸ List.sublist_cons_self _ _

/-- No step adds a second open request for an email. -/
theorem Move.unique (move : Move hashToken w w' act) (sound : RequestsSound hashToken w) (email : String) :
    countDocuments w'.requests (·.openFor email) ≤ 1 := by
  have before := sound.unique email
  cases move
  case foreign requests _ _ _ => exact requests ▸ before
  case lapsed select _ _ requests _ _ _ _ =>
    refine Nat.le_trans ?_ before
    rw [requests]
    refine countDocuments_updateMany_le _ fun request _ counts => ?_
    simp [AdminAccessRequest.openFor, AdminAccessRequest.expire, AccessStatus.isOpen] at counts
  case requested new _ _ _ _ _ _ _ requests unique _ _ _ _ =>
    by_cases same : new.email = email
    · exact same ▸ unique
    · rw [requests, countDocuments_cons]
      simpa [AdminAccessRequest.openFor, same] using before
  case changed target changed _ _ _ change mem _ requests _ _ _ _ =>
    refine Nat.le_trans ?_ before
    rw [requests, countDocuments, countDocuments, List.countP_map]
    refine List.countP_mono_left fun request requestMem counts => ?_
    simp only [Function.comp] at counts
    split at counts
    · rename_i same
      obtain rfl := List.inj_on_of_nodup_map sound.ids requestMem mem same
      simp only [AdminAccessRequest.openFor, Bool.and_eq_true, decide_eq_true_eq] at counts ⊢
      exact ⟨change.email_eq.symm.trans counts.1, change.was_open⟩
    · exact counts

theorem Move.requestsSound (move : Move hashToken w w' act) (sound : RequestsSound hashToken w) :
    RequestsSound hashToken w' := by
  obtain ⟨origin, onward⟩ := move.origin sound.ids sound.allocated
  constructor
  case ids =>
    refine move.ids.nodup (List.nodup_cons.mpr ⟨fun mem => ?_, sound.ids⟩)
    obtain ⟨request, mem, named⟩ := List.mem_map.mp mem
    have allocated := sound.allocated request mem
    omega
  case allocated =>
    intro changed mem
    rcases origin changed mem with ⟨earlier, there, becomes⟩ | new
    · have allocated := sound.allocated earlier there
      have grows := move.ids_le
      have same := becomes.id_eq
      omega
    · have named := new.named
      have ids := new.ids
      omega
  case tokens => exact move.tokens sound.tokens
  case verification =>
    intro changed mem tokenHash stored
    rcases origin changed mem with ⟨earlier, there, becomes⟩ | new
    · cases becomes with
      | kept =>
          obtain ⟨status, token, same, issued⟩ := sound.verification _ there tokenHash stored
          exact ⟨status, token, same, move.links_subset issued⟩
      | changed _ _ _ _ change =>
          cases change with
          | expired | verified => cases stored
          | approved _ _ _ _ before | rejected _ _ _ before | renewed _ _ _ before | activated _ _ _ _ before =>
              have status := (sound.verification _ there tokenHash stored).1
              rw [before] at status
              cases status
    · obtain ⟨token, same, issued⟩ := new.verification
      exact ⟨new.status, token, Option.some.inj (stored.symm.trans same), issued⟩
  case setup =>
    intro changed mem tokenHash stored
    rcases origin changed mem with ⟨earlier, there, becomes⟩ | new
    · cases becomes with
      | kept =>
          obtain ⟨status, token, same, issued⟩ := sound.setup _ there tokenHash stored
          exact ⟨status, token, same, move.links_subset issued⟩
      | changed _ _ _ _ change _ links =>
          cases change with
          | activated => cases stored
          | approved _ token _ _ _ =>
              exact ⟨rfl, token, (Option.some.inj stored).symm, by rw [links]; exact List.mem_cons_self⟩
          | renewed token _ _ before =>
              exact ⟨before, token, (Option.some.inj stored).symm, by rw [links]; exact List.mem_cons_self⟩
          | expired _ before | verified _ _ _ before | rejected _ _ _ before =>
              have status := (sound.setup _ there tokenHash stored).1
              rw [before] at status
              cases status
    · rw [new.setup] at stored
      cases stored
  case trails =>
    intro changed mem
    rcases origin changed mem with ⟨earlier, there, becomes⟩ | new
    · cases becomes with
      | kept unrecorded => exact unrecorded.trans (sound.trails _ there)
      | changed _ rows _ _ change audits =>
          rw [change.id_eq, audits, trail_append, sound.trails _ there, change.story_eq]
    · have unknown : trail changed.id w.audits = [] := sound.strangers changed.id fun request mem same => by
        have allocated := sound.allocated request mem
        have named := new.named
        omega
      rw [new.audits, trail_append, unknown, trail_own, new.status]
      rfl
  case strangers =>
    intro id absent
    have before : trail id w.audits = [] := sound.strangers id fun request mem same => by
      obtain ⟨changed, changedMem, becomes⟩ := onward request mem
      exact absent changed changedMem (becomes.id_eq.trans same)
    cases move
    case foreign rows unrelated _ audits _ _ =>
      rw [audits, trail_append, before]
      simp only [trail, List.nil_append, List.map_eq_nil_iff, List.filter_eq_nil_iff]
      intro row mem
      simp [AdminAudit.concerns, (unrelated row mem).1]
    case lapsed audits _ _ _ => exact audits ▸ before
    case requested new _ _ _ _ _ _ _ requests _ audits _ _ _ =>
      rw [audits, trail_append, before, Admin.trail_other (absent new (by simp [requests]))]
      rfl
    case changed request changed _ _ _ change mem _ requests audits _ _ _ =>
      obtain ⟨other, otherMem, becomes⟩ := onward request mem
      rw [audits, trail_append, before, change.trail_other (becomes.id_eq ▸ absent other otherMem)]
      rfl
  case reviewed =>
    intro changed mem status
    rcases origin changed mem with ⟨earlier, there, becomes⟩ | new
    · cases becomes with
      | kept =>
          obtain ⟨actorId, reviewer, recorded⟩ := sound.reviewed _ there status
          exact ⟨actorId, reviewer, move.audits_subset recorded⟩
      | changed _ _ _ _ change audits =>
          cases change with
          | approved actorId => exact ⟨actorId, rfl, by rw [audits]; exact List.mem_append_right _ List.mem_cons_self⟩
          | renewed _ _ _ before | activated _ _ _ _ before =>
              obtain ⟨actorId, reviewer, recorded⟩ := sound.reviewed _ there (.inl before)
              exact ⟨actorId, reviewer, move.audits_subset recorded⟩
          | expired | verified | rejected => rcases status with status | status <;> cases status
    · rw [new.status] at status
      rcases status with status | status <;> cases status
  case unique => exact move.unique sound

/-! ### Administrators -/

/-- The record of the activation of a request. -/
def activationAudit (adminId requestId : Nat) : AdminAudit := accessAudit .accessActivated (some adminId) requestId

/-- The administrators that activations have created. -/
def activators (audits : List AdminAudit) : List (Option Nat) :=
  (audits.filter fun row => row.action = .accessActivated).map (·.actorId)

/-- What holds of the administrators at all times: each was bootstrapped or comes from one activated request with its
email, and every activated request has the record of its activation. -/
structure AdminsSound (w : AdminWorld) : Prop where
  ids : (w.people.map Prod.fst).Nodup
  allocated : ∀ person ∈ w.people, person.1 < w.nextId
  activations : (activators w.audits).Nodup
  actors : ∀ actor ∈ activators w.audits, ∃ adminId, actor = some adminId ∧ adminId < w.nextId
  origin : ∀ person ∈ w.people, bootstrapAudit person.1 ∈ w.audits ∨
    ∃ requestId, activationAudit person.1 requestId ∈ w.audits
  activated : ∀ adminId requestId, activationAudit adminId requestId ∈ w.audits →
    ∃ request ∈ w.requests, request.id = requestId ∧ request.status = .activated ∧ (adminId, request.email) ∈ w.people
  finished : ∀ request ∈ w.requests, request.status = .activated →
    ∃ adminId, activationAudit adminId request.id ∈ w.audits

theorem activators_append {audits rows : List AdminAudit} :
    activators (audits ++ rows) = activators audits ++ activators rows := by
  simp [activators]

/-- Activations are recorded by activations alone. -/
theorem activators_eq_nil {rows : List AdminAudit} (others : ∀ row ∈ rows, row.action ≠ .accessActivated) :
    activators rows = [] := by
  simp only [activators, List.map_eq_nil_iff, List.filter_eq_nil_iff]
  intro row mem
  simp [others row mem]

/-- A step that activates a request creates the administrator of the next id for it. -/
structure Activation (w w' : AdminWorld) (request : AdminAccessRequest) : Prop where
  mem : request ∈ w.requests
  before : request.status = .approved
  after : ∃ now, request.activate now ∈ w'.requests
  audits : w'.audits = w.audits ++ [activationAudit w.nextId request.id]
  people : w'.people = (w.nextId, request.email) :: w.people
  ids : w'.nextId = w.nextId + 1

/-- What a step does to the administrators: it activates a request, or no activation is recorded and nobody created
but by the bootstrap command. -/
theorem Move.administrators (move : Move hashToken w w' act) :
    (∃ request, Activation w w' request) ∨
      ∃ rows, w'.audits = w.audits ++ rows ∧ (∀ row ∈ rows, row.action ≠ .accessActivated) ∧
        (w'.people = w.people ∨ ∃ email, w'.people = (w.nextId, email) :: w.people ∧ w'.nextId = w.nextId + 1 ∧
          bootstrapAudit w.nextId ∈ rows) := by
  cases move
  case foreign rows unrelated _ audits _ admins =>
    refine .inr ⟨rows, audits, fun row mem => (unrelated row mem).2, ?_⟩
    rcases admins with ⟨people, _⟩ | ⟨email, people, ids, recorded⟩
    · exact .inl people
    · exact .inr ⟨email, people, ids, recorded⟩
  case lapsed audits _ admins _ =>
    exact .inr ⟨[], by simp [audits], by simp, .inl (by simp only [AdminWorld.people, admins])⟩
  case requested audits _ admins _ =>
    exact .inr ⟨_, audits, by simp [accessAudit], .inl (by simp only [AdminWorld.people, admins])⟩
  case changed request changed rows _ _ change mem _ requests audits _ admins ids =>
    have after : changed ∈ w'.requests := by
      rw [requests]
      exact List.mem_map.mpr ⟨request, mem, if_pos rfl⟩
    cases change with
    | activated tokenHash now password asked before token =>
        exact .inl ⟨request, mem, before, ⟨now, after⟩, audits, by simp [AdminWorld.people, admins], ids⟩
    | expired | renewed | verified | approved | rejected =>
        exact .inr ⟨_, audits, by simp [accessAudit], .inl (by simp only [AdminWorld.people, admins, List.nil_append])⟩

/-- A final request stays as it is. -/
theorem Becomes.final (becomes : Becomes hashToken w w' act request changed) (final : request.status.isOpen = false) :
    changed = request := by
  cases becomes with
  | kept => rfl
  | changed _ _ _ _ change =>
      rw [change.was_open] at final
      cases final

theorem Move.final (move : Move hashToken w w' act) (sound : RequestsSound hashToken w) (mem : request ∈ w.requests)
    (final : request.status.isOpen = false) : request ∈ w'.requests := by
  obtain ⟨changed, changedMem, becomes⟩ := (move.origin sound.ids sound.allocated).2 request mem
  exact becomes.final final ▸ changedMem

/-- The next id is nobody's. -/
theorem AdminsSound.ids_cons (admins : AdminsSound w) {email : String} :
    (((w.nextId, email) :: w.people).map Prod.fst).Nodup := by
  rw [List.map_cons, List.nodup_cons]
  refine ⟨fun mem => ?_, admins.ids⟩
  obtain ⟨person, mem, same⟩ := List.mem_map.mp mem
  have allocated := admins.allocated person mem
  simp only at same
  omega

theorem Move.adminsSound (move : Move hashToken w w' act) (sound : RequestsSound hashToken w) (admins : AdminsSound w) :
    AdminsSound w' := by
  have finished : ∀ request ∈ w'.requests, request.status = .activated →
      ∃ adminId, activationAudit adminId request.id ∈ w'.audits := by
    intro changed mem status
    rcases (move.origin sound.ids sound.allocated).1 changed mem with ⟨request, there, becomes⟩ | new
    · cases becomes with
      | kept =>
          obtain ⟨adminId, recorded⟩ := admins.finished _ there status
          exact ⟨adminId, move.audits_subset recorded⟩
      | changed _ rows _ _ change audits =>
          cases change with
          | activated => exact ⟨w.nextId, by rw [audits]; exact List.mem_append_right _ List.mem_cons_self⟩
          | renewed _ _ _ before => exact absurd (before.symm.trans status) (by simp)
          | expired | verified | approved | rejected => cases status
    · exact absurd (new.status.symm.trans status) (by simp)
  have stays : ∀ adminId requestId, activationAudit adminId requestId ∈ w.audits →
      ∃ request ∈ w'.requests, request.id = requestId ∧ request.status = .activated ∧
        (adminId, request.email) ∈ w.people := by
    intro adminId requestId recorded
    obtain ⟨request, mem, named, status, person⟩ := admins.activated adminId requestId recorded
    exact ⟨request, move.final sound mem (by simp [status, AccessStatus.isOpen]), named, status, person⟩
  rcases move.administrators with
    ⟨request, mem, before, ⟨now, after⟩, audits, people, ids⟩ | ⟨rows, audits, others, people⟩
  · have recorded : activationAudit w.nextId request.id ∈ w'.audits := by simp [audits]
    have actors : activators w'.audits = activators w.audits ++ [some w.nextId] := by
      rw [audits, activators_append]
      rfl
    constructor
    case ids => exact people ▸ admins.ids_cons
    case allocated =>
      intro person mem
      rw [people] at mem
      rcases List.mem_cons.mp mem with rfl | mem
      · exact ids ▸ Nat.lt_succ_self _
      · exact Nat.lt_of_lt_of_le (admins.allocated person mem) move.ids_le
    case activations =>
      rw [actors, List.nodup_append]
      refine ⟨admins.activations, by simp, fun actor mem other otherMem => ?_⟩
      obtain ⟨adminId, rfl, earlier⟩ := admins.actors actor mem
      simp only [List.mem_singleton] at otherMem
      subst otherMem
      simp only [ne_eq, Option.some.injEq]
      omega
    case actors =>
      intro actor mem
      rw [actors] at mem
      rcases List.mem_append.mp mem with mem | mem
      · obtain ⟨adminId, same, earlier⟩ := admins.actors actor mem
        exact ⟨adminId, same, Nat.lt_of_lt_of_le earlier move.ids_le⟩
      · exact ⟨w.nextId, List.mem_singleton.mp mem, ids ▸ Nat.lt_succ_self _⟩
    case origin =>
      intro person mem
      rw [people] at mem
      rcases List.mem_cons.mp mem with rfl | mem
      · exact .inr ⟨request.id, recorded⟩
      · rcases admins.origin person mem with booted | ⟨requestId, activated⟩
        · exact .inl (move.audits_subset booted)
        · exact .inr ⟨requestId, move.audits_subset activated⟩
    case activated =>
      intro adminId requestId there
      rw [audits] at there
      rw [people]
      rcases List.mem_append.mp there with there | there
      · obtain ⟨other, mem, named, status, person⟩ := stays adminId requestId there
        exact ⟨other, mem, named, status, List.mem_cons_of_mem _ person⟩
      · simp only [activationAudit, accessAudit, List.mem_singleton, AdminAudit.mk.injEq, Option.some.injEq] at there
        obtain ⟨_, rfl, rfl, _⟩ := there
        exact ⟨_, after, rfl, rfl, List.mem_cons_self⟩
    case finished => exact finished
  · have actors : activators w'.audits = activators w.audits := by
      rw [audits, activators_append, activators_eq_nil others, List.append_nil]
    have known : w.people ⊆ w'.people := by
      rcases people with same | ⟨email, more, _⟩
      · exact same ▸ List.Subset.refl _
      · exact more ▸ List.subset_cons_self _ _
    have earlier : ∀ person ∈ w.people, bootstrapAudit person.1 ∈ w'.audits ∨
        ∃ requestId, activationAudit person.1 requestId ∈ w'.audits := by
      intro person mem
      rcases admins.origin person mem with booted | ⟨requestId, activated⟩
      · exact .inl (move.audits_subset booted)
      · exact .inr ⟨requestId, move.audits_subset activated⟩
    constructor
    case ids =>
      rcases people with same | ⟨email, more, _⟩
      · exact same ▸ admins.ids
      · exact more ▸ admins.ids_cons
    case allocated =>
      intro person mem
      rcases people with same | ⟨email, more, ids, _⟩
      · exact Nat.lt_of_lt_of_le (admins.allocated person (same ▸ mem)) move.ids_le
      · rw [more] at mem
        rcases List.mem_cons.mp mem with rfl | mem
        · exact ids ▸ Nat.lt_succ_self _
        · exact Nat.lt_of_lt_of_le (admins.allocated person mem) move.ids_le
    case activations => exact actors ▸ admins.activations
    case actors =>
      intro actor mem
      obtain ⟨adminId, same, allocated⟩ := admins.actors actor (actors ▸ mem)
      exact ⟨adminId, same, Nat.lt_of_lt_of_le allocated move.ids_le⟩
    case origin =>
      intro person mem
      rcases people with same | ⟨email, more, _, recorded⟩
      · exact earlier person (same ▸ mem)
      · rw [more] at mem
        rcases List.mem_cons.mp mem with rfl | mem
        · exact .inl (by rw [audits]; exact List.mem_append_right _ recorded)
        · exact earlier person mem
    case activated =>
      intro adminId requestId there
      have there : activationAudit adminId requestId ∈ w.audits := by
        rw [audits] at there
        rcases List.mem_append.mp there with there | there
        · exact there
        · exact absurd rfl (others _ there)
      obtain ⟨request, mem, named, status, person⟩ := stays adminId requestId there
      exact ⟨request, mem, named, status, known person⟩
    case finished => exact finished

end DataVault.Admin
