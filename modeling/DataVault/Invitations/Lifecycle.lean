/-
Module: DataVault.Invitations.Lifecycle
Layer: Proof
Purpose: The lifecycle of invitations, over all interleavings of the operations on seats. Each transaction takes every
  invitation at most one step further, from pending to an end that nothing leaves again; a member is created in
  exactly those transactions that accept an invitation, and only the token that was issued last accepts it.
Imports: Mathlib.Data.List.Nodup, DataVault.Interleaving.Following, DataVault.Invitations.Service
Trusted boundary: none
Main exports: Becomes, InvitationsSound, Accepted, Move, moves_of_apply, invitation_lifecycle
-/
import Mathlib.Data.List.Nodup
import DataVault.Interleaving.Following
import DataVault.Invitations.Service

namespace DataVault.Invitations

open DataVault.Control DataVault.Interleaving DataVault.Payments DataVault.Plans DataVault.Store
open DataVault.Subscriptions DataVault.Users

/-! ### One invitation -/

namespace EmployeeInvitation

def expire (invitation : EmployeeInvitation) : EmployeeInvitation :=
  { invitation with status := .expired, tokenHash := none }

def revoke (invitation : EmployeeInvitation) (now : Int) : EmployeeInvitation :=
  { invitation with status := .revoked, revokedAt := some now, tokenHash := none }

def accept (invitation : EmployeeInvitation) (now : Int) : EmployeeInvitation :=
  { invitation with status := .accepted, acceptedAt := some now, tokenHash := none }

def renew (invitation : EmployeeInvitation) (tokenHash : Nat) (now : Int) : EmployeeInvitation :=
  { invitation with tokenHash := some tokenHash, expiresAt := now + invitationTokenTtlMs, lastSentAt := now }

end EmployeeInvitation

/-- What one transaction makes of an invitation; everything but `kept` starts from a pending one. `renewable` are the
ids whose token it may replace. -/
inductive Becomes (renewable : Nat → Prop) (invitation : EmployeeInvitation) : EmployeeInvitation → Prop where
  | kept : Becomes renewable invitation invitation
  | expired (pending : invitation.status = .pending) : Becomes renewable invitation invitation.expire
  | revoked (pending : invitation.status = .pending) (now : Int) : Becomes renewable invitation (invitation.revoke now)
  | accepted (pending : invitation.status = .pending) (now : Int) : Becomes renewable invitation (invitation.accept now)
  | renewed (pending : invitation.status = .pending) (permitted : renewable invitation.id) (tokenHash : Nat) (now : Int) :
      Becomes renewable invitation (invitation.renew tokenHash now)

variable {renewable : Nat → Prop} {accepting : Nat → Int → Prop} {invitation invitation' : EmployeeInvitation} {db db' : Database}

theorem Becomes.id_eq (becomes : Becomes renewable invitation invitation') : invitation'.id = invitation.id := by
  cases becomes <;> rfl

theorem Becomes.email_eq (becomes : Becomes renewable invitation invitation') : invitation'.email = invitation.email := by
  cases becomes <;> rfl

/-- No transaction leaves an end. -/
theorem Becomes.absorbing (becomes : Becomes renewable invitation invitation') (ended : invitation.status ≠ .pending) :
    invitation' = invitation := by
  cases becomes with
  | kept => rfl
  | expired pending => exact absurd pending ended
  | revoked pending => exact absurd pending ended
  | accepted pending => exact absurd pending ended
  | renewed pending => exact absurd pending ended

/-- The token stands with the invitation exactly while it is pending. -/
def TokenFits (invitation : EmployeeInvitation) : Prop :=
  invitation.tokenHash.isSome = true ↔ invitation.status = .pending

theorem Becomes.tokenFits (becomes : Becomes renewable invitation invitation') (fits : TokenFits invitation) :
    TokenFits invitation' := by
  cases becomes with
  | kept => exact fits
  | expired => simp [TokenFits, EmployeeInvitation.expire]
  | revoked => simp [TokenFits, EmployeeInvitation.revoke]
  | accepted => simp [TokenFits, EmployeeInvitation.accept]
  | renewed pending => simp [TokenFits, EmployeeInvitation.renew, pending]

/-- Nothing becomes pending again. -/
theorem Becomes.pending (becomes : Becomes renewable invitation invitation') (pending : invitation'.status = .pending) :
    invitation.status = .pending := by
  cases becomes with
  | kept => exact pending
  | expired before => exact before
  | revoked before => exact before
  | accepted before => exact before
  | renewed before => exact before

/-! ### The collection -/

/-- The pending invitations of an address. -/
def pendingFor (email : String) (invitation : EmployeeInvitation) : Bool :=
  invitation.email = email && invitation.status = .pending

/-- What holds of the collection at all times: ids are distinct and were issued, a token stands with exactly the pending
invitations, and an email has one of them. -/
structure InvitationsSound (db : Database) : Prop where
  ids : (db.invitations.map (·.id)).Nodup
  issued : ∀ invitation ∈ db.invitations, invitation.id < db.nextId
  tokens : ∀ invitation ∈ db.invitations, TokenFits invitation
  emails : ∀ email, countDocuments db.invitations (pendingFor email) ≤ 1

/-- An invitation moves from pending to accepted and the member it invites is created. -/
structure Accepted (tokenHash : Nat) (now : Int) (db db' : Database) (invitation : EmployeeInvitation)
    (member : User) : Prop where
  token : invitation.tokenHash = some tokenHash
  pending : invitation.status = .pending
  alive : now < invitation.expiresAt
  email : member.email = invitation.email
  company : member.companyId = invitation.companyId
  role : member.role = .companyMember
  users : db'.users = member :: db.users
  one : ∃ before after, db.invitations = before ++ invitation :: after ∧
    db'.invitations = before ++ invitation.accept now :: after

/-- Invitations whose time is over when an address is invited again. -/
def stale (email : String) (now : Int) (invitation : EmployeeInvitation) : Bool :=
  invitation.email = email && invitation.status = .pending && invitation.expiresAt ≤ now

/-- What a step does to the invitations and the users, if it may accept with the tokens in `accepting`. -/
inductive Move (renewable : Nat → Prop) (accepting : Nat → Int → Prop) (db db' : Database) : Prop where
  | idle (invitations : db'.invitations = db.invitations) (users : db'.users.Sublist db.users)
      (ids : db'.nextId = db.nextId)
  | purged (invitations : db'.invitations.Sublist db.invitations) (users : db'.users = db.users)
      (ids : db'.nextId = db.nextId)
  | issued (new : EmployeeInvitation) (now : Int) (named : new.id = db.nextId) (pending : new.status = .pending)
      (token : new.tokenHash.isSome = true) (ids : db'.nextId = db.nextId + 1) (users : db'.users = db.users)
      (invitations : db'.invitations = new :: updateMany (stale new.email now) EmployeeInvitation.expire db.invitations)
      (unique : countDocuments db'.invitations (pendingFor new.email) ≤ 1)
  | changed (before after : List EmployeeInvitation) (invitation invitation' : EmployeeInvitation)
      (becomes : Becomes renewable invitation invitation') (open' : invitation'.status ≠ .accepted)
      (first : db.invitations = before ++ invitation :: after)
      (second : db'.invitations = before ++ invitation' :: after) (users : db'.users = db.users)
      (ids : db'.nextId = db.nextId)
  | accepted (tokenHash : Nat) (now : Int) (permitted : accepting tokenHash now) (invitation : EmployeeInvitation)
      (member : User)
      (accepted : Accepted tokenHash now db db' invitation member) (named : member.id = db.nextId)
      (ids : db'.nextId = db.nextId + 1)

/-! ### What the operations do

Each operation is inverted once: where it commits, what it found and what it left. The moves that follow are stated
without the operations, and nothing below unfolds one. -/

variable {actor : AuthenticatedUser} {email : String} {tokenHash invitationId targetUserId : Nat} {now : Int}

theorem acquireLock_keeps {locked : Database} {companyId : Nat} {subscription : Subscription}
    (lock : db.acquireLock companyId = .ok (subscription, locked)) :
    locked.invitations = db.invitations ∧ locked.users = db.users ∧ locked.nextId = db.nextId := by
  unfold Database.acquireLock at lock
  split at lock
  · cases lock
  · cases lock
    exact ⟨rfl, rfl, rfl⟩

/-- An invitation is issued under a fresh id with its token. -/
theorem invite_ok {answer : EmployeeInvitation × String}
    (committed : db.invite actor email tokenHash now = .ok (answer, db')) :
    answer.1.id = db.nextId ∧ answer.1.tokenHash = some tokenHash ∧ answer.1 ∈ db'.invitations ∧ Move renewable accepting db db' := by
  obtain ⟨⟨subscription, locked⟩, lock, committed⟩ := bind_ok_iff.mp committed
  obtain ⟨_, _, committed⟩ := bind_ok_iff.mp committed
  obtain ⟨_, _, committed⟩ := bind_ok_iff.mp committed
  obtain ⟨company, _, committed⟩ := bind_ok_iff.mp committed
  obtain ⟨_, _, committed⟩ := bind_ok_iff.mp committed
  obtain ⟨_, unique, committed⟩ := bind_ok_iff.mp committed
  cases committed
  obtain ⟨invitations, users, ids⟩ := acquireLock_keeps lock
  have unique := require_ok_iff.mp unique
  simp only [Bool.and_eq_true] at unique
  refine ⟨ids, rfl, List.mem_cons_self, ?_⟩
  refine .issued
    { id := locked.nextId
      companyId := actor.companyId
      invitedBy := actor.id
      email := email
      tokenHash := some tokenHash
      expiresAt := now + invitationTokenTtlMs
      lastSentAt := now } now ids rfl rfl (congrArg (· + 1) ids) users ?_ ?_
  · rw [← invitations]
    rfl
  · exact of_decide_eq_true unique.1

/-- A resend renews one pending invitation of the company. -/
theorem resend_ok {answer : Option (String × String)}
    (committed : db.resend actor invitationId tokenHash now = .ok (answer, db')) :
    (db' = db ∧ ∀ invitation ∈ db.invitations, Database.resendable actor invitationId now invitation = false) ∨
      ∃ before invitation after, invitation.id = invitationId ∧ invitation.status = .pending ∧
      Database.resendable actor invitationId now invitation = true ∧ db.invitations = before ++ invitation :: after ∧
      db'.invitations = before ++ invitation.renew tokenHash now :: after ∧
      db'.users = db.users ∧ db'.nextId = db.nextId := by
  unfold Database.resend at committed
  split at committed
  · rename_i missing
    cases committed
    rw [findOneAndUpdate_none_iff, List.find?_eq_none] at missing
    exact .inl ⟨rfl, fun invitation mem => by simpa using missing invitation mem⟩
  · rename_i found
    split at committed
    · cases committed
      obtain ⟨before, invitation, after, split, matched, _, _, changed⟩ := findOneAndUpdate_split found
      have found := matched
      simp only [Database.resendable, Bool.and_eq_true, decide_eq_true_eq] at matched
      obtain ⟨⟨⟨⟨named, _⟩, pending⟩, _⟩, _⟩ := matched
      exact .inr ⟨before, invitation, after, named, pending, found, split, changed, rfl, rfl⟩
    · cases committed

theorem resend_move {answer : Option (String × String)}
    (committed : db.resend actor invitationId tokenHash now = .ok (answer, db')) :
    Move (fun id => id = invitationId ∧
      ∃ invitation ∈ db.invitations, Database.resendable actor id now invitation = true) accepting db db' := by
  rcases resend_ok committed with ⟨rfl, _⟩ | ⟨before, invitation, after, named, pending, found, first, second, users, ids⟩
  · exact .idle rfl (List.Sublist.refl _) rfl
  · have permitted : ∃ invitation ∈ db.invitations, Database.resendable actor invitationId now invitation = true :=
      ⟨invitation, by rw [first]; simp, found⟩
    refine .changed before after invitation _ (.renewed pending ⟨named, named ▸ permitted⟩ tokenHash now) ?_ first
      second users ids
    simp [EmployeeInvitation.renew, pending]

/-- An acceptance takes the one pending invitation with the token and creates its member. -/
theorem accept_ok {answer : Unit} (sound : InvitationsSound db)
    (committed : db.accept tokenHash now = .ok (answer, db')) :
    ∃ invitation member, Accepted tokenHash now db db' invitation member ∧ member.id = db.nextId ∧
      db'.nextId = db.nextId + 1 := by
  obtain ⟨invitation, first, committed⟩ := bind_ok_iff.mp committed
  obtain ⟨company, _, committed⟩ := bind_ok_iff.mp committed
  obtain ⟨_, _, committed⟩ := bind_ok_iff.mp committed
  obtain ⟨⟨subscription, locked⟩, lock, committed⟩ := bind_ok_iff.mp committed
  obtain ⟨_, _, committed⟩ := bind_ok_iff.mp committed
  obtain ⟨_, _, committed⟩ := bind_ok_iff.mp committed
  obtain ⟨⟨updated, changed⟩, found, committed⟩ := bind_ok_iff.mp committed
  cases committed
  obtain ⟨invitations, users, ids⟩ := acquireLock_keeps lock
  rw [orFail_ok_iff, invitations] at found
  obtain ⟨before, document, after, split, matched, _, _, changed⟩ := findOneAndUpdate_split found
  simp only [Database.acceptable, Bool.and_eq_true, decide_eq_true_eq] at matched
  obtain ⟨⟨named, company'⟩, ⟨token, pending⟩, alive⟩ := matched
  have firstMem := List.mem_of_find?_eq_some (orFail_ok_iff.mp first)
  have documentMem : document ∈ db.invitations := by
    rw [split]
    simp
  obtain rfl := List.inj_on_of_nodup_map sound.ids documentMem firstMem named
  exact ⟨document, _, ⟨token, pending, alive, rfl, rfl, rfl, by rw [← users], before, after, split, changed⟩, ids,
    congrArg (· + 1) ids⟩

theorem revoke_move {answer : Option EmployeeInvitation}
    (committed : db.revoke actor invitationId now = .ok (answer, db')) : Move renewable accepting db db' := by
  unfold Database.revoke at committed
  split at committed
  · cases committed
    exact .idle rfl (List.Sublist.refl _) rfl
  · rename_i found
    cases committed
    obtain ⟨before, invitation, after, split, matched, _, _, changed⟩ := findOneAndUpdate_split found
    simp only [Bool.and_eq_true, decide_eq_true_eq] at matched
    refine .changed before after invitation _ (.revoked matched.2 now) ?_ split changed rfl rfl
    simp [EmployeeInvitation.revoke]

theorem deleteUser_move {answer : Option User} (committed : db.deleteUser actor targetUserId = .ok (answer, db')) :
    Move renewable accepting db db' := by
  unfold Database.deleteUser at committed
  split at committed
  · cases committed
    exact .idle rfl (List.Sublist.refl _) rfl
  · rename_i found
    cases committed
    obtain ⟨before, after, split, _, changed⟩ := findOneAndDelete_split found
    refine .idle rfl ?_ rfl
    rw [split, changed]
    exact (List.sublist_cons_self _ _).append_left before

theorem changePlan_move {planCode : PlanCode} {answer : Unit}
    (committed : db.changePlan actor planCode now = .ok (answer, db')) : Move renewable accepting db db' := by
  obtain ⟨⟨subscription, locked⟩, lock, committed⟩ := bind_ok_iff.mp committed
  obtain ⟨changed, _, committed⟩ := bind_ok_iff.mp committed
  cases committed
  obtain ⟨invitations, users, ids⟩ := acquireLock_keeps lock
  exact .idle invitations (by rw [Database.saveSubscription, users]) ids

/-! ### The invariant -/

/-- Where an invitation of the next state comes from. -/
theorem Move.origin (move : Move renewable accepting db db') :
    ∀ invitation' ∈ db'.invitations, (∃ invitation ∈ db.invitations, Becomes renewable invitation invitation') ∨
      invitation'.id = db.nextId ∧ db'.nextId = db.nextId + 1 ∧ invitation'.status = .pending ∧
        invitation'.tokenHash.isSome = true := by
  intro invitation' mem
  cases move with
  | idle invitations =>
      rw [invitations] at mem
      exact .inl ⟨invitation', mem, .kept⟩
  | purged invitations => exact .inl ⟨invitation', invitations.subset mem, .kept⟩
  | issued new now named pending token ids users invitations =>
      rw [invitations] at mem
      rcases List.mem_cons.mp mem with rfl | mem
      · exact .inr ⟨named, ids, pending, token⟩
      · obtain ⟨invitation, before, rfl⟩ := List.mem_map.mp mem
        refine .inl ⟨invitation, before, ?_⟩
        split
        · rename_i outdated
          simp only [stale, Bool.and_eq_true, decide_eq_true_eq] at outdated
          exact .expired outdated.1.2
        · exact .kept
  | changed before after invitation changed becomes _ first second =>
      rw [second] at mem
      rw [first]
      rcases List.mem_append.mp mem with mem | mem
      · exact .inl ⟨invitation', List.mem_append_left _ mem, .kept⟩
      · rcases List.mem_cons.mp mem with rfl | mem
        · exact .inl ⟨invitation, by simp, becomes⟩
        · exact .inl ⟨invitation', by simp [mem], .kept⟩
  | accepted tokenHash now permitted invitation member accepted =>
      obtain ⟨before, after, first, second⟩ := accepted.one
      rw [second] at mem
      rw [first]
      rcases List.mem_append.mp mem with mem | mem
      · exact .inl ⟨invitation', List.mem_append_left _ mem, .kept⟩
      · rcases List.mem_cons.mp mem with rfl | mem
        · exact .inl ⟨invitation, by simp, .accepted accepted.pending now⟩
        · exact .inl ⟨invitation', by simp [mem], .kept⟩

theorem Move.ids_le (move : Move renewable accepting db db') : db.nextId ≤ db'.nextId := by
  cases move
  case idle ids => exact Nat.le_of_eq ids.symm
  case purged ids => exact Nat.le_of_eq ids.symm
  case issued ids _ _ _ => omega
  case changed ids => exact Nat.le_of_eq ids.symm
  case accepted ids => omega

theorem map_id_updateMany (email : String) (now : Int) (invitations : List EmployeeInvitation) :
    (updateMany (stale email now) EmployeeInvitation.expire invitations).map (·.id) = invitations.map (·.id) := by
  rw [updateMany, List.map_map]
  refine List.map_congr_left fun invitation _ => ?_
  simp only [Function.comp]
  split <;> rfl

/-- The ids of the collection stay distinct. -/
theorem Move.ids_nodup (move : Move renewable accepting db db') (sound : InvitationsSound db) :
    (db'.invitations.map (·.id)).Nodup := by
  have distinct := sound.ids
  cases move with
  | idle invitations =>
      rw [invitations]
      exact distinct
  | purged invitations => exact distinct.sublist (invitations.map _)
  | issued new now named pending token ids users invitations =>
      rw [invitations, List.map_cons, map_id_updateMany, List.nodup_cons]
      refine ⟨fun mem => ?_, distinct⟩
      obtain ⟨invitation, before, same⟩ := List.mem_map.mp mem
      have issued := sound.issued invitation before
      omega
  | changed before after invitation changed becomes _ first second =>
      rw [first] at distinct
      rw [second]
      simpa [becomes.id_eq] using distinct
  | accepted tokenHash now permitted invitation member accepted =>
      obtain ⟨before, after, first, second⟩ := accepted.one
      rw [first] at distinct
      rw [second]
      simpa [EmployeeInvitation.accept] using distinct

/-- An address has at most one pending invitation: no step but an invite adds one, and an invite checks. -/
theorem Move.emails_unique (move : Move renewable accepting db db') (sound : InvitationsSound db) (email : String) :
    countDocuments db'.invitations (pendingFor email) ≤ 1 := by
  have unique := sound.emails email
  cases move with
  | idle invitations =>
      rw [invitations]
      exact unique
  | purged invitations => exact Nat.le_trans invitations.countP_le unique
  | issued new now named pending token ids users invitations checked =>
      by_cases same : new.email = email
      · rw [← same]
        exact checked
      · rw [invitations, countDocuments_cons]
        have other : pendingFor email new = false := by simp [pendingFor, same]
        rw [other, if_neg Bool.false_ne_true]
        refine Nat.le_trans (countDocuments_updateMany_le db.invitations fun invitation _ counts => ?_) unique
        simp [pendingFor, EmployeeInvitation.expire] at counts
  | changed before after invitation changed becomes _ first second =>
      rw [first] at unique
      rw [second]
      simp only [countDocuments_append, countDocuments_cons] at unique ⊢
      have fewer : pendingFor email changed = true → pendingFor email invitation = true := by
        intro counts
        simp only [pendingFor, Bool.and_eq_true, decide_eq_true_eq] at counts ⊢
        exact ⟨becomes.email_eq ▸ counts.1, becomes.pending counts.2⟩
      by_cases counts : pendingFor email changed = true
      · rw [if_pos counts]
        rwa [if_pos (fewer counts)] at unique
      · rw [if_neg counts]
        omega
  | accepted tokenHash now permitted invitation member accepted =>
      obtain ⟨before, after, first, second⟩ := accepted.one
      rw [first] at unique
      rw [second]
      simp only [countDocuments_append, countDocuments_cons] at unique ⊢
      have closed : pendingFor email (invitation.accept now) = false := by
        simp [pendingFor, EmployeeInvitation.accept]
      rw [closed, if_neg Bool.false_ne_true]
      omega

theorem Move.sound (move : Move renewable accepting db db') (sound : InvitationsSound db) : InvitationsSound db' where
  ids := move.ids_nodup sound
  emails := move.emails_unique sound
  issued invitation' mem := by
    have ids := move.ids_le
    rcases move.origin invitation' mem with ⟨invitation, before, becomes⟩ | ⟨named, next, _⟩
    · rw [becomes.id_eq]
      exact Nat.lt_of_lt_of_le (sound.issued invitation before) ids
    · omega
  tokens invitation' mem := by
    rcases move.origin invitation' mem with ⟨invitation, before, becomes⟩ | ⟨_, _, pending, token⟩
    · exact becomes.tokenFits (sound.tokens invitation before)
    · simp [TokenFits, pending, token]

/-! ### Steps -/

theorem transact_ok {α : Type} {choice : SeatChoice} {w w' : SeatWorld} {answer : Except Failure α}
    {work : Except Failure (α × Database)} (executed : transact choice w work = some (answer, w')) :
    w' = w ∨ ∃ value db', work = .ok (value, db') ∧ choice.aborted = false ∧ answer = .ok value ∧
      w' = { w with db := db' } := by
  unfold transact at executed
  split at executed
  · cases executed
    exact .inl rfl
  · rename_i through
    split at executed
    · cases executed
      exact .inl rfl
    · cases executed
      exact .inr ⟨_, _, rfl, by simpa using through, rfl, rfl⟩

theorem Becomes.weaken {renewable' : Nat → Prop} (becomes : Becomes renewable invitation invitation')
    (more : ∀ id, renewable id → renewable' id) : Becomes renewable' invitation invitation' := by
  cases becomes with
  | kept => exact .kept
  | expired pending => exact .expired pending
  | revoked pending now => exact .revoked pending now
  | accepted pending now => exact .accepted pending now
  | renewed pending permitted tokenHash now => exact .renewed pending (more _ permitted) tokenHash now

theorem Move.weaken {renewable' : Nat → Prop} {accepting' : Nat → Int → Prop} (move : Move renewable accepting db db')
    (more : ∀ id, renewable id → renewable' id)
    (further : ∀ tokenHash now, accepting tokenHash now → accepting' tokenHash now) :
    Move renewable' accepting' db db' := by
  cases move with
  | idle invitations users ids => exact .idle invitations users ids
  | purged invitations users ids => exact .purged invitations users ids
  | issued new now named pending token ids users invitations unique =>
      exact .issued new now named pending token ids users invitations unique
  | changed before after invitation invitation' becomes open' first second users ids =>
      exact .changed before after invitation invitation' (becomes.weaken more) open' first second users ids
  | accepted tokenHash now permitted invitation member accepted named ids =>
      exact .accepted tokenHash now (further tokenHash now permitted) invitation member accepted named ids

theorem Move.none : Move renewable accepting db db := .idle rfl (List.Sublist.refl _) rfl

theorem move_of_transact {α : Type} {choice : SeatChoice} {w w' : SeatWorld} {answer : Except Failure α}
    {work : Except Failure (α × Database)} (executed : transact choice w work = some (answer, w'))
    (moves : ∀ value db', work = .ok (value, db') → choice.aborted = false → Move renewable accepting w.db db') :
    Move renewable accepting w.db w'.db := by
  rcases transact_ok executed with rfl | ⟨value, db', committed, through, _, rfl⟩
  · exact .none
  · exact moves value db' committed through

variable {w w' : SeatWorld} {choice : SeatChoice} {act : SeatAct} {answer : act.Res}

/-- The action is a resend that finds the invitation. -/
def SeatAct.Renews (act : SeatAct) (choice : SeatChoice) (db : Database) (id : Nat) : Prop :=
  ∃ actor tokenHash now, act = .resend actor id tokenHash now ∧ choice.aborted = false ∧
    (∃ invitation ∈ db.invitations, Database.resendable actor id now invitation = true) ∧
    ∃ committed, db.resend actor id tokenHash now = .ok committed

theorem move_of_exec (run : Nat) (sound : InvitationsSound w.db)
    (executed : seatExec run choice act w = some (answer, w')) :
    Move (act.Renews choice w.db) (fun tokenHash now => act = .accept tokenHash now) w.db w'.db := by
  cases act with
  | now =>
      cases executed
      exact .none
  | generateToken =>
      cases executed
      exact .none
  | invite actor email tokenHash now =>
      exact move_of_transact executed fun _ _ committed _ => (invite_ok committed).2.2.2
  | resend actor invitationId tokenHash now =>
      refine move_of_transact executed fun _ _ committed through => (resend_move committed).weaken ?_ fun _ _ => id
      rintro id ⟨rfl, found⟩
      exact ⟨actor, tokenHash, now, rfl, through, found, _, committed⟩
  | accept tokenHash now =>
      refine move_of_transact executed fun _ _ committed _ => ?_
      obtain ⟨invitation, member, accepted, named, ids⟩ := accept_ok sound committed
      exact .accepted tokenHash now rfl invitation member accepted named ids
  | revoke actor invitationId now =>
      exact move_of_transact executed fun _ _ committed _ => revoke_move committed
  | findUser actor targetUserId =>
      simp only [seatExec, Database.findUser] at executed
      refine move_of_transact executed fun _ _ committed _ => ?_
      cases committed
      exact .none
  | deleteUser actor targetUserId =>
      exact move_of_transact executed fun _ _ committed _ => deleteUser_move committed
  | changePlan actor planCode changedAt =>
      exact move_of_transact executed fun _ _ committed _ => changePlan_move committed
  | sendEmployeeInvitation email companyName token =>
      cases executed
      exact .none

theorem move_of_drift {change : SeatDrift} (drifted : seatDrift change w = some w') : Move renewable accepting w.db w'.db := by
  cases change with
  | tick elapsed =>
      cases drifted
      exact .none
  | purge invitationId =>
      obtain ⟨⟨deleted, invitations⟩, found, rfl⟩ := Option.map_eq_some_iff.mp drifted
      obtain ⟨before, after, split, _, changed⟩ := findOneAndDelete_split found
      refine .purged ?_ rfl rfl
      change List.Sublist invitations w.db.invitations
      rw [split, changed]
      exact (List.sublist_cons_self _ _).append_left before
  | company companyId company =>
      cases drifted
      exact .idle rfl (List.Sublist.refl _) rfl
  | files companyId stored =>
      cases drifted
      exact .idle rfl (List.Sublist.refl _) rfl

abbrev SeatSystem := System SeatAct SeatAct.Res SeatWorld (Except Failure SeatReply)

abbrev SeatEvent := Event SeatChoice SeatDrift SeatJob

variable {hashToken : Nat → Nat} {s s' s'' : SeatSystem} {event : SeatEvent}

/-- The step is a resend that finds the invitation and puts this token there. -/
def ResendsWith (id tokenHash : Nat) (s : SeatSystem) (event : SeatEvent) : Prop :=
  ∃ run choice actor now resume, event = .step run choice ∧ choice.aborted = false ∧
    s.runs[run]? = some (.await (.resend actor id tokenHash now) resume) ∧
    (∃ invitation ∈ s.world.db.invitations, Database.resendable actor id now invitation = true) ∧
    ∃ committed, s.world.db.resend actor id tokenHash now = .ok committed

/-- The step renews the token of the invitation. -/
def Resends (id : Nat) (s : SeatSystem) (event : SeatEvent) : Prop := ∃ tokenHash, ResendsWith id tokenHash s event

/-- The step is the transaction of an `accept` request. -/
def Accepts (tokenHash : Nat) (now : Int) (s : SeatSystem) (event : SeatEvent) : Prop :=
  ∃ run choice resume, event = .step run choice ∧ s.runs[run]? = some (.await (.accept tokenHash now) resume)

/-- Every event of every interleaving is one move. -/
theorem move_of_apply (sound : InvitationsSound s.world.db) (applied : (seatMachine hashToken).apply s event = some s') :
    Move (fun id => Resends id s event) (fun tokenHash now => Accepts tokenHash now s event) s.world.db s'.world.db := by
  cases Machine.apply_moves applied with
  | arrival job same =>
      rw [same]
      exact .none
  | action waiting executed =>
      refine (move_of_exec 0 sound executed).weaken ?_ ?_
      · rintro id ⟨actor, tokenHash, now, rfl, through, found, committed⟩
        exact ⟨tokenHash, _, _, actor, now, _, rfl, through, waiting, found, committed⟩
      · rintro tokenHash now rfl
        exact ⟨_, _, _, rfl, waiting⟩
  | drifted happened => exact move_of_drift happened

/-! ### Tokens -/

/-- The digest that an action carries is one of a token. -/
def SeatAct.Hashed (hashToken : Nat → Nat) : SeatAct → Prop
  | .invite _ _ tokenHash _ | .resend _ _ tokenHash _ | .accept tokenHash _ => ∃ token, hashToken token = tokenHash
  | _ => True

theorem every_ask {P : SeatAct → Prop} {act : SeatAct} (holds : P act) : Process.Every P (ask act).run :=
  ⟨holds, fun _ => trivial⟩

theorem handler_hashed (hashToken : Nat → Nat) (job : SeatJob) :
    Process.Every (SeatAct.Hashed hashToken) (job.handler hashToken).run := by
  cases job with
  | invite actor email =>
      refine Process.every_bind (every_ask trivial) fun now => Process.every_bind Process.every_liftExcept fun _ => ?_
      refine Process.every_bind (every_ask trivial) fun token => ?_
      refine Process.every_bind (every_ask ⟨token, rfl⟩) fun answer => ?_
      split
      · trivial
      · trivial
      · refine Process.every_bind (every_ask trivial) fun sent => ?_
        split <;> trivial
  | resend actor invitationId =>
      refine Process.every_bind (every_ask trivial) fun now => Process.every_bind Process.every_liftExcept fun _ => ?_
      refine Process.every_bind (every_ask trivial) fun token => ?_
      refine Process.every_bind (every_ask ⟨token, rfl⟩) fun answer => ?_
      split
      · trivial
      · trivial
      · exact Process.every_bind (every_ask trivial) fun _ => trivial
  | accept token =>
      refine Process.every_bind (every_ask trivial) fun now => ?_
      refine Process.every_bind (every_ask ⟨token, rfl⟩) fun answer => ?_
      split <;> trivial
  | revoke actor invitationId =>
      refine Process.every_bind (every_ask trivial) fun now => Process.every_bind Process.every_liftExcept fun _ => ?_
      refine Process.every_bind (every_ask trivial) fun answer => ?_
      split <;> trivial
  | deleteUser actor targetUserId =>
      refine Process.every_bind Process.every_liftExcept fun _ => Process.every_bind (every_ask trivial) fun found => ?_
      split
      · trivial
      · trivial
      · split
        · trivial
        · refine Process.every_bind (every_ask trivial) fun deleted => ?_
          split <;> trivial
  | changePlan actor planCode =>
      refine Process.every_bind Process.every_liftExcept fun _ => Process.every_bind (every_ask trivial) fun now => ?_
      refine Process.every_bind (every_ask trivial) fun answer => ?_
      split <;> trivial

/-- What holds in every state that a system without invitations reaches. -/
structure SystemSound (hashToken : Nat → Nat) (s : SeatSystem) : Prop where
  sound : InvitationsSound s.world.db
  hashed : ∀ (run : Nat) process, s.runs[run]? = some process → Process.Every (SeatAct.Hashed hashToken) process

variable {ok : SeatSystem → SeatEvent → Prop} {events later : List SeatEvent}

theorem SystemSound.along (start : SystemSound hashToken s) (reached : (seatMachine hashToken).Run ok s events s') :
    SystemSound hashToken s' where
  hashed := Machine.Run.processes _ (handler_hashed hashToken) (fun _ _ every => every.2) reached start.hashed
  sound := reached.keeps (P := fun s => InvitationsSound s.world.db)
    (fun _ _ _ sound _ applied => (move_of_apply sound applied).sound sound) start.sound

theorem systemSound_fresh (idle : s.runs = []) (none : s.world.db.invitations = []) : SystemSound hashToken s where
  sound := by constructor <;> simp [none, countDocuments]
  hashed run process present := by
    rw [idle] at present
    cases present

/-- Properties of the collections that every permitted move keeps hold along every run. -/
theorem keeps_run {P : Database → Prop}
    (kept : ∀ (s : SeatSystem) (event : SeatEvent) (s' : SeatSystem), ok s event →
      Move (fun id => Resends id s event) (fun tokenHash now => Accepts tokenHash now s event) s.world.db s'.world.db →
      P s.world.db → P s'.world.db)
    (start : SystemSound hashToken s) (reached : (seatMachine hashToken).Run ok s events s')
    (holds : P s.world.db) : P s'.world.db := by
  have both := reached.keeps (P := fun s => InvitationsSound s.world.db ∧ P s.world.db) ?_ ⟨start.sound, holds⟩
  · exact both.2
  · rintro s event s' ⟨sound, holds⟩ permitted applied
    have move := move_of_apply sound applied
    exact ⟨move.sound sound, kept _ _ _ permitted move holds⟩

/-! ### The lifecycle

Three facts about one invitation are carried along runs, each kept by every move: that it has ended, how it has
ended, and which digest may still accept it. The last one needs that a digest, once replaced, is never stored again.
-/

/-- The invitation has ended or is gone. What has ended never opens again, so this lasts. -/
def Closed (id : Nat) (db : Database) : Prop :=
  id < db.nextId ∧ ∀ invitation ∈ db.invitations, invitation.id = id → invitation.status ≠ .pending

theorem Move.closed (move : Move renewable accepting db db') {id : Nat} (closed : Closed id db) : Closed id db' := by
  refine ⟨Nat.lt_of_lt_of_le closed.1 move.ids_le, fun invitation' mem same => ?_⟩
  rcases move.origin invitation' mem with ⟨invitation, before, becomes⟩ | ⟨named, _⟩
  · have ended := closed.2 invitation before (becomes.id_eq.symm.trans same)
    rwa [becomes.absorbing ended]
  · have earlier := closed.1
    omega

/-- The invitation has ended as this document or is gone. -/
def EndedAs (invitation : EmployeeInvitation) (db : Database) : Prop :=
  invitation.id < db.nextId ∧ ∀ other ∈ db.invitations, other.id = invitation.id → other = invitation

theorem Move.endedAs (move : Move renewable accepting db db') (ended : invitation.status ≠ .pending) (stands : EndedAs invitation db) :
    EndedAs invitation db' := by
  refine ⟨Nat.lt_of_lt_of_le stands.1 move.ids_le, fun other' mem same => ?_⟩
  rcases move.origin other' mem with ⟨other, before, becomes⟩ | ⟨named, _⟩
  · obtain rfl := stands.2 other before (becomes.id_eq.symm.trans same)
    exact becomes.absorbing ended
  · have earlier := stands.1
    omega

/-- No other digest than this one stands with the invitation. -/
def OnlyToken (id tokenHash : Nat) (db : Database) : Prop :=
  id < db.nextId ∧ ∀ invitation ∈ db.invitations, invitation.id = id →
    ∀ other, invitation.tokenHash = some other → other = tokenHash

/-- A move that may not replace the token of the invitation does not. -/
theorem Move.onlyToken (move : Move renewable accepting db db') {id tokenHash : Nat} (only : OnlyToken id tokenHash db)
    (unrenewed : ¬renewable id) : OnlyToken id tokenHash db' := by
  refine ⟨Nat.lt_of_lt_of_le only.1 move.ids_le, fun invitation' mem same => ?_⟩
  rcases move.origin invitation' mem with ⟨invitation, before, becomes⟩ | ⟨named, _⟩
  · have named := becomes.id_eq.symm.trans same
    cases becomes with
    | kept => exact only.2 invitation' before same
    | expired | revoked | accepted =>
        intro other token
        cases token
    | renewed pending permitted => exact absurd (named ▸ permitted) unrenewed
  · have earlier := only.1
    omega

/-! ### The law of invitations -/

/-- The step accepts the invitation with this token and creates its member. -/
def AcceptedBy (hashToken : Nat → Nat) (token : Nat) (s s' : SeatSystem) (event : SeatEvent)
    (invitation : EmployeeInvitation) (member : User) : Prop :=
  ∃ now, Accepts (hashToken token) now s event ∧
    Accepted (hashToken token) now s.world.db s'.world.db invitation member

/-- The token stands with the invitation. -/
def Carries (hashToken : Nat → Nat) (token id : Nat) (db : Database) : Prop :=
  ∃ invitation ∈ db.invitations, invitation.id = id ∧ invitation.tokenHash = some (hashToken token)

/-- The step creates no user and accepts no invitation. -/
def AcceptsNone (db db' : Database) : Prop :=
  db'.users.Sublist db.users ∧
    ∀ invitation ∈ db'.invitations, invitation.status = .accepted → invitation ∈ db.invitations

/-- What every reachable state and every run from there on obeys. The first fields are about the state, the others about
the steps and the runs that begin there. -/
structure InvitationLaw (hashToken : Nat → Nat) (ok : SeatSystem → SeatEvent → Prop) (s : SeatSystem) : Prop where
  /-- The token is present iff the invitation is pending. -/
  token : ∀ invitation ∈ s.world.db.invitations, invitation.tokenHash.isSome = true ↔ invitation.status = .pending
  /-- At most one pending invitation for each address. -/
  pending : ∀ email, countDocuments s.world.db.invitations (pendingFor email) ≤ 1
  /-- An invitation that is not pending stays as it is. -/
  absorbing : ∀ later s', (seatMachine hashToken).Run ok s later s' → ∀ invitation ∈ s.world.db.invitations,
    invitation.status ≠ .pending → ∀ invitation' ∈ s'.world.db.invitations, invitation'.id = invitation.id →
      invitation' = invitation
  /-- An invitation that is not pending is closed. -/
  ended : ∀ invitation ∈ s.world.db.invitations, invitation.status ≠ .pending → Closed invitation.id s.world.db
  /-- A step creates a member together with an acceptance, or neither. -/
  member : ∀ event s', (seatMachine hashToken).apply s event = some s' →
    (∃ token invitation member, AcceptedBy hashToken token s s' event invitation member) ∨
      AcceptsNone s.world.db s'.world.db
  /-- An accepted, revoked or expired invitation is accepted by no later step, whatever the token. -/
  once : ∀ later s' id, Closed id s.world.db → (seatMachine hashToken).Run ok s later s' →
    ∀ event s'' token invitation member, (seatMachine hashToken).apply s' event = some s'' →
      AcceptedBy hashToken token s' s'' event invitation member → invitation.id ≠ id
  /-- An acceptance closes its invitation. -/
  closes : ∀ event s' token invitation member, (seatMachine hashToken).apply s event = some s' →
    AcceptedBy hashToken token s s' event invitation member → Closed invitation.id s'.world.db
  /-- A resend puts its own token there. -/
  renewed : ∀ event s' id tokenHash, (seatMachine hashToken).apply s event = some s' →
    ResendsWith id tokenHash s event → ∃ token, hashToken token = tokenHash ∧ Carries hashToken token id s'.world.db
  /-- Until the next resend no other token than the one that stands there accepts the invitation. -/
  latest : ∀ later s' token id, Carries hashToken token id s.world.db →
    (seatMachine hashToken).Run (fun s event => ok s event ∧ ¬Resends id s event) s later s' →
    ∀ event s'' token' invitation member, (seatMachine hashToken).apply s' event = some s'' →
      AcceptedBy hashToken token' s' s'' event invitation member → invitation.id = id → token' = token

theorem Accepted.mem {member : User} (accepted : Accepted tokenHash now db db' invitation member) :
    invitation ∈ db.invitations ∧ invitation.accept now ∈ db'.invitations := by
  obtain ⟨before, after, first, second⟩ := accepted.one
  rw [first, second]
  constructor <;> simp

/-- A move that may accept with no token accepts nothing. -/
theorem Move.acceptsNone (move : Move renewable accepting db db') :
    AcceptsNone db db' ∨ ∃ tokenHash now invitation member, accepting tokenHash now ∧
      Accepted tokenHash now db db' invitation member := by
  cases move with
  | idle invitations users ids => exact .inl ⟨users, fun invitation mem _ => invitations ▸ mem⟩
  | purged invitations users ids => exact .inl ⟨by rw [users], fun invitation mem _ => invitations.subset mem⟩
  | issued new now named pending token ids users invitations =>
      refine .inl ⟨by rw [users], fun invitation mem accepted => ?_⟩
      rw [invitations] at mem
      rcases List.mem_cons.mp mem with rfl | mem
      · rw [pending] at accepted
        cases accepted
      · obtain ⟨before, beforeMem, rfl⟩ := List.mem_map.mp mem
        split at accepted
        · cases accepted
        · rename_i fresh
          rw [if_neg fresh]
          exact beforeMem
  | changed before after invitation changed becomes open' first second users =>
      refine .inl ⟨by rw [users], fun other mem accepted => ?_⟩
      rw [second] at mem
      rw [first]
      rcases List.mem_append.mp mem with mem | mem
      · exact List.mem_append_left _ mem
      · rcases List.mem_cons.mp mem with rfl | mem
        · exact absurd accepted open'
        · simp [mem]
  | accepted tokenHash now permitted invitation member accepted =>
      exact .inr ⟨tokenHash, now, invitation, member, permitted, accepted⟩

theorem onlyToken_of_carries {token id : Nat} (sound : InvitationsSound db) (carries : Carries hashToken token id db) :
    OnlyToken id (hashToken token) db := by
  obtain ⟨invitation, mem, rfl, stands⟩ := carries
  refine ⟨sound.issued invitation mem, fun other otherMem same tokenHash found => ?_⟩
  rw [List.inj_on_of_nodup_map sound.ids otherMem mem same, stands] at found
  exact (Option.some.inj found).symm

/-- Every state that a system without invitations reaches obeys the law of invitations, and so does every run from there
on, for all clocks that the requests capture and all interleavings of their transactions; the digest of tokens has no
collisions. -/
theorem invitation_lifecycle (collisionFree : Function.Injective hashToken) (idle : s.runs = [])
    (none : s.world.db.invitations = []) (reached : (seatMachine hashToken).Run ok s events s') :
    InvitationLaw hashToken ok s' := by
  have all := (systemSound_fresh idle none).along reached
  constructor
  case token => exact all.sound.tokens
  case pending => exact all.sound.emails
  case absorbing =>
    intro later s'' run invitation mem ended invitation' mem' same
    have stands : EndedAs invitation s'.world.db :=
      ⟨all.sound.issued invitation mem, fun other otherMem same =>
        List.inj_on_of_nodup_map all.sound.ids otherMem mem same⟩
    exact (keeps_run (fun _ _ _ _ move stands => move.endedAs ended stands) all run stands).2 invitation' mem' same
  case ended =>
    intro invitation mem ended
    refine ⟨all.sound.issued invitation mem, fun other otherMem same => ?_⟩
    rw [List.inj_on_of_nodup_map all.sound.ids otherMem mem same]
    exact ended
  case member =>
    intro event s'' applied
    rcases (move_of_apply all.sound applied).acceptsNone with none | ⟨tokenHash, now, invitation, member, accepts, done⟩
    · exact .inr none
    · obtain ⟨run, choice, resume, same, waiting⟩ := accepts
      obtain ⟨token, rfl⟩ := (all.hashed run _ waiting).1
      exact .inl ⟨token, invitation, member, now, ⟨run, choice, resume, same, waiting⟩, done⟩
  case once =>
    intro later s'' id closed run event s₃ token invitation member _ accepted same
    have closed := keeps_run (fun _ _ _ _ move closed => move.closed closed) all run closed
    obtain ⟨now, _, done⟩ := accepted
    exact closed.2 invitation done.mem.1 same done.pending
  case closes =>
    intro event s'' token invitation member applied accepted
    obtain ⟨now, _, done⟩ := accepted
    have sound := (move_of_apply all.sound applied).sound all.sound
    have issued := sound.issued _ done.mem.2
    refine ⟨issued, fun other mem same => ?_⟩
    rw [List.inj_on_of_nodup_map sound.ids mem done.mem.2 same]
    simp [EmployeeInvitation.accept]
  case renewed =>
    rintro event s'' id tokenHash applied ⟨run, choice, actor, now, resume, rfl, through, waiting, found, committed⟩
    obtain ⟨token, rfl⟩ := (all.hashed run _ waiting).1
    refine ⟨token, rfl, ?_⟩
    simp only [Machine.apply, waiting] at applied
    obtain ⟨⟨answer, world⟩, executed, rfl⟩ := Option.map_eq_some_iff.mp applied
    obtain ⟨⟨value, db'⟩, committed⟩ := committed
    change transact choice s'.world (s'.world.db.resend actor id (hashToken token) now) = _ at executed
    rw [committed, transact, through] at executed
    cases executed
    obtain ⟨invitation, mem, resendable⟩ := found
    rcases resend_ok committed with ⟨_, missing⟩ | ⟨before, renewed, after, named, _, _, _, second, _⟩
    · exact absurd (missing invitation mem) (by simp [resendable])
    · exact ⟨renewed.renew (hashToken token) now, by rw [second]; simp, named, rfl⟩
  case latest =>
    intro later s'' token id carries run event s₃ token' invitation member _ accepted same
    have only := keeps_run (fun s event s' permitted move only => move.onlyToken only permitted.2) all run
      (onlyToken_of_carries all.sound carries)
    obtain ⟨now, _, done⟩ := accepted
    exact collisionFree (only.2 invitation done.mem.1 same _ done.token)

/-! ### A run -/

/-- An activated company on Basic with its owner and no invitation. -/
def newcomer : SeatSystem where
  world :=
    { clock := 0
      lastNow := 0
      db :=
        { users := [{ id := 0, email := "owner", companyId := 1, role := .companyOwner }]
          invitations := []
          companies := fun _ => some { name := "", activatedAt := some 0 }
          subscriptions := fun companyId =>
            some { companyId := companyId, planCode := .basic, activatedAt := 0, planChangedAt := 0 }
          storedFiles := fun _ => 0
          nextId := 1 } }
  runs := []

/-- An employee is invited, the invitation is resent a minute later and accepted with its second token. -/
def invitedTwice : List SeatEvent :=
  .arrive (.invite ⟨0, 1, .companyOwner⟩ "employee") :: List.replicate 4 (.step 0 { token := 10 }) ++
    .drift (.tick 60000) :: .arrive (.resend ⟨0, 1, .companyOwner⟩ 1) :: List.replicate 4 (.step 1 { token := 11 }) ++
      .arrive (.accept 10) :: List.replicate 2 (.step 2 {}) ++ .arrive (.accept 11) :: List.replicate 2 (.step 3 {})

/-- The first token is refused and the second one creates the member. -/
theorem invitation_lifecycle_resent :
    ∃ s', (seatMachine id).play invitedTwice newcomer = some s' ∧ InvitationLaw id (fun _ _ => True) s' ∧
      s'.world.db.users.map (·.email) = ["employee", "owner"] ∧
      s'.world.db.invitations.map (·.status) = [.accepted] := by
  have plays : ((seatMachine id).play invitedTwice newcomer).any fun s' => decide
      (s'.world.db.users.map (·.email) = ["employee", "owner"] ∧
        s'.world.db.invitations.map (·.status) = [.accepted]) := by decide +kernel
  obtain ⟨s', played, checked⟩ := (Option.any_eq_true ..).mp plays
  obtain ⟨users, invitations⟩ := of_decide_eq_true checked
  exact ⟨s', played,
    invitation_lifecycle Function.injective_id rfl rfl (Machine.run_of_play (s := newcomer) played), users, invitations⟩

end DataVault.Invitations
