/-
Module: DataVault.Admin.Outbox
Layer: Proof
Purpose: The system of all requests: which action a step carries out, that links go to the address of their request
  alone, and what therefore holds in every reachable state.
Imports: DataVault.Admin.AccessInvariants
Trusted boundary: none
Main exports: Performs, move_apply, accessContract, OutboxAddressed, Reachable, reachable_of_run
-/
import DataVault.Admin.AccessInvariants

namespace DataVault.Admin

open DataVault.Auth (AuthFailure Bcrypt Fate)
open DataVault.Control DataVault.Interleaving DataVault.Store

variable {hashToken : Nat → Nat} {bcrypt : Bcrypt}
variable {w w' : AdminWorld} {act : Option AdminAct}
variable {token actorId id : Nat} {email fullName : String} {reason : Option String} {now : Int}

/-! ### Steps of the system -/

abbrev AdminSystem := System AdminAct AdminAct.Res AdminWorld (Except AuthFailure AdminReply)

abbrev AdminEvent := Event AdminChoice AdminDrift AdminJob

/-- The runs of the system, with nothing asked of their steps. -/
abbrev AdminRun (hashToken : Nat → Nat) (bcrypt : Bcrypt) : AdminSystem → List AdminEvent → AdminSystem → Prop :=
  (adminMachine hashToken bcrypt).Run fun _ _ => True

variable {s s' : AdminSystem} {event : AdminEvent} {events : List AdminEvent}

/-- The event carries out this action. -/
def Performs (act : AdminAct) (s : AdminSystem) (event : AdminEvent) : Prop :=
  ∃ run choice resume, event = .step run choice ∧ s.runs[run]? = some (.await act resume)

theorem Performs.unique {one two : AdminAct} (first : Performs one s event) (second : Performs two s event) :
    one = two := by
  obtain ⟨run, choice, resume, rfl, waiting⟩ := first
  obtain ⟨_, _, _, same, there⟩ := second
  cases same
  cases waiting.symm.trans there
  rfl

/-- Every event moves the collections, by the action it carries out if it is one. -/
theorem move_apply (sound : RequestsSound hashToken s.world)
    (applied : (adminMachine hashToken bcrypt).apply s event = some s') :
    ∃ act, Move hashToken s.world s'.world act ∧ ∀ performed, act = some performed ↔ Performs performed s event := by
  cases Machine.apply_moves applied with
  | arrival job same =>
      refine ⟨none, same ▸ .same, fun performed => ⟨nofun, fun performs => ?_⟩⟩
      obtain ⟨_, _, _, same, _⟩ := performs
      cases same
  | @action run choice act resume answer waiting executed =>
      refine ⟨some act, move_exec sound.ids executed, fun performed => ⟨fun same => ?_, fun performs => ?_⟩⟩
      · cases same
        exact ⟨run, choice, resume, rfl, waiting⟩
      · exact congrArg some (Performs.unique ⟨run, choice, resume, rfl, waiting⟩ performs)
  | drifted happened =>
      refine ⟨none, move_drift happened, fun performed => ⟨nofun, fun performs => ?_⟩⟩
      obtain ⟨_, _, _, same, _⟩ := performs
      cases same

/-! ### The outbox -/

/-- The link that a message carries. -/
def Mail.link : Mail → Option (LinkKind × Nat)
  | .verifyRequest token => some (.verification, token)
  | .approved token | .setup token => some (.setup, token)
  | .awaitingReview | .rejected => none

/-- The link was issued for a request of this email. -/
def IssuedTo (email : String) (kind : LinkKind) (token : Nat) (w : AdminWorld) : Prop :=
  ∃ request ∈ w.requests, request.email = email ∧ ⟨kind, request.id, token⟩ ∈ w.links

theorem Move.issuedTo (move : Move hashToken w w' act) (sound : RequestsSound hashToken w) {kind : LinkKind}
    (issued : IssuedTo email kind token w) : IssuedTo email kind token w' := by
  obtain ⟨request, mem, addressed, link⟩ := issued
  obtain ⟨changed, changedMem, becomes⟩ := (move.origin sound.ids sound.allocated).2 request mem
  exact ⟨changed, changedMem, becomes.email_eq.trans addressed, becomes.id_eq ▸ move.links_subset link⟩

/-- Links go to the address of their request alone: every recipient of a mail with a link has the email of the request
for which the link was issued. -/
def Addressed (mail : Mail) (recipients : List String) (w : AdminWorld) : Prop :=
  ∀ kind token, mail.link = some (kind, token) → ∀ recipient ∈ recipients, IssuedTo recipient kind token w

/-- Between two steps of a run requests and links stay; a message is sent to the address that its link is for. -/
def accessContract (hashToken : Nat → Nat) (bcrypt : Bcrypt) : Contract (adminMachine hashToken bcrypt) where
  rely _ w w' := ∀ email kind token, IssuedTo email kind token w → IssuedTo email kind token w'
  inv := RequestsSound hashToken
  needs _ act w :=
    match act with
    | .send recipients mail => Addressed mail recipients w
    | _ => True
  ends _ := Any

/-- Anything but a message with a link. -/
def Unlinked : AdminAct → Prop
  | .send _ mail => mail.link = none
  | _ => True

theorem meets_of_unlinked {α : Type} {process : Process AdminAct AdminAct.Res α} {run : Nat}
    (every : process.Every Unlinked) : (accessContract hashToken bcrypt).Meets run Any process w := by
  refine Contract.meets_any_of_every (P := Unlinked) (fun act w unlinked => ?_) every
  cases act with
  | send recipients mail =>
      intro kind token carries
      rw [unlinked] at carries
      cases carries
  | _ => trivial

theorem unlinked_verify (token : Nat) : (verify hashToken token).run.Every Unlinked := by
  refine ⟨trivial, fun verified => ?_⟩
  cases verified with
  | error failure => cases failure <;> trivial
  | ok request =>
      refine ⟨trivial, fun admins => ?_⟩
      cases admins with
      | error failure => trivial
      | ok admins => exact ⟨rfl, fun sent => trivial⟩

theorem unlinked_setup (token : Nat) (newPassword : String) :
    (setup hashToken token newPassword).run.Every Unlinked := by
  refine ⟨trivial, fun password => ⟨trivial, fun done => ?_⟩⟩
  cases done with
  | error failure => cases failure <;> trivial
  | ok _ => trivial

/-- A committed transaction that was reported. -/
theorem transact_ok {α : Type} {choice : AdminChoice} {work : Except AuthFailure (α × AdminWorld)} {answer : α}
    (done : transact choice w work = (.ok answer, w')) : work = .ok (answer, w') := by
  unfold transact at done
  split at done
  · cases done
  · cases fate : choice.fate <;> rw [fate] at done <;> cases done
    rfl

theorem createRequest_issued {answer : Nat × Nat}
    (committed : w.createRequest hashToken token email fullName reason now = .ok (answer, w')) :
    IssuedTo email .verification answer.2 w' := by
  obtain ⟨_, _, committed⟩ := bind_ok_iff.mp committed
  cases committed
  exact ⟨_, List.mem_cons_self, rfl, List.mem_cons_self⟩

theorem approve_issued {answer : AdminAccessRequest × Option Nat}
    (committed : w.approve hashToken token actorId id now = .ok (answer, w')) :
    ∀ token, answer.2 = some token → IssuedTo answer.1.email .setup token w' := by
  obtain ⟨⟨updated, requests⟩, found, committed⟩ := bind_ok_iff.mp committed
  cases committed
  intro sent same
  cases same
  obtain ⟨before, request, after, _, _, _, rfl, rfl⟩ := findOneAndUpdate_split (orFail_ok_iff.mp found)
  exact ⟨_, by simp, rfl, List.mem_cons_self⟩

theorem reject_issued {answer : AdminAccessRequest × Option Nat}
    (committed : w.reject actorId id now = .ok (answer, w')) : answer.2 = none := by
  obtain ⟨⟨updated, requests⟩, found, committed⟩ := bind_ok_iff.mp committed
  cases committed
  rfl

theorem resendSetup_issued {email : String} {sent : Nat}
    (committed : w.resendSetup hashToken token id now = .ok (some (email, sent), w')) :
    IssuedTo email .setup sent w' := by
  unfold AdminWorld.resendSetup at committed
  split at committed
  · cases committed
  · rename_i found
    cases committed
    obtain ⟨before, request, after, _, _, _, rfl, rfl⟩ := findOneAndUpdate_split found
    exact ⟨_, by simp, rfl, List.mem_cons_self⟩

theorem meets_request {run : Nat} :
    (accessContract hashToken bcrypt).Meets run (Ends (fun _ _ => True) Any)
      (Admin.request email fullName reason).run w := by
  refine Contract.meets_lift fun _ _ _ => ⟨trivial, fun _ now _ _ => ?_⟩
  refine Contract.meets_lift fun _ _ _ => ⟨trivial, fun _ _ _ _ => ?_⟩
  refine Contract.meets_liftExcept (fun _ _ => ?_) fun _ _ => trivial
  refine Contract.meets_lift fun _ _ _ => ⟨trivial, fun _ _ _ _ => ?_⟩
  refine Contract.meets_liftExcept (fun known _ => ?_) fun _ _ => trivial
  cases known with
  | true => trivial
  | false =>
      refine Contract.meets_lift fun _ _ _ => ⟨trivial, fun _ _ _ _ => ?_⟩
      refine Contract.meets_liftExcept (fun pending _ => ?_) fun _ _ => trivial
      cases pending with
      | true => trivial
      | false =>
          refine Contract.meets_lift fun _ _ _ => ⟨trivial, fun choice created w₂ executed => ?_⟩
          cases created with
          | error failure => cases failure <;> trivial
          | ok answer =>
              simp only [adminMachine, adminExec] at executed
              split at executed
              · cases executed
              · have issued := createRequest_issued (transact_ok (Option.some.inj executed))
                refine Contract.meets_lift fun w₃ relied _ => ⟨?_, fun _ sent _ _ => ?_⟩
                · rintro kind token ⟨⟩ recipient mem
                  obtain rfl := List.mem_singleton.mp mem
                  exact relied _ _ _ issued
                · cases sent with
                  | ok _ => trivial
                  | error failure => exact Contract.meets_lift fun _ _ _ => ⟨trivial, fun _ _ _ _ => trivial⟩

theorem meets_decide {run : Nat} {approving : Bool} :
    (accessContract hashToken bcrypt).Meets run (Ends (fun _ _ => True) Any) (decide actorId id approving).run w := by
  refine Contract.meets_lift fun _ _ _ => ⟨trivial, fun choice decided w₂ executed => ?_⟩
  cases decided with
  | error failure => cases failure <;> trivial
  | ok answer =>
      have issued : ∀ token, answer.2 = some token → IssuedTo answer.1.email .setup token w₂ := by
        simp only [adminMachine, adminExec] at executed
        cases approving with
        | true =>
            rw [if_pos rfl] at executed
            split at executed
            · cases executed
            · exact approve_issued (transact_ok (Option.some.inj executed))
        | false =>
            have none := reject_issued (transact_ok (Option.some.inj executed))
            intro token same
            rw [none] at same
            cases same
      obtain ⟨request, token⟩ := answer
      refine Contract.meets_lift fun w₃ relied _ => ⟨?_, fun _ _ _ _ => trivial⟩
      intro kind sent carries recipient mem
      obtain rfl := List.mem_singleton.mp mem
      cases token with
      | none => cases carries
      | some token =>
          cases carries
          exact relied _ _ _ (issued _ rfl)

theorem meets_resendSetup {run : Nat} :
    (accessContract hashToken bcrypt).Meets run (Ends (fun _ _ => True) Any) (resendSetup id).run w := by
  refine Contract.meets_lift fun _ _ _ => ⟨trivial, fun choice resent w₂ executed => ?_⟩
  refine Contract.meets_liftExcept (fun found answered => ?_) fun _ _ => trivial
  cases found with
  | none => trivial
  | some sent =>
      subst answered
      simp only [adminMachine, adminExec] at executed
      split at executed
      · cases executed
      · have issued := resendSetup_issued (transact_ok (Option.some.inj executed))
        refine Contract.meets_lift fun w₃ relied _ => ⟨?_, fun _ delivered _ _ => ?_⟩
        · rintro kind token ⟨⟩ recipient mem
          obtain rfl := List.mem_singleton.mp mem
          exact relied _ _ _ issued
        · cases delivered <;> trivial

theorem handler_meets (job : AdminJob) (run : Nat) (w : AdminWorld) :
    (accessContract hashToken bcrypt).Meets run Any ((adminMachine hashToken bcrypt).handler job) w := by
  cases job with
  | request email fullName reason => exact Contract.Meets.mono (fun _ _ _ => trivial) meets_request
  | verify token => exact meets_of_unlinked (unlinked_verify token)
  | decide actorId id approving => exact Contract.Meets.mono (fun _ _ _ => trivial) meets_decide
  | resendSetup id => exact Contract.Meets.mono (fun _ _ _ => trivial) meets_resendSetup
  | setup token newPassword => exact meets_of_unlinked (unlinked_setup token newPassword)

theorem accessContract_sound :
    (accessContract hashToken bcrypt).Sound (fun _ _ _ _ => True) (fun _ _ => True) where
  refl _ _ _ _ _ issued := issued
  trans one two email kind token issued := two email kind token (one email kind token issued)
  step sound _ _ executed _ _ _ _ _ issued := (move_exec sound.ids executed).issuedTo sound issued
  keeps sound _ _ executed := (move_exec sound.ids executed).requestsSound sound
  drift sound _ happened _ _ _ _ issued := (move_drift happened).issuedTo sound issued
  driftKeeps sound _ happened := (move_drift happened).requestsSound sound
  handler := handler_meets
  ended _ _ := trivial

/-- Every message that has been handed over went to the address that its link is for. -/
def OutboxAddressed (w : AdminWorld) : Prop := ∀ recipient mail, (recipient, mail) ∈ w.outbox → Addressed mail [recipient] w

/-- Only a message adds to the outbox. -/
theorem outbox_exec {run : Nat} {choice : AdminChoice} {act : AdminAct} {answer : act.Res}
    (executed : (adminMachine hashToken bcrypt).exec run choice act w = some (answer, w')) :
    w'.outbox = w.outbox ∨
      ∃ recipients mail, act = .send recipients mail ∧ w'.outbox = recipients.map (·, mail) ++ w.outbox := by
  have transacts : ∀ {α : Type} {work : Except AuthFailure (α × AdminWorld)} {reply : Except AuthFailure α},
      transact choice w work = (reply, w') → (∀ value after, work = .ok (value, after) → after.outbox = w.outbox) →
        w'.outbox = w.outbox := by
    intro α work reply done keeps
    unfold transact at done
    split at done
    · cases done
      rfl
    · rename_i value after
      have same := keeps value after rfl
      cases fate : choice.fate <;> rw [fate] at done <;> cases done
      · exact same
      · exact same
      · rfl
  cases act with
  | now | hash | adminExists | openRequestExists | findActiveAdmins =>
      cases executed
      exact .inl rfl
  | expireStale email now =>
      refine .inl (transacts (Option.some.inj executed) fun value after committed => ?_)
      cases committed
      rfl
  | expireRequest id =>
      refine .inl (transacts (Option.some.inj executed) fun value after committed => ?_)
      cases committed
      unfold AdminWorld.expireRequest
      split <;> rfl
  | createRequest email fullName reason now =>
      simp only [adminMachine, adminExec] at executed
      split at executed
      · cases executed
      · refine .inl (transacts (Option.some.inj executed) fun value after committed => ?_)
        obtain ⟨_, _, committed⟩ := bind_ok_iff.mp committed
        cases committed
        rfl
  | verify tokenHash =>
      refine .inl (transacts (Option.some.inj executed) fun value after committed => ?_)
      obtain ⟨_, _, committed⟩ := bind_ok_iff.mp committed
      cases committed
      rfl
  | decide actorId id approving =>
      simp only [adminMachine, adminExec] at executed
      cases approving with
      | true =>
          rw [if_pos rfl] at executed
          split at executed
          · cases executed
          · refine .inl (transacts (Option.some.inj executed) fun value after committed => ?_)
            obtain ⟨_, _, committed⟩ := bind_ok_iff.mp committed
            cases committed
            rfl
      | false =>
          refine .inl (transacts (Option.some.inj executed) fun value after committed => ?_)
          obtain ⟨_, _, committed⟩ := bind_ok_iff.mp committed
          cases committed
          rfl
  | resendSetup id =>
      simp only [adminMachine, adminExec] at executed
      split at executed
      · cases executed
      · refine .inl (transacts (Option.some.inj executed) fun value after committed => ?_)
        unfold AdminWorld.resendSetup at committed
        split at committed <;> cases committed <;> rfl
  | setup tokenHash password =>
      refine .inl (transacts (Option.some.inj executed) fun value after committed => ?_)
      obtain ⟨_, _, committed⟩ := bind_ok_iff.mp committed
      obtain ⟨_, _, committed⟩ := bind_ok_iff.mp committed
      cases committed
      rfl
  | send recipients mail =>
      simp only [adminMachine, adminExec] at executed
      cases fate : choice.fate <;> rw [fate] at executed <;> cases executed
      · exact .inr ⟨recipients, mail, rfl, rfl⟩
      · exact .inr ⟨recipients, mail, rfl, rfl⟩
      · exact .inl rfl

theorem outbox_drift {drift : AdminDrift} (happened : (adminMachine hashToken bcrypt).drift drift w = some w') :
    w'.outbox = w.outbox := by
  cases drift with
  | bootstrap email fullName password =>
      simp only [adminMachine, adminDrift] at happened
      split at happened <;> cases happened
      rfl
  | tick | setActive | audit =>
      cases happened
      rfl

theorem Move.addressed (move : Move hashToken w w' act) (sound : RequestsSound hashToken w) {mail : Mail}
    {recipients : List String} (addressed : Addressed mail recipients w) : Addressed mail recipients w' :=
  fun kind token carries recipient mem => move.issuedTo sound (addressed kind token carries recipient mem)

/-- What holds in every state that a system without requests and administrators reaches. -/
structure Reachable (hashToken : Nat → Nat) (w : AdminWorld) : Prop where
  requests : RequestsSound hashToken w
  admins : AdminsSound w
  outbox : OutboxAddressed w

/-- A world in which nothing was ever requested or recorded. -/
structure Pristine (w : AdminWorld) : Prop where
  requests : w.requests = []
  admins : w.admins = []
  audits : w.audits = []
  links : w.links = []
  outbox : w.outbox = []

theorem Pristine.reachable (pristine : Pristine w) : Reachable hashToken w := by
  obtain ⟨requests, admins, audits, links, outbox⟩ := pristine
  have people : w.people = [] := by simp [AdminWorld.people, admins]
  refine ⟨?_, ?_, ?_⟩
  · constructor <;> simp [DistinctIds, requests, audits, links, trail, countDocuments]
  · constructor <;> simp [people, audits, requests, activators]
  · simp [OutboxAddressed, outbox]

theorem reachable_of_run (idle : s.runs = []) (pristine : Pristine s.world)
    (reached : AdminRun hashToken bcrypt s events s') : Reachable hashToken s'.world := by
  have start : Reachable hashToken s.world := pristine.reachable
  have permitted : ∀ (s : AdminSystem) (event : AdminEvent), True →
      Contract.Permits (fun _ _ _ _ => True) (fun _ _ => True) s event := by
    intro s event _
    cases event with
    | step run choice => exact fun _ _ _ => trivial
    | arrive | drift => trivial
  refine (fun ⟨all, admins, outbox⟩ => ⟨all.inv, admins, outbox⟩)
    (accessContract_sound.invariant (fun w => AdminsSound w ∧ OutboxAddressed w) ?_ ?_ (reached.mono permitted)
      (.idle start.requests idle) ⟨start.admins, start.outbox⟩)
  · rintro run choice act w answer w' sound ⟨admins, outbox⟩ needs _ executed
    have move := move_exec sound.ids executed
    refine ⟨move.adminsSound sound admins, fun recipient mail mem => ?_⟩
    rcases outbox_exec executed with same | ⟨recipients, sent, rfl, more⟩
    · exact move.addressed sound (outbox recipient mail (same ▸ mem))
    · rw [more] at mem
      rcases List.mem_append.mp mem with mem | mem
      · obtain ⟨_, addressee, same⟩ := List.mem_map.mp mem
        cases same
        refine move.addressed sound fun kind token carries other otherMem => ?_
        obtain rfl := List.mem_singleton.mp otherMem
        exact needs kind token carries other addressee
      · exact move.addressed sound (outbox recipient mail mem)
  · rintro change w w' sound ⟨admins, outbox⟩ _ happened
    have move := move_drift happened
    refine ⟨move.adminsSound sound admins, fun recipient mail mem => ?_⟩
    exact move.addressed sound (outbox recipient mail (outbox_drift happened ▸ mem))

end DataVault.Admin
