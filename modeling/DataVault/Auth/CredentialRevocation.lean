/-
Module: DataVault.Auth.CredentialRevocation
Layer: Proof
Purpose: What a replaced password leaves of the credentials that were issued before. A reset makes all of them
  useless; a change of the password by its owner does so iff there were none left to revoke, since it neither counts
  the version of the account up nor removes a pending reset token.
Imports: DataVault.Auth.Credentials, DataVault.Interleaving.Guided, Mathlib.Data.List.Nodup
Trusted boundary: none
Main exports: Becomes, Move, CredentialsSound, Unauthenticated, Rejected, HasVerified, Voided, Unencumbered, Revoked,
  password_replacement_revokes
-/
import DataVault.Auth.Credentials
import DataVault.Interleaving.Guided
import Mathlib.Data.List.Nodup

namespace DataVault.Auth

open DataVault.Companies DataVault.Control DataVault.Interleaving DataVault.Store DataVault.Users

variable {hashToken : Nat → Nat} {bcrypt : Bcrypt}

abbrev AuthSystem := System AuthAct AuthAct.Res AuthWorld (Except AuthFailure AuthReply)

abbrev AuthEvent := Event AuthChoice AuthDrift AuthJob

abbrev AuthProcess := Process AuthAct AuthAct.Res (Except AuthFailure AuthReply)

/-! ### What one step does to the accounts -/

/-- What a step makes of one account: its version never falls, and a token that was not there before is a new one. -/
inductive Becomes (hashToken : Nat → Nat) (links links' : List (Nat × Nat)) (account : Account) : Account → Prop where
  | kept {changed : Account} (named : changed.id = account.id) (version : account.version ≤ changed.version)
      (token : changed.passwordResetTokenHash = account.passwordResetTokenHash)
      (expires : changed.passwordResetExpiresAt = account.passwordResetExpiresAt) :
      Becomes hashToken links links' account changed
  | cleared {changed : Account} (named : changed.id = account.id) (version : account.version ≤ changed.version)
      (token : changed.passwordResetTokenHash = none) : Becomes hashToken links links' account changed
  | reminded (token : Nat) (now : Int) (fresh : token ∉ links.map Prod.snd) (issued : (account.id, token) ∈ links') :
      Becomes hashToken links links' account (account.remind (hashToken token) now)

variable {links links' : List (Nat × Nat)} {account changed : Account} {w w' : AuthWorld}

theorem Becomes.refl : Becomes hashToken links links' account account := .kept rfl (Nat.le_refl _) rfl rfl

theorem Becomes.id_eq (becomes : Becomes hashToken links links' account changed) : changed.id = account.id := by
  cases becomes with
  | kept named | cleared named => exact named
  | reminded => rfl

theorem Becomes.version_le (becomes : Becomes hashToken links links' account changed) :
    account.version ≤ changed.version := by
  cases becomes with
  | kept _ version | cleared _ version => exact version
  | reminded => exact Nat.le_refl _

/-- Everything a step can do to the accounts, their ids and the issued links. -/
structure Move (hashToken : Nat → Nat) (w w' : AuthWorld) : Prop where
  ids_le : w.nextId ≤ w'.nextId
  names : (w'.accounts.map (·.id)).Sublist (w.nextId :: w.accounts.map (·.id))
  origin : ∀ changed ∈ w'.accounts,
    (∃ account ∈ w.accounts, Becomes hashToken w.links w'.links account changed) ∨
      (changed.id = w.nextId ∧ changed.id < w'.nextId ∧ changed.passwordResetTokenHash = none)
  links : w'.links = w.links ∨
    ∃ id token, token ∉ w.links.map Prod.snd ∧ w'.links = (id, token) :: w.links

/-- A step that keeps or removes accounts. -/
theorem Move.of_sublist (accounts : w'.accounts.Sublist w.accounts) (ids : w'.nextId = w.nextId)
    (links : w'.links = w.links) : Move hashToken w w' where
  ids_le := Nat.le_of_eq ids.symm
  names := (accounts.map _).trans (List.sublist_cons_self _ _)
  origin changed mem := .inl ⟨changed, accounts.subset mem, .refl⟩
  links := .inl links

/-- A step that updates the first account that matches. -/
theorem Move.of_update {filter : Account → Bool} {change : Account → Account} {found : Account × List Account}
    (updated : findOneAndUpdate filter change w.accounts = some found) (accounts : w'.accounts = found.2)
    (ids : w'.nextId = w.nextId)
    (links : w'.links = w.links ∨ ∃ id token, token ∉ w.links.map Prod.snd ∧ w'.links = (id, token) :: w.links)
    (becomes : ∀ account, filter account → Becomes hashToken w.links w'.links account (change account)) :
    Move hashToken w w' := by
  obtain ⟨renewed, changed⟩ := found
  obtain ⟨before, account, after, first, matched, _, _, second⟩ := findOneAndUpdate_split updated
  have one := becomes account matched
  refine ⟨Nat.le_of_eq ids.symm, ?_, ?_, links⟩
  · rw [accounts, second, first]
    simp only [List.map_append, List.map_cons, one.id_eq]
    exact List.sublist_cons_self _ _
  · intro changed mem
    rw [accounts, second] at mem
    rw [first]
    rcases List.mem_append.mp mem with mem | mem
    · exact .inl ⟨changed, List.mem_append_left _ mem, .refl⟩
    · rcases List.mem_cons.mp mem with rfl | mem
      · exact .inl ⟨account, by simp, one⟩
      · exact .inl ⟨changed, by simp [mem], .refl⟩

theorem move_update {choice : AuthChoice} {filter : Account → Bool} {change : Account → Account}
    {answer : Except AuthFailure Bool} (done : w.update choice filter change = (answer, w'))
    (becomes : ∀ account, filter account → Becomes hashToken w.links w.links account (change account)) :
    Move hashToken w w' := by
  have same : Move hashToken w w := .of_sublist (List.Sublist.refl _) rfl rfl
  unfold AuthWorld.update at done
  cases updated : findOneAndUpdate filter change w.accounts with
  | none =>
      rw [updated] at done
      cases fate : choice.fate <;> rw [fate] at done <;> cases done <;> exact same
  | some found =>
      rw [updated] at done
      cases fate : choice.fate <;> rw [fate] at done <;> cases done
      · exact .of_update updated rfl rfl (.inl rfl) becomes
      · exact .of_update updated rfl rfl (.inl rfl) becomes
      · exact same

theorem move_storeResetToken {choice : AuthChoice} {id companyId : Nat} {now : Int}
    {answer : Except AuthFailure (Option (String × Nat))} (fresh : choice.token ∉ w.links.map Prod.snd)
    (done : w.storeResetToken choice hashToken id companyId now = (answer, w')) : Move hashToken w w' := by
  have same : Move hashToken w w := .of_sublist (List.Sublist.refl _) rfl rfl
  unfold AuthWorld.storeResetToken at done
  split at done
  · cases done
    exact same
  · rename_i updated accounts found
    have stored : Move hashToken w { w with accounts := accounts, links := (id, choice.token) :: w.links } := by
      refine .of_update found rfl rfl (.inr ⟨id, choice.token, fresh, rfl⟩) fun account matched => ?_
      simp only [remindable, Bool.and_eq_true, decide_eq_true_eq] at matched
      exact .reminded choice.token now fresh (by simp [matched.1.1])
    cases fate : choice.fate <;> rw [fate] at done <;> cases done
    · exact stored
    · exact stored
    · exact same

/-- Every action moves the accounts. -/
theorem move_exec {run : Nat} {choice : AuthChoice} {act : AuthAct} {answer : act.Res}
    (executed : (authMachine hashToken bcrypt).exec run choice act w = some (answer, w')) : Move hashToken w w' := by
  have same : Move hashToken w w := .of_sublist (List.Sublist.refl _) rfl rfl
  cases act with
  | storeResetToken id companyId now =>
      simp only [authMachine, authExec] at executed
      split at executed
      · cases executed
      · rename_i fresh
        exact move_storeResetToken fresh (Option.some.inj executed)
  | clearResetToken id tokenHash =>
      exact move_update (Option.some.inj executed) fun account _ => .cleared rfl (Nat.le_refl _) rfl
  | resetPassword id companyId tokenHash now password =>
      exact move_update (Option.some.inj executed) fun account _ => .cleared rfl (Nat.le_succ _) rfl
  | changePassword id companyId current password =>
      exact move_update (Option.some.inj executed) fun account _ => .kept rfl (Nat.le_refl _) rfl rfl
  | sign payload =>
      cases executed
      exact .of_sublist (List.Sublist.refl _) rfl rfl
  | _ =>
      cases executed
      exact same

/-- So does everything that happens beside the requests. -/
theorem move_drift {drift : AuthDrift} (happened : (authMachine hashToken bcrypt).drift drift w = some w') : Move hashToken w w' := by
  cases drift with
  | tick elapsed =>
      cases happened
      exact .of_sublist (List.Sublist.refl _) rfl rfl
  | company companyId company =>
      cases happened
      exact .of_sublist (List.Sublist.refl _) rfl rfl
  | register email password authVersion companyId role =>
      simp only [authMachine, authDrift] at happened
      split at happened
      · cases happened
      · cases happened
        refine ⟨Nat.le_succ _, List.Sublist.refl _, fun changed mem => ?_, .inl rfl⟩
        rcases List.mem_cons.mp mem with rfl | mem
        · exact .inr ⟨rfl, Nat.lt_succ_self _, rfl⟩
        · exact .inl ⟨changed, mem, .refl⟩
  | delete id =>
      obtain ⟨⟨account, accounts⟩, deleted, rfl⟩ := Option.map_eq_some_iff.mp happened
      obtain ⟨before, after, first, _, second⟩ := findOneAndDelete_split deleted
      refine .of_sublist ?_ rfl rfl
      change accounts.Sublist w.accounts
      rw [first, second]
      simp
  | assign id companyId role =>
      obtain ⟨found, updated, rfl⟩ := Option.map_eq_some_iff.mp happened
      exact .of_update updated rfl rfl (.inl rfl) fun account _ => .kept rfl (Nat.le_refl _) rfl rfl

/-! ### What every reachable state satisfies

Ids are never given out again, links carry distinct tokens, and a stored digest is that of a link to its account.
Beside this invariant the version of an account only grows, which is what makes an old access token recognizable;
`Covered` says so for all later states. -/

/-- Accounts have distinct ids below the next one; links carry distinct tokens, and a stored digest is the one of a
link to the account. -/
structure CredentialsSound (hashToken : Nat → Nat) (w : AuthWorld) : Prop where
  ids : (w.accounts.map (·.id)).Nodup
  allocated : ∀ account ∈ w.accounts, account.id < w.nextId
  tokens : (w.links.map Prod.snd).Nodup
  owners : ∀ account ∈ w.accounts, ∀ tokenHash, account.passwordResetTokenHash = some tokenHash →
    ∃ token, tokenHash = hashToken token ∧ (account.id, token) ∈ w.links

theorem Move.links_subset (move : Move hashToken w w') : w.links ⊆ w'.links := by
  rcases move.links with same | ⟨id, token, _, more⟩
  · exact same ▸ List.Subset.refl _
  · exact more ▸ List.subset_cons_self _ _

theorem Move.sound (move : Move hashToken w w') (sound : CredentialsSound hashToken w) :
    CredentialsSound hashToken w' where
  ids := by
    refine move.names.nodup (List.nodup_cons.mpr ⟨?_, sound.ids⟩)
    intro mem
    obtain ⟨account, mem, named⟩ := List.mem_map.mp mem
    exact absurd (sound.allocated account mem) (by omega)
  allocated changed mem := by
    rcases move.origin changed mem with ⟨account, mem, becomes⟩ | ⟨_, allocated, _⟩
    · rw [becomes.id_eq]
      exact Nat.lt_of_lt_of_le (sound.allocated account mem) move.ids_le
    · exact allocated
  tokens := by
    rcases move.links with same | ⟨id, token, fresh, more⟩
    · exact same ▸ sound.tokens
    · rw [more, List.map_cons, List.nodup_cons]
      exact ⟨fresh, sound.tokens⟩
  owners changed mem tokenHash stored := by
    rcases move.origin changed mem with ⟨account, mem, becomes⟩ | ⟨_, _, none⟩
    · cases becomes with
      | kept named _ token =>
          obtain ⟨token, same, issued⟩ := sound.owners account mem tokenHash (token ▸ stored)
          exact ⟨token, same, named ▸ move.links_subset issued⟩
      | cleared _ _ token =>
          rw [token] at stored
          cases stored
      | reminded token now _ issued => exact ⟨token, (Option.some.inj stored).symm, issued⟩
    · rw [none] at stored
      cases stored

/-- The account with this id has at least this version, now and at all later times. -/
def Covered (id version : Nat) (w : AuthWorld) : Prop :=
  id < w.nextId ∧ ∀ account ∈ w.accounts, account.id = id → version ≤ account.version

theorem Move.covered (move : Move hashToken w w') {id version : Nat} (covered : Covered id version w) :
    Covered id version w' := by
  refine ⟨Nat.lt_of_lt_of_le covered.1 move.ids_le, fun changed mem named => ?_⟩
  rcases move.origin changed mem with ⟨account, mem, becomes⟩ | ⟨fresh, _⟩
  · exact Nat.le_trans (covered.2 account mem (becomes.id_eq.symm.trans named)) becomes.version_le
  · have earlier := covered.1
    omega

/-! ### Tokens are signed from a version that is not ahead

A sign-in reads the account, and the token is signed later, from the version that was read. By then the version may
have grown, but it cannot have fallen; so the token never carries a version ahead of the stored one. -/

/-- Between two steps of a run the versions only grow; a token is signed from what is covered. -/
def credentialContract (hashToken : Nat → Nat) (bcrypt : Bcrypt) : Contract (authMachine hashToken bcrypt) where
  rely _ w w' := ∀ id version, Covered id version w → Covered id version w'
  inv := CredentialsSound hashToken
  needs _ act w :=
    match act with
    | .sign payload => Covered payload.id (payload.version.getD 0) w
    | _ => True
  ends _ := Any

/-- Anything but a signature. -/
def Unsigned : AuthAct → Prop
  | .sign _ => False
  | _ => True

/-- Anything but the write of a reset. -/
def Undated : AuthAct → Prop
  | .resetPassword .. => False
  | _ => True

/-- Neither of both. -/
def Ordinary : AuthAct → Prop
  | .sign _ | .resetPassword .. => False
  | _ => True

theorem Ordinary.unsigned {act : AuthAct} (ordinary : Ordinary act) : Unsigned act := by
  cases act <;> first | exact ordinary | trivial

theorem Ordinary.undated {act : AuthAct} (ordinary : Ordinary act) : Undated act := by
  cases act <;> first | exact ordinary | trivial

/-- Actions that sign nothing need nothing. -/
theorem meets_of_unsigned {α : Type} {process : Process AuthAct AuthAct.Res α} {run : Nat}
    (every : process.Every Unsigned) : (credentialContract hashToken bcrypt).Meets run Any process w := by
  refine Contract.meets_any_of_every (P := Unsigned) (fun act w unsigned => ?_) every
  cases act with
  | sign payload => exact unsigned.elim
  | _ => trivial

theorem ordinary_assertTenantAccess (user : Account) : (assertTenantAccess user).run.Every Ordinary := by
  unfold assertTenantAccess
  split
  · refine ⟨trivial, fun found => Process.every_bind Process.every_liftExcept fun found => ?_⟩
    exact Process.every_bind Process.every_liftExcept fun company => Process.every_liftExcept
  · trivial

/-- An account that was found covers its version. -/
theorem covered_of_mem (sound : CredentialsSound hashToken w) (mem : account ∈ w.accounts) :
    Covered account.id account.version w := by
  refine ⟨sound.allocated account mem, fun other otherMem same => ?_⟩
  exact Nat.le_of_eq (by rw [List.inj_on_of_nodup_map sound.ids otherMem mem same])

/-- What a user record covers stays covered up to the signature. -/
theorem meets_signToken {user : Account} {run : Nat} (covered : Covered user.id user.version w) :
    (credentialContract hashToken bcrypt).Meets run (Ends (fun _ _ => True) Any) (signToken user).run w := by
  have kept : (credentialContract hashToken bcrypt).Meets run
      (fun _ => Covered user.id user.version) (assertTenantAccess user).run w := by
    refine Contract.Meets.of_every (P := Unsigned) (fun w w' relied known => ?_) ?_
      ((ordinary_assertTenantAccess user).mono fun _ => Ordinary.unsigned) covered
    · exact relied _ _ known
    · intro act w unsigned sound
      constructor
      · cases act with
        | sign payload => exact unsigned.elim
        | _ => trivial
      · intro choice answer w' executed id version known
        exact (move_exec executed).covered known
  refine Contract.meets_bind (Q := fun _ => Covered user.id user.version) (kept.mono fun outcome w known => ?_)
    fun _ w' known => ?_
  · cases outcome with
    | ok value => exact known
    | error failure => trivial
  · intro w₁ relied sound
    exact ⟨relied _ _ known, fun choice answer w₂ executed => trivial⟩

/-- A lookup answers with an account that is stored. -/
theorem query_find {choice : AuthChoice} {filter : Account → Bool}
    (answered : AuthWorld.query choice (w.accounts.find? filter) = .ok (some account)) :
    account ∈ w.accounts ∧ filter account := by
  unfold AuthWorld.query at answered
  split at answered
  · have found := Except.ok.inj answered
    exact ⟨List.mem_of_find?_eq_some found, List.find?_some found⟩
  · cases answered

/-- The token of a found account. -/
theorem meets_signed {user : Account} {run : Nat} (sound : CredentialsSound hashToken w) (mem : user ∈ w.accounts) :
    (credentialContract hashToken bcrypt).Meets run (Ends (fun _ _ => True) Any)
      (do pure (.accessToken (← signToken user)) : AuthHandler AuthReply).run w :=
  Contract.meets_bind (meets_signToken (covered_of_mem sound mem)) fun _ _ _ => trivial

theorem meets_signIn {run : Nat} {email password : String} :
    (credentialContract hashToken bcrypt).Meets run (Ends (fun _ _ => True) Any) (signIn bcrypt email password).run w := by
  refine Contract.meets_lift fun w₁ _ sound => ⟨trivial, fun choice answer w₂ executed => ?_⟩
  cases executed
  refine Contract.meets_liftExcept (fun found answered => ?_) fun _ _ => trivial
  refine Contract.meets_liftExcept (fun user passed => ?_) fun _ _ => trivial
  obtain ⟨rfl, _⟩ := Option.filter_eq_some_iff.mp (orFail_ok_iff.mp passed)
  exact meets_signed sound (query_find answered).1

theorem meets_exchangeGoogleUser {run userId : Nat} :
    (credentialContract hashToken bcrypt).Meets run (Ends (fun _ _ => True) Any) (exchangeGoogleUser userId).run w := by
  refine Contract.meets_lift fun w₁ _ sound => ⟨trivial, fun choice answer w₂ executed => ?_⟩
  cases executed
  refine Contract.meets_liftExcept (fun found answered => ?_) fun _ _ => trivial
  refine Contract.meets_liftExcept (fun user passed => ?_) fun _ _ => trivial
  obtain rfl := orFail_ok_iff.mp passed
  exact meets_signed sound (query_find answered).1

/-! ### The other requests sign nothing -/

theorem ordinary_forgotPassword (email : String) : (forgotPassword hashToken email).run.Every Ordinary := by
  refine ⟨trivial, fun found => Process.every_bind Process.every_liftExcept fun found => ?_⟩
  split
  · trivial
  · split
    · trivial
    · refine ⟨trivial, fun found => Process.every_bind Process.every_liftExcept fun found => ?_⟩
      split
      · trivial
      · refine ⟨trivial, fun now => ⟨trivial, fun stored => Process.every_bind Process.every_liftExcept fun stored => ?_⟩⟩
        split
        · trivial
        · refine ⟨trivial, fun sent => ?_⟩
          cases sent with
          | ok done => trivial
          | error failure => exact ⟨trivial, fun cleared => trivial⟩

theorem unsigned_resetPassword (token : Nat) (newPassword : String) :
    (resetPassword hashToken token newPassword).run.Every Unsigned := by
  refine ⟨trivial, fun now => ⟨trivial, fun found => Process.every_bind Process.every_liftExcept fun found => ?_⟩⟩
  refine Process.every_bind Process.every_liftExcept fun user => ?_
  refine Process.every_bind Process.every_liftExcept fun companyId => ?_
  refine ⟨trivial, fun company => Process.every_bind Process.every_liftExcept fun company => ?_⟩
  refine Process.every_bind Process.every_liftExcept fun _ => ?_
  refine ⟨trivial, fun password => ⟨trivial, fun now => ⟨trivial, fun changed => ?_⟩⟩⟩
  refine Process.every_bind Process.every_liftExcept fun changed => ?_
  exact Process.every_bind Process.every_liftExcept fun _ => trivial

theorem ordinary_changePassword (actor : AuthenticatedUser) (currentPassword newPassword : String) :
    (changePassword bcrypt actor currentPassword newPassword).run.Every Ordinary := by
  refine ⟨trivial, fun found => Process.every_bind Process.every_liftExcept fun found => ?_⟩
  refine Process.every_bind Process.every_liftExcept fun current => ?_
  refine Process.every_bind Process.every_liftExcept fun _ => ?_
  refine ⟨trivial, fun password => ⟨trivial, fun changed => ?_⟩⟩
  refine Process.every_bind Process.every_liftExcept fun changed => ?_
  exact Process.every_bind Process.every_liftExcept fun _ => trivial

theorem ordinary_authenticate (token : AccessToken) : (authenticate token).run.Every Ordinary := by
  refine ⟨trivial, fun payload => Process.every_bind Process.every_liftExcept fun payload => ?_⟩
  refine Process.every_bind Process.every_liftExcept fun _ => ?_
  refine ⟨trivial, fun found => Process.every_bind Process.every_liftExcept fun found => ?_⟩
  refine Process.every_bind Process.every_liftExcept fun user => ?_
  split
  · refine ⟨trivial, fun company => Process.every_bind Process.every_liftExcept fun company => ?_⟩
    exact Process.every_bind Process.every_liftExcept fun _ => trivial
  · trivial

theorem ordinary_canActivate (token : Option AccessToken) : (canActivate token).run.Every Ordinary := by
  cases token with
  | none => trivial
  | some token => exact Process.every_recover (ordinary_authenticate token) fun _ => trivial

theorem handler_meets (job : AuthJob) (run : Nat) (w : AuthWorld) :
    (credentialContract hashToken bcrypt).Meets run Any ((authMachine hashToken bcrypt).handler job) w := by
  cases job with
  | signIn email password => exact Contract.Meets.mono (fun _ _ _ => trivial) meets_signIn
  | exchangeGoogleUser userId => exact Contract.Meets.mono (fun _ _ _ => trivial) meets_exchangeGoogleUser
  | forgotPassword email => exact meets_of_unsigned ((ordinary_forgotPassword email).mono fun _ => Ordinary.unsigned)
  | resetPassword token newPassword => exact meets_of_unsigned (unsigned_resetPassword token newPassword)
  | changePassword actor currentPassword newPassword =>
      exact meets_of_unsigned ((ordinary_changePassword actor currentPassword newPassword).mono fun _ => Ordinary.unsigned)
  | canActivate token => exact meets_of_unsigned ((ordinary_canActivate token).mono fun _ => Ordinary.unsigned)

theorem credentialContract_sound :
    (credentialContract hashToken bcrypt).Sound (fun _ _ _ _ => True) (fun _ _ => True) where
  refl _ _ _ _ covered := covered
  trans one two id version covered := two id version (one id version covered)
  step _ _ _ executed _ _ _ _ covered := (move_exec executed).covered covered
  keeps sound _ _ executed := (move_exec executed).sound sound
  drift _ _ happened _ _ _ covered := (move_drift happened).covered covered
  driftKeeps sound _ happened := (move_drift happened).sound sound
  handler := handler_meets
  ended _ _ := trivial

/-! ### What an action leaves alone -/

theorem clock_exec {run : Nat} {choice : AuthChoice} {act : AuthAct} {answer : act.Res}
    (executed : (authMachine hashToken bcrypt).exec run choice act w = some (answer, w')) : w'.clock = w.clock := by
  have updates : ∀ {filter change}, (w.update choice filter change).2.clock = w.clock := by
    intro filter change
    unfold AuthWorld.update
    split <;> rfl
  cases act with
  | storeResetToken id companyId now =>
      simp only [authMachine, authExec, AuthWorld.storeResetToken] at executed
      split at executed
      · cases executed
      · split at executed
        · cases executed
          rfl
        · cases fate : choice.fate <;> rw [fate] at executed <;> cases executed <;> rfl
  | clearResetToken | resetPassword | changePassword =>
      rw [← (Prod.mk.inj (Option.some.inj executed)).2]
      exact updates
  | _ =>
      cases executed
      rfl

/-- Only a signature adds to the signed tokens. -/
theorem signed_exec {run : Nat} {choice : AuthChoice} {act : AuthAct} {answer : act.Res}
    (executed : (authMachine hashToken bcrypt).exec run choice act w = some (answer, w')) :
    w'.signed = w.signed ∨ ∃ payload, act = .sign payload ∧ w'.signed = signAsync payload w.clock :: w.signed := by
  have updates : ∀ {filter change}, (w.update choice filter change).2.signed = w.signed := by
    intro filter change
    unfold AuthWorld.update
    split <;> rfl
  cases act with
  | storeResetToken id companyId now =>
      simp only [authMachine, authExec, AuthWorld.storeResetToken] at executed
      split at executed
      · cases executed
      · split at executed
        · cases executed
          exact .inl rfl
        · cases fate : choice.fate <;> rw [fate] at executed <;> cases executed <;> exact .inl rfl
  | clearResetToken | resetPassword | changePassword =>
      rw [← (Prod.mk.inj (Option.some.inj executed)).2]
      exact .inl updates
  | sign payload =>
      cases executed
      exact .inr ⟨payload, rfl, rfl⟩
  | _ =>
      cases executed
      exact .inl rfl

theorem drift_frame {drift : AuthDrift} (happened : (authMachine hashToken bcrypt).drift drift w = some w') :
    w.clock ≤ w'.clock ∧ w'.signed = w.signed := by
  cases drift with
  | tick elapsed =>
      cases happened
      exact ⟨Int.le_add_of_nonneg_right (Int.natCast_nonneg _), rfl⟩
  | company companyId company =>
      cases happened
      exact ⟨Int.le_refl _, rfl⟩
  | register email password authVersion companyId role =>
      simp only [authMachine, authDrift] at happened
      split at happened
      · cases happened
      · cases happened
        exact ⟨Int.le_refl _, rfl⟩
  | delete id | assign id companyId role =>
      obtain ⟨found, _, rfl⟩ := Option.map_eq_some_iff.mp happened
      exact ⟨Int.le_refl _, rfl⟩

/-! ### Reachable states -/

variable {s s' : AuthSystem} {event : AuthEvent} {events later : List AuthEvent}

/-- Every signed token is covered by the account it is for: the account has at least the version that the token
carries. -/
def SignedCovered (w : AuthWorld) : Prop := ∀ token ∈ w.signed, Covered token.payload.id token.version w

/-- The write of a reset is preceded by a look at the clock, whose time it carries. -/
def Dated : (act : AuthAct) → act.Res → AuthAct → Prop
  | .now, instant, .resetPassword _ _ _ now _ => now = instant
  | _, _, .resetPassword .. => False
  | _, _, _ => True

theorem dated_of_undated (act : AuthAct) (answer : act.Res) (next : AuthAct) (undated : Undated next) :
    Dated act answer next := by
  cases next with
  | resetPassword => exact undated.elim
  | _ => cases act <;> trivial

theorem undated_signed (user : Account) :
    (do pure (.accessToken (← signToken user)) : AuthHandler AuthReply).run.Every Undated := by
  refine Process.every_bind ?_ fun _ => trivial
  exact Process.every_bind ((ordinary_assertTenantAccess user).mono fun _ => Ordinary.undated) fun _ =>
    ⟨trivial, fun token => trivial⟩

theorem undated_signIn (email password : String) : (signIn bcrypt email password).run.Every Undated := by
  refine ⟨trivial, fun found => Process.every_bind Process.every_liftExcept fun found => ?_⟩
  exact Process.every_bind Process.every_liftExcept undated_signed

theorem undated_exchangeGoogleUser (userId : Nat) : (exchangeGoogleUser userId).run.Every Undated := by
  refine ⟨trivial, fun found => Process.every_bind Process.every_liftExcept fun found => ?_⟩
  exact Process.every_bind Process.every_liftExcept undated_signed

/-- The second look at the clock comes right before the write. -/
theorem chained_resetPassword (token : Nat) (newPassword : String) :
    (resetPassword hashToken token newPassword).run.Chained Dated := by
  have free := dated_of_undated
  refine And.right (Process.continues_lift free (P := Undated) trivial fun now => ?_)
  refine Process.continues_lift free trivial fun found => Process.continues_liftExcept fun found _ => ?_
  refine Process.continues_liftExcept fun user _ => Process.continues_liftExcept fun companyId _ => ?_
  refine Process.continues_lift free trivial fun company => Process.continues_liftExcept fun company _ => ?_
  refine Process.continues_liftExcept fun _ _ => Process.continues_lift free trivial fun password => ?_
  constructor
  · intro act awaits
    cases awaits
    trivial
  · intro now
    constructor
    · intro act awaits
      cases awaits
      rfl
    · intro changed
      have rest : (do check (require (← check changed) invalidResetLink); pure .reset :
          AuthHandler AuthReply).run.Every Undated :=
        Process.every_bind Process.every_liftExcept fun changed =>
          Process.every_bind Process.every_liftExcept fun _ => trivial
      exact ⟨fun next awaits => free _ _ _ (Process.Starts.of_every rest next awaits), Process.Chained.of_every free rest⟩

theorem handler_chained (job : AuthJob) : ((authMachine hashToken bcrypt).handler job).Chained Dated := by
  have ordinary : ∀ {process : Process AuthAct AuthAct.Res (Except AuthFailure AuthReply)},
      process.Every Ordinary → process.Chained Dated := fun every =>
    Process.Chained.of_every dated_of_undated (every.mono fun _ => Ordinary.undated)
  cases job with
  | signIn email password => exact Process.Chained.of_every dated_of_undated (undated_signIn email password)
  | exchangeGoogleUser userId => exact Process.Chained.of_every dated_of_undated (undated_exchangeGoogleUser userId)
  | forgotPassword email => exact ordinary (ordinary_forgotPassword email)
  | resetPassword token newPassword => exact chained_resetPassword token newPassword
  | changePassword actor currentPassword newPassword =>
      exact ordinary (ordinary_changePassword actor currentPassword newPassword)
  | canActivate token => exact ordinary (ordinary_canActivate token)

/-- Every process of the system is chained. -/
def AllDated (s : AuthSystem) : Prop := ∀ (k : Nat) process, s.runs[k]? = some process → process.Chained Dated

theorem allDated_apply (all : AllDated s) (applied : (authMachine hashToken bcrypt).apply s event = some s') :
    AllDated s' := by
  intro k process present
  rcases Machine.apply_origin present applied with before | ⟨job, rfl⟩ | ⟨_, act, resume, answer, _, there, _, rfl⟩
  · exact all k process before
  · exact handler_chained job
  · exact (all k _ there answer).2

/-- What holds in every state that a system without accounts reaches: of the accounts and their links, of the tokens
that were signed, and of the processes that are under way. -/
structure Reachable (hashToken : Nat → Nat) (s : AuthSystem) : Prop where
  sound : CredentialsSound hashToken s.world
  covered : SignedCovered s.world
  dated : AllDated s

/-- The runs of the system, with nothing asked of their steps. -/
abbrev AuthRun (hashToken : Nat → Nat) (bcrypt : Bcrypt) :
    AuthSystem → List AuthEvent → AuthSystem → Prop :=
  (authMachine hashToken bcrypt).Run fun _ _ => True

theorem reachable_of_run (idle : s.runs = []) (none : s.world.accounts = [] ∧ s.world.signed = [] ∧ s.world.links = [])
    (reached : AuthRun hashToken bcrypt s events s') : Reachable hashToken s' := by
  obtain ⟨accounts, signed, links⟩ := none
  have sound : CredentialsSound hashToken s.world := by constructor <;> simp [accounts, links]
  have permitted : ∀ (s : AuthSystem) (event : AuthEvent), True →
      Contract.Permits (fun _ _ _ _ => True) (fun _ _ => True) s event := by
    intro s event _
    cases event with
    | step run choice => exact fun _ _ _ => trivial
    | arrive | drift => trivial
  refine (fun ⟨all, covered⟩ => ⟨all.inv, covered, reached.chained handler_chained idle⟩)
    (credentialContract_sound.invariant SignedCovered ?_ ?_ (reached.mono permitted) (.idle sound idle)
      (by simp [SignedCovered, signed]))
  · intro run choice act w answer w' sound covered needs _ executed token mem
    rcases signed_exec executed with same | ⟨payload, rfl, more⟩
    · exact (move_exec executed).covered (covered token (same ▸ mem))
    · rw [more] at mem
      rcases List.mem_cons.mp mem with rfl | mem
      · exact (move_exec executed).covered needs
      · exact (move_exec executed).covered (covered token mem)
  · intro change w w' _ covered _ happened token mem
    rw [(drift_frame happened).2] at mem
    exact (move_drift happened).covered (covered token mem)

/-- An event moves the accounts and never turns the clock back. -/
theorem move_apply (applied : (authMachine hashToken bcrypt).apply s event = some s') :
    Move hashToken s.world s'.world ∧ s.world.clock ≤ s'.world.clock := by
  cases Machine.apply_moves applied with
  | arrival job same =>
      rw [same]
      exact ⟨.of_sublist (List.Sublist.refl _) rfl rfl, Int.le_refl _⟩
  | action waiting executed => exact ⟨move_exec executed, Int.le_of_eq (clock_exec executed).symm⟩
  | drifted happened => exact ⟨move_drift happened, (drift_frame happened).1⟩

/-! ### A token that is no longer accepted

The guard verifies the token, reads the user and compares the versions. A token is useless for good where one of
these steps fails in every later state: it has expired, or the stored version has passed it. The second also stops the
requests that have verified the token already and have yet to read the user. -/

/-- No request that stands at this place is authenticated, from now on or from any later time on. -/
def Unauthenticated (hashToken : Nat → Nat) (bcrypt : Bcrypt) (start : AuthProcess) (s : AuthSystem) : Prop :=
  ∀ later s', AuthRun hashToken bcrypt s later s' → ∀ k : Nat, s'.runs[k]? = some start →
    ∀ (rest : List AuthEvent) (s'' : AuthSystem), AuthRun hashToken bcrypt s' rest s'' →
      ∀ reply : AuthReply, s''.runs[k]? ≠ some (.done (.ok reply))

/-- No request that has yet to verify the token is authenticated by it. -/
def Rejected (hashToken : Nat → Nat) (bcrypt : Bcrypt) (token : AccessToken) (s : AuthSystem) : Prop :=
  Unauthenticated hashToken bcrypt ((authMachine hashToken bcrypt).handler (.canActivate (some token))) s

/-- Where the guard stands once it has verified the token: it has yet to read the user. -/
def HasVerified (hashToken : Nat → Nat) (bcrypt : Bcrypt) (token : AccessToken) (process : AuthProcess) : Prop :=
  ∃ resume, (authMachine hashToken bcrypt).handler (.canActivate (some token)) = .await (.verify token) resume ∧
    process = resume (.ok token.payload)

example (token : AccessToken) : ∃ process, HasVerified hashToken bcrypt token process := ⟨_, _, rfl, rfl⟩

/-- Where the answers never let the body of the guard pass, the guard fails. -/
theorem guided_canActivate {possible : (act : AuthAct) → act.Res → Prop} {token : AccessToken}
    (fails : (authenticate token).run.Guided possible (fun _ => True) (Process.Outcome (fun _ => False) fun _ => True)) :
    ((authMachine hashToken bcrypt).handler (.canActivate (some token))).Guided possible (fun _ => True)
      (Process.Outcome (fun _ => False) fun _ => True) :=
  Process.guided_recover fails fun _ _ => trivial

/-- An invariant of the worlds that keeps a process from passing keeps it from that at all later times. -/
theorem unauthenticated_of_guided {start : AuthProcess} (I : AuthWorld → Prop)
    (possible : (act : AuthAct) → act.Res → Prop)
    (kept : ∀ (s : AuthSystem) (event : AuthEvent) (s' : AuthSystem), I s.world →
      (authMachine hashToken bcrypt).apply s event = some s' → I s'.world)
    (answers : ∀ k choice act answer w w', I w →
      (authMachine hashToken bcrypt).exec k choice act w = some (answer, w') → possible act answer)
    (fails : start.Guided possible (fun _ => True) (Process.Outcome (fun _ => False) fun _ => True))
    (holds : I s.world) : Unauthenticated hashToken bcrypt start s := by
  intro later s' run k begins rest s'' further reply accepted
  have here : I s'.world := run.keeps (P := fun s => I s.world) (fun s event s' holds _ applied =>
    kept s event s' holds applied) holds
  obtain ⟨_, process, present, guided⟩ := further.guided (fun s => I s.world)
    (fun s event s' holds _ applied => kept s event s' holds applied)
    (fun s choice act answer w' holds _ _ executed => answers k choice act answer s.world w' holds executed) here begins
    fails
  cases accepted.symm.trans present
  exact guided

/-- An expired token is rejected. -/
theorem rejected_of_expired {token : AccessToken} (expired : token.expired s.world.clock) :
    Rejected hashToken bcrypt token s := by
  refine unauthenticated_of_guided (fun w => token.expired w.clock)
    (fun act answer => match act, answer with
      | .verify other, answer => other = token → ∀ payload, answer ≠ .ok payload
      | _, _ => True) ?_ ?_ ?_ expired
  · intro s event s' expired applied
    have forward := (move_apply applied).2
    unfold AccessToken.expired at expired ⊢
    omega
  · intro k choice act answer w w' expired executed
    cases act with
    | verify other =>
        cases executed
        rintro rfl payload passed
        simp [expired] at passed
        split at passed <;> cases passed
    | _ => trivial
  · refine guided_canActivate ⟨trivial, fun payload refused => ?_⟩
    cases payload with
    | ok payload => exact absurd rfl (refused rfl payload)
    | error failure => trivial

/-- What the guard can be answered once the stored version has passed that of the token. -/
def Superseded (token : AccessToken) : (act : AuthAct) → act.Res → Prop
  | .verify other, answer => ∀ payload, answer = .ok payload → payload = other.payload
  | .findById id, answer => id = token.payload.id → ∀ user, answer = .ok (some user) → token.version < user.version
  | _, _ => True

/-- With such answers the versions differ, so the guard fails. -/
theorem guided_superseded (token : AccessToken) :
    ((authMachine hashToken bcrypt).handler (.canActivate (some token))).Guided (Superseded token) (fun _ => True)
      (Process.Outcome (fun _ => False) fun _ => True) := by
  refine guided_canActivate ⟨trivial, fun payload verified => ?_⟩
  refine Process.guided_bind (Process.guided_liftExcept (Q := (· = token.payload)) verified fun _ _ => trivial) ?_
  rintro _ rfl
  refine Process.guided_bind (Process.guided_liftExcept (Q := fun _ => True) (fun _ _ => trivial) fun _ _ => trivial)
    fun _ _ => ?_
  refine ⟨trivial, fun found newer => ?_⟩
  refine Process.guided_bind (Process.guided_liftExcept (Q := fun found => ∀ user, found = some user →
    token.version < user.version) (fun found same user is => newer rfl user (is ▸ same)) fun _ _ => trivial)
    fun found newer => ?_
  refine Process.guided_bind (Process.guided_liftExcept (Q := fun _ => False) (fun user passed => ?_) fun _ _ => trivial)
    fun _ impossible => impossible.elim
  obtain ⟨rfl, same⟩ := Option.filter_eq_some_iff.mp (orFail_ok_iff.mp passed)
  have later := newer user rfl
  have equal := of_decide_eq_true same
  unfold AccessToken.version at later
  omega

/-- A process that these answers keep from passing never passes once the stored version has passed that of the token. -/
theorem unauthenticated_of_superseded {token : AccessToken} {start : AuthProcess}
    (fails : start.Guided (Superseded token) (fun _ => True) (Process.Outcome (fun _ => False) fun _ => True))
    (superseded : Covered token.payload.id (token.version + 1) s.world) :
    Unauthenticated hashToken bcrypt start s := by
  refine unauthenticated_of_guided (Covered token.payload.id (token.version + 1)) (Superseded token) ?_ ?_ fails
    superseded
  · exact fun s event s' covered applied => (move_apply applied).1.covered covered
  · intro k choice act answer w w' covered executed
    cases act with
    | verify other =>
        cases executed
        intro payload passed
        split at passed
        · split at passed
          · cases passed
          · exact (Except.ok.inj passed).symm
        · cases passed
    | findById id =>
        cases executed
        rintro rfl user found
        obtain ⟨mem, named⟩ := query_find found
        exact covered.2 user mem (of_decide_eq_true named)
    | _ => trivial

/-- A token of an earlier version is rejected. -/
theorem rejected_of_superseded {token : AccessToken}
    (superseded : Covered token.payload.id (token.version + 1) s.world) : Rejected hashToken bcrypt token s :=
  unauthenticated_of_superseded (guided_superseded token) superseded

/-- It is rejected also by a request that has verified it. -/
theorem hasVerified_of_superseded {token : AccessToken} {process : AuthProcess}
    (verified : HasVerified hashToken bcrypt token process)
    (superseded : Covered token.payload.id (token.version + 1) s.world) :
    Unauthenticated hashToken bcrypt process s := by
  obtain ⟨resume, waits, rfl⟩ := verified
  have guided := @guided_superseded hashToken bcrypt token
  rw [waits] at guided
  exact unauthenticated_of_superseded (guided.2 _ fun payload same => (Except.ok.inj same).symm) superseded

/-! ### A link that no longer works -/

/-- The event carries out this action. -/
def Performs (act : AuthAct) (s : AuthSystem) (event : AuthEvent) : Prop :=
  ∃ run choice resume, event = .step run choice ∧ choice.fate ≠ .lostBefore ∧
    s.runs[run]? = some (.await act resume)

/-- The event replaces a password with the link that carries this token. -/
def ReplacesWith (hashToken : Nat → Nat) (token : Nat) (s : AuthSystem) (event : AuthEvent) : Prop :=
  ∃ id companyId now password account,
    Performs (.resetPassword id companyId (hashToken token) now password) s event ∧
      s.world.accounts.find? (resettable id companyId (hashToken token) now) = some account

/-- The token replaces no password at any later time. -/
def Voided (hashToken : Nat → Nat) (bcrypt : Bcrypt) (token : Nat) (s : AuthSystem) : Prop :=
  ∀ later s', AuthRun hashToken bcrypt s later s' → ∀ event, ¬ReplacesWith hashToken token s' event

/-- A digest with this expiry opens nothing any more: it has expired, also for every request that has already taken
its last look at the clock. -/
def Lapsed (tokenHash : Nat) (expires : Option Int) (s : AuthSystem) : Prop :=
  ∀ instant, expires = some instant → instant ≤ s.world.clock ∧
    ∀ (k : Nat) id companyId now password resume,
      s.runs[k]? = some (.await (.resetPassword id companyId tokenHash now password) resume) → instant ≤ now

/-- An issued token is stored nowhere, or where it has lapsed. -/
def Spent (hashToken : Nat → Nat) (token : Nat) (s : AuthSystem) : Prop :=
  (∃ id, (id, token) ∈ s.world.links) ∧
    ∀ account ∈ s.world.accounts, account.passwordResetTokenHash = some (hashToken token) →
      Lapsed (hashToken token) account.passwordResetExpiresAt s

theorem handler_starts (job : AuthJob) : ((authMachine hashToken bcrypt).handler job).Starts Undated := by
  have ordinary : ∀ {process : Process AuthAct AuthAct.Res (Except AuthFailure AuthReply)},
      process.Every Ordinary → process.Starts Undated := fun every =>
    Process.Starts.of_every (every.mono fun _ => Ordinary.undated)
  cases job with
  | signIn email password => exact Process.Starts.of_every (undated_signIn email password)
  | exchangeGoogleUser userId => exact Process.Starts.of_every (undated_exchangeGoogleUser userId)
  | forgotPassword email => exact ordinary (ordinary_forgotPassword email)
  | resetPassword token newPassword =>
      intro act awaits
      cases awaits
      trivial
  | changePassword actor currentPassword newPassword =>
      exact ordinary (ordinary_changePassword actor currentPassword newPassword)
  | canActivate token => exact ordinary (ordinary_canActivate token)

/-- What has lapsed stays so: a write that is still to come carries a later time. -/
theorem lapsed_apply {tokenHash : Nat} {expires : Option Int} (all : AllDated s)
    (applied : (authMachine hashToken bcrypt).apply s event = some s') (lapsed : Lapsed tokenHash expires s) :
    Lapsed tokenHash expires s' := by
  intro instant same
  obtain ⟨expired, waiting⟩ := lapsed instant same
  refine ⟨Int.le_trans expired (move_apply applied).2, fun k id companyId now password resume present => ?_⟩
  rcases Machine.apply_origin present applied with before | ⟨job, arrived⟩ | ⟨choice, act, rest, answer, _, there, executed, next⟩
  · exact waiting k id companyId now password resume before
  · exact (handler_starts job (.resetPassword id companyId tokenHash now password) (by rw [← arrived]; rfl)).elim
  · have dated := (all k _ there answer).1 (.resetPassword id companyId tokenHash now password)
      (by rw [← next]; rfl)
    cases act with
    | now =>
        obtain ⟨rfl, _⟩ := Prod.mk.inj (Option.some.inj executed)
        have carried : now = s.world.clock := dated
        omega
    | _ => exact dated.elim

theorem spent_apply {token : Nat} (collisionFree : Function.Injective hashToken) (all : AllDated s)
    (applied : (authMachine hashToken bcrypt).apply s event = some s') (spent : Spent hashToken token s) :
    Spent hashToken token s' := by
  obtain ⟨⟨id, issued⟩, stored⟩ := spent
  have move := (move_apply applied).1
  refine ⟨⟨id, move.links_subset issued⟩, fun changed mem holds => ?_⟩
  rcases move.origin changed mem with ⟨account, mem, becomes⟩ | ⟨_, _, none⟩
  · cases becomes with
    | kept _ _ same expires =>
        rw [expires]
        exact lapsed_apply all applied (stored account mem (same ▸ holds))
    | cleared _ _ none =>
        rw [none] at holds
        cases holds
    | reminded other now fresh _ =>
        obtain rfl := collisionFree (Option.some.inj holds)
        exact absurd (List.mem_map.mpr ⟨_, issued, rfl⟩) fresh
  · rw [none] at holds
    cases holds

/-- What is spent replaces nothing at any later time. -/
theorem voided_of_spent {token : Nat} (collisionFree : Function.Injective hashToken) (all : AllDated s)
    (spent : Spent hashToken token s) : Voided hashToken bcrypt token s := by
  intro later s' run event replaces
  obtain ⟨_, _, stored⟩ : AllDated s' ∧ Spent hashToken token s' :=
    run.keeps (P := fun s => AllDated s ∧ Spent hashToken token s)
      (fun s event s' ⟨all, spent⟩ _ applied => ⟨allDated_apply all applied, spent_apply collisionFree all applied spent⟩)
      ⟨all, spent⟩
  obtain ⟨id, companyId, now, password, account, ⟨k, choice, resume, _, _, waiting⟩, found⟩ := replaces
  have mem := List.mem_of_find?_eq_some found
  have live := List.find?_some found
  simp only [resettable, resetTokenLive, Bool.and_eq_true, decide_eq_true_eq, Option.any_eq_true] at live
  obtain ⟨_, holds, instant, expires, later⟩ := live
  have lapsed := (stored account mem holds instant expires).2 k id companyId now password resume waiting
  omega

/-! ### Replacing the password

A reset does both things that revocation needs in one write. A change of the password does neither, so it revokes
exactly where both had been done already; the condition is on the state before the write. -/

/-- The account whose password the action replaces. -/
def AuthAct.replaced (w : AuthWorld) : AuthAct → Option Account
  | .resetPassword id companyId tokenHash instant _ => w.accounts.find? (resettable id companyId tokenHash instant)
  | .changePassword id companyId current _ => w.accounts.find? (changeable id companyId current)
  | _ => none

/-- The event replaces the stored password of the user. -/
def Replaces (id : Nat) (s : AuthSystem) (event : AuthEvent) : Prop :=
  ∃ act account, Performs act s event ∧ act.replaced s.world = some account ∧ account.id = id

/-- The event replaces the password of the user by `changePassword`. -/
def ChangesPassword (id : Nat) (s : AuthSystem) (event : AuthEvent) : Prop :=
  ∃ named companyId current password account,
    Performs (.changePassword named companyId current password) s event ∧
      s.world.accounts.find? (changeable named companyId current) = some account ∧ account.id = id

/-- Nothing is left to revoke: every access token of the user has expired or is of another version, and every stored
reset token has lapsed. -/
structure Unencumbered (id : Nat) (s : AuthSystem) : Prop where
  tokens : ∀ token ∈ s.world.signed, token.payload.id = id → token.expired s.world.clock ∨
    ∀ account ∈ s.world.accounts, account.id = id → token.version ≠ account.version
  links : ∀ account ∈ s.world.accounts, account.id = id → ∀ tokenHash,
    account.passwordResetTokenHash = some tokenHash → Lapsed tokenHash account.passwordResetExpiresAt s

/-- An update that reaches the database leaves the changed document there. -/
theorem changed_mem {choice : AuthChoice} {filter : Account → Bool} {change : Account → Account}
    (reaches : choice.fate ≠ .lostBefore) (found : w.accounts.find? filter = some account) :
    change account ∈ (w.update choice filter change).2.accounts := by
  have updated : ∃ result, findOneAndUpdate filter change w.accounts = some result := by
    rw [← Option.isSome_iff_exists, ← Option.ne_none_iff_isSome]
    intro none
    rw [findOneAndUpdate_none_iff.mp none] at found
    cases found
  obtain ⟨⟨changed, accounts⟩, updated⟩ := updated
  obtain ⟨before, matched, after, _, _, first, _, rfl⟩ := findOneAndUpdate_split updated
  cases found.symm.trans first
  unfold AuthWorld.update
  rw [updated]
  cases fate : choice.fate with
  | delivered | lostAfter => simp
  | lostBefore => exact absurd fate reaches

/-- After a replacement the account is either reset or has been given the password alone. -/
theorem replaced_mem {act : AuthAct} (performs : Performs act s event)
    (applied : (authMachine hashToken bcrypt).apply s event = some s')
    (found : act.replaced s.world = some account) :
    (∃ password, account.reset password ∈ s'.world.accounts) ∨
      (ChangesPassword account.id s event ∧ ∃ password, account.changePassword password ∈ s'.world.accounts) := by
  obtain ⟨run, choice, resume, rfl, reaches, waiting⟩ := performs
  have moved := Machine.apply_moves applied
  cases moved with
  | action there executed =>
      cases waiting.symm.trans there
      cases act with
      | resetPassword id companyId tokenHash instant password =>
          refine .inl ⟨password, ?_⟩
          rw [← (Prod.mk.inj (Option.some.inj executed)).2]
          exact changed_mem reaches found
      | changePassword id companyId current password =>
          refine .inr ⟨⟨id, companyId, current, password, account, ⟨run, choice, resume, rfl, reaches, waiting⟩, found, rfl⟩,
            password, ?_⟩
          rw [← (Prod.mk.inj (Option.some.inj executed)).2]
          exact changed_mem reaches found
      | _ => cases found

/-- What a replacement of the password leaves of the credentials that the user had before. -/
structure Revoked (hashToken : Nat → Nat) (bcrypt : Bcrypt) (id : Nat) (s s' : AuthSystem) : Prop where
  /-- No access token that was signed before is accepted any more. -/
  tokens : ∀ token ∈ s.world.signed, token.payload.id = id → Rejected hashToken bcrypt token s'
  /-- Nor is one that was still valid, by a request that has verified it before and has yet to read the user. -/
  verified : ∀ token ∈ s.world.signed, token.payload.id = id → ¬token.expired s.world.clock →
    ∀ process, HasVerified hashToken bcrypt token process → Unauthenticated hashToken bcrypt process s'
  /-- No link that was issued before replaces the password again. -/
  links : ∀ token, (id, token) ∈ s.world.links → Voided hashToken bcrypt token s'

/-- In a sound state the only account with an id that is stored covers what it does. -/
theorem covered_succ {token : AccessToken} (sound : CredentialsSound hashToken w) (mem : changed ∈ w.accounts)
    (named : token.payload.id = changed.id) (newer : token.version < changed.version) :
    Covered token.payload.id (token.version + 1) w := by
  have covered := covered_of_mem sound mem
  rw [named]
  exact ⟨covered.1, fun account other same => Nat.le_trans newer (covered.2 account other same)⟩

/-- A digest of an issued token is stored with the user it was issued for or nowhere. -/
theorem owner_of_stored {id token : Nat} (collisionFree : Function.Injective hashToken)
    (sound : CredentialsSound hashToken w) (issued : (id, token) ∈ w.links) (mem : account ∈ w.accounts)
    (holds : account.passwordResetTokenHash = some (hashToken token)) : account.id = id := by
  obtain ⟨other, same, owned⟩ := sound.owners account mem _ holds
  obtain rfl := collisionFree same
  exact (Prod.mk.inj (List.inj_on_of_nodup_map sound.tokens owned issued rfl)).1

/-- In every run from a system without accounts, every replacement of a password by a reset, and every one by
`changePassword` that finds nothing left to revoke, revokes all credentials that the user had before. -/
theorem password_replacement_revokes (collisionFree : Function.Injective hashToken) (idle : s.runs = [])
    (none : s.world.accounts = [] ∧ s.world.signed = [] ∧ s.world.links = [])
    (reached : AuthRun hashToken bcrypt s events s') {id : Nat} {s'' : AuthSystem}
    (applied : (authMachine hashToken bcrypt).apply s' event = some s'') (replaces : Replaces id s' event)
    (unencumbered : ChangesPassword id s' event → Unencumbered id s') : Revoked hashToken bcrypt id s' s'' := by
  have reachable := reachable_of_run idle none reached
  obtain ⟨move, forward⟩ := move_apply applied
  have sound := move.sound reachable.sound
  have dated := allDated_apply reachable.dated applied
  obtain ⟨act, account, performs, found, rfl⟩ := replaces
  have before : account ∈ s'.world.accounts := by
    cases act with
    | resetPassword | changePassword => exact List.mem_of_find?_eq_some found
    | _ => cases found
  -- Whatever is stored for one of the links is stored in the account that has just changed.
  have voids : ∀ changed ∈ s''.world.accounts, changed.id = account.id →
      (∀ tokenHash, changed.passwordResetTokenHash = some tokenHash →
        Lapsed tokenHash changed.passwordResetExpiresAt s'') →
      ∀ token, (account.id, token) ∈ s'.world.links → Voided hashToken bcrypt token s'' := by
    intro changed mem named lapsed token issued
    have issued := move.links_subset issued
    refine voided_of_spent collisionFree dated ⟨⟨account.id, issued⟩, fun other otherMem holds => ?_⟩
    have owner := owner_of_stored collisionFree sound issued otherMem holds
    obtain rfl := List.inj_on_of_nodup_map sound.ids otherMem mem (owner.trans named.symm)
    exact lapsed _ holds
  rcases replaced_mem performs applied found with ⟨password, mem⟩ | ⟨changes, password, mem⟩
  · -- a reset raises the version above that of every token
    have newer : ∀ token ∈ s'.world.signed, token.payload.id = account.id →
        Covered token.payload.id (token.version + 1) s''.world := by
      intro token signed named
      refine covered_succ sound mem named (Nat.lt_succ_of_le ?_)
      exact (reachable.covered token signed).2 account before named.symm
    constructor
    case tokens => exact fun token signed named => rejected_of_superseded (newer token signed named)
    case verified =>
      exact fun token signed named _ process verified => hasVerified_of_superseded verified (newer token signed named)
    case links =>
      refine voids _ mem rfl fun tokenHash holds => ?_
      cases holds
  · obtain ⟨tokens, links⟩ := unencumbered changes
    -- a change keeps the version, and that of a token which differs from it lies below
    have newer : ∀ token ∈ s'.world.signed, token.payload.id = account.id →
        (∀ stored ∈ s'.world.accounts, stored.id = account.id → token.version ≠ stored.version) →
          Covered token.payload.id (token.version + 1) s''.world := by
      intro token signed named differs
      have behind := (reachable.covered token signed).2 account before named.symm
      exact covered_succ sound mem named (Nat.lt_of_le_of_ne behind (differs account before rfl))
    constructor
    case tokens =>
      intro token signed named
      rcases tokens token signed named with expired | differs
      · refine rejected_of_expired ?_
        unfold AccessToken.expired at expired ⊢
        omega
      · exact rejected_of_superseded (newer token signed named differs)
    case verified =>
      intro token signed named valid process verified
      have differs := (tokens token signed named).resolve_left valid
      exact hasVerified_of_superseded verified (newer token signed named differs)
    case links =>
      exact voids _ mem rfl fun tokenHash holds =>
        lapsed_apply reachable.dated applied (links account before rfl tokenHash holds)

/-! ### Two runs -/

/-- A hash that shows its password. -/
def plain : Bcrypt where
  hash _ password := password
  compare password hashed := password == hashed

def noAccounts : AuthSystem where
  world := { clock := 0, accounts := [], companies := fun _ => none, nextId := 0 }
  runs := []

/-- An owner signs in and asks for a reset link; after `elapsed` milliseconds the password is about to be changed. -/
def changing (elapsed : Nat) : List AuthEvent :=
  .drift (.company 1 (some { name := "", activatedAt := some 0 })) ::
    .drift (.register "owner" (some "old") (some 0) (some 1) (some .companyOwner)) ::
    .arrive (.signIn "owner" "old") :: List.replicate 3 (.step 0 {}) ++
    .arrive (.forgotPassword "owner") :: List.replicate 5 (.step 1 { token := 7 }) ++
    .drift (.tick elapsed) :: .arrive (.changePassword ⟨0, 1, .companyOwner⟩ "old" "new") ::
    List.replicate 2 (.step 2 {})

/-- The token that the owner has signed in with. -/
def firstToken : AccessToken := signAsync { id := 0, version := some 0 } 0

/-- Some run waits for the write of a reset. -/
def awaitsReset (s : AuthSystem) : Bool :=
  s.runs.any fun process => process.awaited.any fun act => match act with
    | .resetPassword .. => true
    | _ => false

/-- Whatever has expired while nobody is about to reset a password has lapsed. -/
theorem lapsed_of_idle {tokenHash : Nat} {expires : Option Int} (idle : awaitsReset s = false)
    (expired : expires.all fun instant => decide (instant ≤ s.world.clock)) : Lapsed tokenHash expires s := by
  rintro instant rfl
  refine ⟨by simpa using expired, fun k id companyId now password resume waiting => ?_⟩
  have awaits : awaitsReset s = true :=
    List.any_eq_true.mpr ⟨_, List.mem_of_getElem? waiting, rfl⟩
  rw [idle] at awaits
  cases awaits

theorem replaces_change {k id companyId : Nat} {current password : String} (account : Account)
    (waiting : (s.runs[k]?.bind Process.awaited) = some (.changePassword id companyId current password))
    (found : s.world.accounts.find? (changeable id companyId current) = some account) :
    Replaces account.id s (.step k {}) := by
  obtain ⟨process, present, awaits⟩ := Option.bind_eq_some_iff.mp waiting
  obtain ⟨resume, rfl⟩ := Process.awaited_eq_some.mp awaits
  exact ⟨_, account, ⟨k, {}, resume, rfl, nofun, present⟩, found, rfl⟩

/-- Two hours later the token and the link have expired, so the change leaves nothing behind. -/
theorem password_replacement_revokes_expired :
    ∃ s' s'', (authMachine id plain).play (changing 7200000) noAccounts = some s' ∧
      (authMachine id plain).apply s' (.step 2 {}) = some s'' ∧ s'.world.signed = [firstToken] ∧
      s'.world.links = [(0, 7)] ∧ Revoked id plain 0 s' s'' := by
  have plays : ((authMachine id plain).play (changing 7200000) noAccounts).any fun s' => decide
      (((authMachine id plain).apply s' (.step 2 {})).isSome ∧ s'.world.signed = [firstToken] ∧
        s'.world.links = [(0, 7)] ∧ firstToken.expired s'.world.clock ∧ awaitsReset s' = false ∧
        (s'.runs[2]?.bind Process.awaited) = some (.changePassword 0 1 "old" "new") ∧
        (s'.world.accounts.find? (changeable 0 1 "old")).map (·.id) = some 0 ∧
        ∀ account ∈ s'.world.accounts,
          account.passwordResetExpiresAt.all fun instant => decide (instant ≤ s'.world.clock)) := by decide +kernel
  obtain ⟨s', played, checked⟩ := (Option.any_eq_true ..).mp plays
  obtain ⟨applies, signed, links, expired, idle, waiting, found, lapsed⟩ := of_decide_eq_true checked
  obtain ⟨s'', applied⟩ := Option.isSome_iff_exists.mp applies
  obtain ⟨account, found, named⟩ := Option.map_eq_some_iff.mp found
  refine ⟨s', s'', played, applied, signed, links, ?_⟩
  refine password_replacement_revokes Function.injective_id (s := noAccounts) rfl ⟨rfl, rfl, rfl⟩
    (Machine.run_of_play played) applied (named ▸ replaces_change account waiting found) fun _ => ⟨?_, ?_⟩
  · intro token mem _
    rw [signed] at mem
    exact .inl (List.mem_singleton.mp mem ▸ expired)
  · exact fun account mem _ tokenHash _ => lapsed_of_idle idle (lapsed account mem)

/-- A guard that accepts the token after it arrives. -/
theorem not_rejected {hashToken : Nat → Nat} {token : AccessToken} {rest : List AuthEvent} {reply : AuthReply}
    (played : (authMachine hashToken bcrypt).play (.arrive (.canActivate (some token)) :: rest) s = some s')
    (accepted : (s'.runs[s.runs.length]?.bind Process.returned) = some (.ok reply)) :
    ¬Rejected hashToken bcrypt token s := by
  intro rejected
  obtain ⟨middle, applied, tail⟩ := Option.bind_eq_some_iff.mp played
  obtain ⟨process, present, returned⟩ := Option.bind_eq_some_iff.mp accepted
  obtain rfl := Process.returned_eq_some.mp returned
  exact rejected _ middle (.cons trivial applied (.nil _)) s.runs.length (Machine.apply_arrive applied).1 rest s'
    (Machine.run_of_play tail) reply present

/-- A link that is about to replace the password. -/
theorem not_voided {hashToken : Nat → Nat} {token k id companyId : Nat} {now : Int} {password : String}
    {rest : List AuthEvent} (played : (authMachine hashToken bcrypt).play rest s = some s')
    (waiting : (s'.runs[k]?.bind Process.awaited) =
      some (.resetPassword id companyId (hashToken token) now password))
    (found : (s'.world.accounts.find? (resettable id companyId (hashToken token) now)).isSome) :
    ¬Voided hashToken bcrypt token s := by
  intro voided
  obtain ⟨process, present, awaits⟩ := Option.bind_eq_some_iff.mp waiting
  obtain ⟨resume, rfl⟩ := Process.awaited_eq_some.mp awaits
  obtain ⟨account, found⟩ := Option.isSome_iff_exists.mp found
  exact voided rest s' (Machine.run_of_play played) (.step k {})
    ⟨id, companyId, now, password, account, ⟨k, {}, resume, rfl, nofun, present⟩, found⟩

/-- The old token is presented to the guard. -/
def presenting : List AuthEvent := .arrive (.canActivate (some firstToken)) :: List.replicate 3 (.step 3 {})

/-- The old link is used, up to the write. -/
def resetting : List AuthEvent := .arrive (.resetPassword 7 "third") :: List.replicate 5 (.step 3 {})

/-- Right after the change the old token is accepted and the old link still works. -/
theorem password_change_revokes_nothing :
    ∃ s' s'', (authMachine id plain).play (changing 0) noAccounts = some s' ∧
      (authMachine id plain).apply s' (.step 2 {}) = some s'' ∧ Replaces 0 s' (.step 2 {}) ∧
      (firstToken ∈ s'.world.signed ∧ ¬Rejected id plain firstToken s'') ∧
      ((0, 7) ∈ s'.world.links ∧ ¬Voided id plain 7 s'') ∧ ¬Revoked id plain 0 s' s'' := by
  have plays : ((authMachine id plain).play (changing 0) noAccounts).any fun s' =>
      ((authMachine id plain).apply s' (.step 2 {})).any fun s'' =>
        ((authMachine id plain).play presenting s'').any fun accepting =>
          ((authMachine id plain).play resetting s'').any fun open' => decide
            (firstToken ∈ s'.world.signed ∧ (0, 7) ∈ s'.world.links ∧
              (s'.runs[2]?.bind Process.awaited) = some (.changePassword 0 1 "old" "new") ∧
              (s'.world.accounts.find? (changeable 0 1 "old")).map (·.id) = some 0 ∧
              (accepting.runs[s''.runs.length]?.bind Process.returned) =
                some (.ok (.authenticated ⟨0, 1, .companyOwner⟩)) ∧
              (open'.runs[3]?.bind Process.awaited) = some (.resetPassword 0 1 7 0 "third") ∧
              (open'.world.accounts.find? (resettable 0 1 7 0)).isSome) := by decide +kernel
  obtain ⟨s', played, plays⟩ := (Option.any_eq_true ..).mp plays
  obtain ⟨s'', applied, plays⟩ := (Option.any_eq_true ..).mp plays
  obtain ⟨accepting, guards, plays⟩ := (Option.any_eq_true ..).mp plays
  obtain ⟨opened, resets, checked⟩ := (Option.any_eq_true ..).mp plays
  obtain ⟨signed, issued, waiting, found, accepted, awaits, live⟩ := of_decide_eq_true checked
  obtain ⟨account, found, named⟩ := Option.map_eq_some_iff.mp found
  have kept : ¬Rejected id plain firstToken s'' := not_rejected guards accepted
  have works : ¬Voided id plain 7 s'' := not_voided resets awaits live
  exact ⟨s', s'', played, applied, named ▸ replaces_change account waiting found, ⟨signed, kept⟩, ⟨issued, works⟩,
    fun revoked => kept (revoked.tokens _ signed rfl)⟩

end DataVault.Auth
