/-
Module: DataVault.Auth.OnboardingSteps
Layer: Proof
Purpose: What one step does to companies with their owners and subscriptions, to verification tokens and to the codes
  of Google sign-in.
Imports: DataVault.Auth.Onboarding, DataVault.Interleaving.Following
Trusted boundary: none
Main exports: OnboardingSystem, Created, Move, move_exec, move_drift, move_apply
-/
import DataVault.Auth.Onboarding
import DataVault.Interleaving.Following

namespace DataVault.Auth.Onboarding

open DataVault.Companies DataVault.Control DataVault.Interleaving DataVault.Store DataVault.Subscriptions
open DataVault.Users

/-! ### What the steps are about -/

/-- The owner of a company. -/
def owns (companyId : Nat) (user : Account) : Bool :=
  user.companyId = some companyId && user.role = some .companyOwner

namespace OnboardingWorld

variable (w : OnboardingWorld)

/-- The companies by id, with their activation. -/
def stages : List (Nat × Option Int) := w.companies.map fun company => (company.id, company.activatedAt)

/-- The accounts that own a company. -/
def owners : List Account := w.users.filter fun user => user.role = some .companyOwner

/-- The latest verification token that was written for a company. -/
def latestWrite (companyId : Nat) : Option VerificationWrite := w.writes.find? fun write => write.companyId = companyId

end OnboardingWorld

theorem owners_count {w : OnboardingWorld} {companyId : Nat} :
    countDocuments w.users (owns companyId) = countDocuments w.owners (·.companyId = some companyId) := by
  rw [countDocuments, countDocuments, OnboardingWorld.owners, List.countP_filter]
  rfl

/-- A company with its owner and its subscription, all new and stored in one transaction. The company takes the next id
and the owner the one behind it. -/
structure Created (w w' : OnboardingWorld) (company : StoredCompany) (owner : Account) (subscription : Subscription) :
    Prop where
  companies : w'.companies = company :: w.companies
  users : w'.users = owner :: w.users
  subscriptions : w'.subscriptions = subscription :: w.subscriptions
  named : company.id = w.nextId
  allocated : w'.nextId = w.nextId + 2
  owned : owner.companyId = some company.id
  role : owner.role = some .companyOwner
  subscribed : subscription.companyId = company.id

/-- What a step does, and by which action. Every invariant of the registrations is derived from this, by its cases. -/
inductive Move (lib : Libraries) (w w' : OnboardingWorld) (act : Option (Nat × OnboardingAct)) : Prop where
  /-- Nothing, or something about members, names and the platform's status of companies. -/
  | aside (stages : w'.stages = w.stages) (owners : w'.owners = w.owners)
      (subscriptions : w'.subscriptions = w.subscriptions) (verifications : w'.verifications = w.verifications)
      (exchanges : w'.exchanges = w.exchanges) (ids : w.nextId ≤ w'.nextId) (writes : w'.writes = w.writes)
      (codes : w'.codes = w.codes) (consumed : w'.consumed = w.consumed) (signed : w'.signed = w.signed)
  | purgedVerification (before after : List CompanyVerification) (verification : CompanyVerification)
      (split : w.verifications = before ++ verification :: after)
      (becomes : w' = { w with verifications := before ++ after })
  | purgedExchange (before after : List GoogleOAuthExchange) (exchange : GoogleOAuthExchange) (asked : act = none)
      (split : w.exchanges = before ++ exchange :: after) (expired : exchange.expiresAt ≤ w.clock)
      (becomes : w' = { w with exchanges := before ++ after })
  | signedUp (run token : Nat) (name email password : String) (company : StoredCompany) (owner : Account)
      (subscription : Subscription) (verification : CompanyVerification)
      (asked : act = some (run, .signUp name email password))
      (created : Created w w' company owner subscription) (inactive : company.activatedAt = none)
      (address : owner.email = email)
      (digest : verification.companyId = company.id ∧ verification.tokenHash = lib.hashToken token)
      (unique : ∀ other ∈ w.verifications, other.companyId ≠ company.id)
      (verifications : w'.verifications = verification :: w.verifications)
      (writes : w'.writes = ⟨company.id, token, verification.expiresAt⟩ :: w.writes)
      (exchanges : w'.exchanges = w.exchanges) (codes : w'.codes = w.codes) (consumed : w'.consumed = w.consumed)
      (signed : w'.signed = w.signed)
  /-- A new token for a company that has a verification, or that has none. -/
  | resent (write : VerificationWrite) (before after : List CompanyVerification) (verification : CompanyVerification)
      (digest : verification.companyId = write.companyId ∧ verification.tokenHash = lib.hashToken write.token ∧
        verification.expiresAt = write.expiresAt)
      (replaced : (∃ earlier, earlier.companyId = write.companyId ∧ w.verifications = before ++ earlier :: after) ∨
        (∀ other ∈ w.verifications, other.companyId ≠ write.companyId) ∧ w.verifications = before ++ after)
      (becomes : w' = { w with verifications := before ++ verification :: after, writes := write :: w.writes })
  | verified (run tokenHash : Nat) (now : Int) (before after : List CompanyVerification)
      (verification : CompanyVerification) (first last : List StoredCompany) (company : StoredCompany)
      (asked : act = some (run, .verify tokenHash now))
      (split : w.verifications = before ++ verification :: after)
      (presented : verification.tokenHash = tokenHash ∧ now < verification.expiresAt)
      (companies : w.companies = first ++ company :: last) (named : company.id = verification.companyId)
      (inactive : company.activatedAt = none)
      (becomes : w' = { w with
        verifications := before ++ after, companies := first ++ { company with activatedAt := some now } :: last })
  | issued (code : Nat) (exchange : GoogleOAuthExchange) (digest : exchange.codeHash = lib.hashToken code)
      (fresh : ∀ issued ∈ w.codes, issued.1 ≠ code)
      (becomes : w' = { w with exchanges := exchange :: w.exchanges, codes := (code, exchange.userId) :: w.codes })
  | consumed (run : Nat) (now : Int) (before after : List GoogleOAuthExchange) (exchange : GoogleOAuthExchange)
      (asked : act = some (run, .consumeExchange exchange.codeHash now))
      (split : w.exchanges = before ++ exchange :: after) (login : exchange.purpose = .login)
      (becomes : w' = { w with
        exchanges := before ++ after, consumed := (run, exchange.codeHash) :: w.consumed })
  | registered (run : Nat) (name email : String) (now instant : Int) (before after : List GoogleOAuthExchange)
      (exchange : GoogleOAuthExchange) (company : StoredCompany) (owner : Account) (subscription : Subscription)
      (asked : act = some (run, .signUpWithGoogle exchange.codeHash name))
      (split : w.exchanges = before ++ exchange :: after)
      (registration : exchange.purpose = .registration ∧ now < exchange.expiresAt ∧ exchange.email = some email)
      (created : Created w w' company owner subscription) (active : company.activatedAt = some instant)
      (address : owner.email = email)
      (exchanges : w'.exchanges = before ++ after) (verifications : w'.verifications = w.verifications)
      (writes : w'.writes = w.writes) (codes : w'.codes = w.codes) (consumed : w'.consumed = w.consumed)
      (signed : w'.signed = w.signed)
  | signed (run : Nat) (source : Option Nat) (payload : TokenPayload) (asked : act = some (run, .sign source payload))
      (becomes : w' = { w with signed := ⟨source, payload⟩ :: w.signed })

variable {lib : Libraries} {w w' : OnboardingWorld} {act : Option (Nat × OnboardingAct)}

theorem Move.same : Move lib w w act := .aside rfl rfl rfl rfl rfl (Nat.le_refl _) rfl rfl rfl rfl

/-! ### Transactions -/

/-- A transaction changes nothing or has taken effect. -/
theorem transact_moves {α : Type} {choice : OnboardingChoice} {work : Except AuthFailure (α × OnboardingWorld)}
    {answer : Except AuthFailure α} (moves : ∀ value after, work = .ok (value, after) → Move lib w after act)
    (done : transact choice w work = (answer, w')) : Move lib w w' act := by
  unfold transact at done
  split at done
  · cases done
    exact .same
  · rename_i value after
    have move := moves value after rfl
    cases fate : choice.fate <;> rw [fate] at done <;> cases done
    · exact move
    · exact move
    · exact .same

variable {run token tokenHash codeHash : Nat} {name email : String} {now activatedAt subscribedAt : Int}

theorem create_ok {password : Option String} {active : Option Int} {company : StoredCompany} {owner : Account}
    (done : w.create lib name email password active subscribedAt = .ok ((company, owner), w')) :
    (∃ subscription, Created w w' company owner subscription) ∧ company.activatedAt = active ∧ owner.email = email ∧
      w' = { w with
        companies := w'.companies, users := w'.users, subscriptions := w'.subscriptions, nextId := w'.nextId } := by
  obtain ⟨_, _, done⟩ := bind_ok_iff.mp done
  obtain ⟨_, _, done⟩ := bind_ok_iff.mp done
  cases done
  exact ⟨⟨_, rfl, rfl, rfl, rfl, rfl, rfl, rfl, rfl⟩, rfl, rfl, rfl⟩

theorem move_signUp {password : String} {value : Nat}
    (done : w.signUp lib token name email password subscribedAt now = .ok (value, w')) :
    Move lib w w' (some (run, .signUp name email password)) := by
  obtain ⟨⟨⟨company, owner⟩, between⟩, created, done⟩ := bind_ok_iff.mp done
  obtain ⟨⟨subscription, created⟩, inactive, address, frame⟩ := create_ok created
  obtain ⟨_, unique, done⟩ := bind_ok_iff.mp done
  obtain ⟨_, _, done⟩ := bind_ok_iff.mp done
  cases done
  obtain ⟨companies, users, subscriptions, named, allocated, owned, role, subscribed⟩ := created
  have kept : between.verifications = w.verifications ∧ between.writes = w.writes ∧ between.exchanges = w.exchanges ∧
      between.codes = w.codes ∧ between.consumed = w.consumed ∧ between.signed = w.signed := by
    rw [frame]
    exact ⟨rfl, rfl, rfl, rfl, rfl, rfl⟩
  obtain ⟨verifications, writes, exchanges, codes, consumed, signed⟩ := kept
  have unique : ∀ other ∈ w.verifications, other.companyId ≠ company.id := by
    simpa [verifications] using require_ok_iff.mp unique
  exact .signedUp run token name email password company owner subscription _ rfl
    ⟨companies, users, subscriptions, named, allocated, owned, role, subscribed⟩ inactive address ⟨rfl, rfl⟩ unique
    (congrArg _ verifications) (congrArg _ writes) exchanges codes consumed signed

theorem move_signUpWithGoogle {value : Account}
    (done : w.signUpWithGoogle lib codeHash name now activatedAt subscribedAt = .ok (value, w')) :
    Move lib w w' (some (run, .signUpWithGoogle codeHash name)) := by
  obtain ⟨⟨exchange, exchanges⟩, found, done⟩ := bind_ok_iff.mp done
  obtain ⟨before, after, split, matched, rfl⟩ := findOneAndDelete_split (orFail_ok_iff.mp found)
  obtain ⟨email, stored, done⟩ := bind_ok_iff.mp done
  obtain ⟨stored, _⟩ := Option.filter_eq_some_iff.mp (orFail_ok_iff.mp stored)
  obtain ⟨⟨⟨company, owner⟩, between⟩, created, done⟩ := bind_ok_iff.mp done
  obtain ⟨⟨subscription, created⟩, active, address, frame⟩ := create_ok created
  cases done
  simp only [OnboardingWorld.registrable, Bool.and_eq_true, decide_eq_true_eq] at matched
  obtain ⟨⟨rfl, purpose⟩, unexpired⟩ := matched
  obtain ⟨companies, users, subscriptions, named, allocated, owned, role, subscribed⟩ := created
  refine .registered run name email now activatedAt before after exchange company value subscription rfl split
    ⟨purpose, unexpired, stored⟩ ⟨companies, users, subscriptions, named, allocated, owned, role, subscribed⟩ active
    address rfl ?_ ?_ ?_ ?_ ?_
  all_goals
    simp only
    rw [frame]

theorem move_writeVerification {value companyId ownerId : Nat}
    (done : w.writeVerification lib token companyId ownerId now = .ok (value, w')) : Move lib w w' act := by
  obtain ⟨_, _, done⟩ := bind_ok_iff.mp done
  simp only at done
  split at done
  · rename_i updated verifications found
    cases done
    obtain ⟨before, earlier, after, split, matched, _, _, rfl⟩ := findOneAndUpdate_split found
    simp only [OnboardingWorld.resendable, Bool.and_eq_true, decide_eq_true_eq] at matched
    exact .resent ⟨companyId, token, now + verificationTokenTtlMs⟩ before after
      { earlier with
        tokenHash := lib.hashToken token
        expiresAt := now + verificationTokenTtlMs
        lastSentAt := now } ⟨matched.1, rfl, rfl⟩ (.inl ⟨earlier, matched.1, split⟩) rfl
  · obtain ⟨_, unique, done⟩ := bind_ok_iff.mp done
    cases done
    exact .resent ⟨companyId, token, _⟩ [] w.verifications _ ⟨rfl, rfl, rfl⟩
      (.inr ⟨by simpa using require_ok_iff.mp unique, rfl⟩) rfl

theorem move_verify {value : Unit} (done : w.verify tokenHash now = .ok (value, w')) :
    Move lib w w' (some (run, .verify tokenHash now)) := by
  obtain ⟨⟨verification, verifications⟩, found, done⟩ := bind_ok_iff.mp done
  obtain ⟨before, after, split, presented, rfl⟩ := findOneAndDelete_split (orFail_ok_iff.mp found)
  obtain ⟨_, _, done⟩ := bind_ok_iff.mp done
  obtain ⟨⟨_, companies⟩, activated, done⟩ := bind_ok_iff.mp done
  obtain ⟨first, company, last, here, inactive, _, _, rfl⟩ := findOneAndUpdate_split (orFail_ok_iff.mp activated)
  cases done
  simp only [Bool.and_eq_true, decide_eq_true_eq, Option.isNone_iff_eq_none] at presented inactive
  exact .verified run tokenHash now before after verification first last company rfl split presented here inactive.1
    inactive.2 rfl

theorem move_createExchange {exchange : GoogleOAuthExchange} {value : Nat} (fresh : w.repeatsCode token = false)
    (digest : exchange.codeHash = lib.hashToken token)
    (done : w.createExchange token exchange = .ok (value, w')) : Move lib w w' act := by
  obtain ⟨_, _, done⟩ := bind_ok_iff.mp done
  cases done
  exact .issued token exchange digest (by simpa [OnboardingWorld.repeatsCode] using fresh) rfl

theorem move_consumeExchange {value : Option GoogleOAuthExchange}
    (done : w.consumeExchange run codeHash now = .ok (value, w')) :
    Move lib w w' (some (run, .consumeExchange codeHash now)) := by
  unfold OnboardingWorld.consumeExchange at done
  split at done
  · cases done
    exact .same
  · rename_i exchange exchanges found
    cases done
    obtain ⟨before, after, split, matched, rfl⟩ := findOneAndDelete_split found
    simp only [Bool.and_eq_true, decide_eq_true_eq] at matched
    obtain ⟨⟨rfl, login⟩, _⟩ := matched
    exact .consumed run now before after exchange rfl split login rfl

/-! ### Steps -/

theorem move_exec {choice : OnboardingChoice} {act : OnboardingAct} {answer : act.Res}
    (executed : onboardingExec lib run choice act w = some (answer, w')) : Move lib w w' (some (run, act)) := by
  cases act with
  | now | hash | sendActivation | findInactiveOwner | findByEmail | findById | findActivatedCompany | saveUser =>
      cases executed
      exact .same
  | signUp name email password =>
      simp only [onboardingExec] at executed
      split at executed
      · cases executed
      · exact transact_moves (fun _ _ done => move_signUp done) (Option.some.inj executed)
  | writeVerification companyId ownerId now =>
      simp only [onboardingExec] at executed
      split at executed
      · cases executed
      · exact transact_moves (fun _ _ done => move_writeVerification done) (Option.some.inj executed)
  | verify tokenHash now => exact transact_moves (fun _ _ done => move_verify done) (Option.some.inj executed)
  | createExchange | createRegistrationExchange =>
      simp only [onboardingExec] at executed
      split at executed
      · cases executed
      · rename_i fresh
        exact transact_moves (fun _ _ done => move_createExchange (Bool.eq_false_iff.mpr fresh) rfl done)
          (Option.some.inj executed)
  | consumeExchange codeHash now =>
      exact transact_moves (fun _ _ done => move_consumeExchange done) (Option.some.inj executed)
  | signUpWithGoogle codeHash name =>
      exact transact_moves (fun _ _ done => move_signUpWithGoogle done) (Option.some.inj executed)
  | sign source payload =>
      cases executed
      exact .signed run source payload rfl rfl

theorem move_drift {change : OnboardingDrift} (happened : onboardingDrift change w = some w') : Move lib w w' none := by
  cases change with
  | tick elapsed =>
      cases happened
      exact .aside rfl rfl rfl rfl rfl (Nat.le_refl _) rfl rfl rfl rfl
  | purgeVerification companyId =>
      obtain ⟨⟨verification, _⟩, found, rfl⟩ := Option.map_eq_some_iff.mp happened
      obtain ⟨before, after, split, _, rfl⟩ := findOneAndDelete_split found
      exact .purgedVerification before after verification split rfl
  | purgeExchange codeHash =>
      obtain ⟨⟨exchange, _⟩, found, rfl⟩ := Option.map_eq_some_iff.mp happened
      obtain ⟨before, after, split, matched, rfl⟩ := findOneAndDelete_split found
      simp only [Bool.and_eq_true, decide_eq_true_eq] at matched
      exact .purgedExchange before after exchange rfl split matched.2 rfl
  | join email password companyId =>
      simp only [onboardingDrift] at happened
      split at happened
      · cases happened
      · cases happened
        exact .aside rfl (by simp [OnboardingWorld.owners]) rfl rfl rfl (by simp) rfl rfl rfl rfl
  | leave id =>
      obtain ⟨⟨user, _⟩, found, rfl⟩ := Option.map_eq_some_iff.mp happened
      obtain ⟨before, after, split, matched, rfl⟩ := findOneAndDelete_split found
      simp only [Bool.and_eq_true, decide_eq_true_eq] at matched
      refine .aside rfl ?_ rfl rfl rfl (Nat.le_refl _) rfl rfl rfl rfl
      simp [OnboardingWorld.owners, split, matched.2]
  | update companyId name platformStatus =>
      cases happened
      refine .aside ?_ rfl rfl rfl rfl (Nat.le_refl _) rfl rfl rfl rfl
      simp only [OnboardingWorld.stages, updateMany, List.map_map]
      refine List.map_congr_left fun company _ => ?_
      simp only [Function.comp]
      split <;> rfl

abbrev OnboardingSystem := System OnboardingAct OnboardingAct.Res OnboardingWorld (Except AuthFailure OnboardingReply)

abbrev OnboardingEvent := Event OnboardingChoice OnboardingDrift OnboardingJob

/-- The runs of the system, with nothing asked of their steps. -/
abbrev OnboardingRun (lib : Libraries) : OnboardingSystem → List OnboardingEvent → OnboardingSystem → Prop :=
  (onboardingMachine lib).Run fun _ _ => True

theorem move_apply {s s' : OnboardingSystem} {event : OnboardingEvent}
    (applied : (onboardingMachine lib).apply s event = some s') :
    ∃ carried, Move lib s.world s'.world carried ∧
      ∀ run act, carried = some (run, act) ↔ Machine.Performs run act s event :=
  Machine.apply_related (fun _ => .same) (fun _ _ _ _ _ _ => move_exec) (fun _ _ _ => move_drift) applied

end DataVault.Auth.Onboarding
