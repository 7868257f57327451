/-
Module: DataVault.Auth.OnboardingLaw
Layer: Proof
Purpose: The law of the registrations, over all interleavings: companies come with their owner and their subscription,
  are activated once and through the latest verification token, and every Google code works once.
Imports: DataVault.Auth.OnboardingInvariants
Trusted boundary: none
Main exports: codesContract, OnboardingLaw, onboarding_law
-/
import DataVault.Auth.OnboardingInvariants

namespace DataVault.Auth.Onboarding

open DataVault.Companies DataVault.Control DataVault.Interleaving DataVault.Store DataVault.Subscriptions
open DataVault.Users

variable {lib : Libraries} {w w' : OnboardingWorld} {s s' : OnboardingSystem} {event : OnboardingEvent}
variable {events : List OnboardingEvent}

/-! ### Signing -/

/-- Between two steps of a run its codes stay used and unsigned; it signs for such a code alone. -/
def codesContract (lib : Libraries) : Contract (onboardingMachine lib) where
  rely run w w' := ∀ codeHash userId, Ready lib run codeHash userId w → Ready lib run codeHash userId w'
  inv := CodesSound lib
  needs run act w := ∀ codeHash payload, act = .sign (some codeHash) payload → Ready lib run codeHash payload.id w
  ends _ := Any

/-- Anything but a signature for a code. -/
def Unsourced (act : OnboardingAct) : Prop := ∀ codeHash payload, act ≠ .sign (some codeHash) payload

theorem Unsourced.needs {run : Nat} {act : OnboardingAct} (unsourced : Unsourced act) :
    (codesContract lib).needs run act w :=
  fun codeHash payload same => absurd same (unsourced codeHash payload)

theorem Unsourced.relies {run : Nat} {choice : OnboardingChoice} {act : OnboardingAct} {answer : act.Res}
    (unsourced : Unsourced act) (executed : onboardingExec lib run choice act w = some (answer, w')) :
    (codesContract lib).rely run w w' := by
  intro codeHash userId ready
  refine (move_exec executed).ready (fun other payload same => ?_) ready
  cases same
  exact unsourced codeHash payload rfl

theorem unsourced_assertTenantAccess (user : Account) : (assertTenantAccess user).run.Every Unsourced := by
  unfold assertTenantAccess
  split
  · refine ⟨nofun, fun found => ?_⟩
    refine Process.every_bind Process.every_liftExcept fun found => ?_
    refine Process.every_bind Process.every_liftExcept fun company => Process.every_liftExcept
  · trivial

theorem unsourced_findGoogleUser (email : String) : (findGoogleUser email).run.Every Unsourced := by
  refine ⟨nofun, fun found => Process.every_bind Process.every_liftExcept fun found => ?_⟩
  cases found with
  | none => trivial
  | some user =>
      refine Process.every_bind (unsourced_assertTenantAccess user) fun _ => ⟨nofun, fun saved => ?_⟩
      exact Process.every_bind Process.every_liftExcept fun _ => trivial

theorem unsourced_signUp (email password companyName : String) :
    (signUp email password companyName).run.Every Unsourced := by
  refine ⟨nofun, fun hashed => ⟨nofun, fun registered => ?_⟩⟩
  cases registered with
  | error failure => trivial
  | ok token =>
      refine ⟨nofun, fun sent => ?_⟩
      cases sent <;> trivial

theorem unsourced_resend (email : String) : (resend email).run.Every Unsourced := by
  refine ⟨nofun, fun now => ⟨nofun, fun found => Process.every_bind Process.every_liftExcept fun found => ?_⟩⟩
  rcases found with _ | ⟨owner, company⟩
  · trivial
  · refine ⟨nofun, fun written => ?_⟩
    cases written with
    | error failure => cases failure <;> trivial
    | ok token => exact ⟨nofun, fun sent => trivial⟩

theorem unsourced_verify (token : Nat) : (verify lib token).run.Every Unsourced :=
  ⟨nofun, fun _ => ⟨nofun, fun _ => Process.every_bind Process.every_liftExcept fun _ => trivial⟩⟩

theorem unsourced_googleRedirect (email : String) : (googleRedirect email).run.Every Unsourced := by
  refine Process.Every.bind (fun found => ?_) (unsourced_findGoogleUser email)
  match found with
  | .error failure => cases failure <;> trivial
  | .ok none | .ok (some user) =>
      exact ⟨nofun, fun now => ⟨nofun, fun code => Process.every_bind Process.every_liftExcept fun _ => trivial⟩⟩

theorem unsourced_googleRegister (code : Nat) (companyName : String) :
    (googleRegister lib code companyName).run.Every Unsourced := by
  refine ⟨nofun, fun registered => ?_⟩
  cases registered with
  | error failure => trivial
  | ok owner =>
      refine Process.every_bind (Process.every_bind (unsourced_assertTenantAccess owner) fun _ => ?_) fun _ => trivial
      exact ⟨nofun, fun _ => trivial⟩

theorem meets_of_unsourced {α : Type} {process : Process OnboardingAct OnboardingAct.Res α} {run : Nat}
    (every : process.Every Unsourced) : (codesContract lib).Meets run Any process w :=
  Contract.meets_any_of_every (fun _ _ unsourced => unsourced.needs) every

/-- The code that a run has used is now its own. -/
theorem meets_consumeExchange {run code : Nat} :
    (codesContract lib).Meets run (Ends (fun userId => Ready lib run (lib.hashToken code) userId) Any)
      (consumeExchange lib code).run w := by
  refine Contract.meets_lift fun _ _ _ => ⟨nofun, fun _ now _ _ => ?_⟩
  refine Contract.meets_lift fun w₁ _ sound => ⟨nofun, fun choice exchange w₂ executed => ?_⟩
  refine Contract.meets_liftExcept (fun exchange answered => ?_) fun _ _ => trivial
  subst answered
  cases user : exchange.bind (·.userId) with
  | none => trivial
  | some userId =>
      obtain ⟨found, rfl, stored⟩ := Option.bind_eq_some_iff.mp user
      have committed := Option.some.inj executed
      unfold transact OnboardingWorld.consumeExchange at committed
      split at committed
      · cases committed
      · rename_i done
        split at done
        · cases done
          cases fate : choice.fate <;> rw [fate] at committed <;> cases committed
        · rename_i deleted
          cases done
          cases fate : choice.fate <;> rw [fate] at committed <;> cases committed
          obtain ⟨before, after, split, matched, rfl⟩ := findOneAndDelete_split deleted
          simp only [Bool.and_eq_true, decide_eq_true_eq] at matched
          obtain ⟨⟨code', hashed, issued⟩, unused⟩ := sound.stored found (by simp [split])
          rw [matched.1.1] at hashed unused
          refine ⟨List.mem_cons_self, fun token mem source => ?_, code', hashed, stored ▸ issued⟩
          exact unused (sound.signed token mem _ source).1

theorem meets_googleExchange {run code : Nat} :
    (codesContract lib).Meets run (Ends (fun _ _ => True) Any) (googleExchange lib code).run w := by
  refine Contract.meets_bind meets_consumeExchange fun userId w ready => ?_
  refine Contract.meets_lift fun w₁ relied _ => ⟨nofun, fun choice found w₂ executed => ?_⟩
  have unsourced : Unsourced (.findById userId) := nofun
  have ready : Ready lib run (lib.hashToken code) userId w₂ := unsourced.relies executed _ _ (relied _ _ ready)
  refine Contract.meets_liftExcept (fun found answered => ?_) fun _ _ => trivial
  refine Contract.meets_liftExcept (fun user here => ?_) fun _ _ => trivial
  have mine : user.id = userId := by
    subst answered
    rw [orFail_ok_iff] at here
    subst here
    have answer : query choice (w₁.users.find? fun user => user.id = userId) = .ok (some user) :=
      congrArg Prod.fst (Option.some.inj executed)
    unfold query at answer
    split at answer
    · simpa using List.find?_some (Except.ok.inj answer)
    · cases answer
  refine Contract.meets_bind (Q := fun _ _ => True) ?_ fun _ _ _ => trivial
  refine Contract.meets_bind (Q := fun _ => Ready lib run (lib.hashToken code) userId) ?_ fun _ w₃ ready => ?_
  · refine Contract.Meets.mono (fun outcome w known => ?_) (Contract.Meets.of_every (C := codesContract lib)
      (K := Ready lib run (lib.hashToken code) userId) (fun w w' relied known => relied _ _ known)
      (fun act w unsourced _ => ⟨unsourced.needs, fun _ _ _ executed => unsourced.relies executed⟩)
      (unsourced_assertTenantAccess user) ready)
    cases outcome with
    | ok value => exact known
    | error failure => trivial
  · refine Contract.meets_call fun w₄ relied _ => ⟨?_, fun _ _ _ _ => trivial⟩
    intro codeHash payload same
    cases same
    rw [mine]
    exact relied _ _ ready

theorem handler_meets (job : OnboardingJob) (run : Nat) (w : OnboardingWorld) :
    (codesContract lib).Meets run Any ((onboardingMachine lib).handler job) w := by
  cases job with
  | signUp email password companyName => exact meets_of_unsourced (unsourced_signUp email password companyName)
  | resend email => exact meets_of_unsourced (unsourced_resend email)
  | verify token => exact meets_of_unsourced (unsourced_verify token)
  | googleRedirect email => exact meets_of_unsourced (unsourced_googleRedirect email)
  | googleExchange code => exact Contract.Meets.mono (fun _ _ _ => trivial) meets_googleExchange
  | googleRegister code companyName => exact meets_of_unsourced (unsourced_googleRegister code companyName)

theorem codesContract_sound (collisionFree : Function.Injective lib.hashToken) :
    (codesContract lib).Sound (fun _ _ _ _ => True) (fun _ _ => True) where
  refl _ _ _ _ ready := ready
  trans one two codeHash userId ready := two codeHash userId (one codeHash userId ready)
  step sound needs _ executed other differs codeHash userId ready := by
    refine (move_exec executed).ready (fun run payload same => ?_) ready
    cases same
    -- a code was used by one run alone
    have entry := List.inj_on_of_nodup_map sound.consumed (needs codeHash payload rfl).1 ready.1 rfl
    exact differs (Prod.mk.inj entry).1.symm
  keeps sound needs _ executed := by
    refine (move_exec executed).codesSound collisionFree (fun run codeHash payload same => ?_) sound
    cases same
    exact needs codeHash payload rfl
  drift _ _ happened _ _ _ ready := (move_drift happened).ready nofun ready
  driftKeeps sound _ happened := (move_drift happened).codesSound collisionFree nofun sound
  handler := handler_meets
  ended _ _ := trivial

/-! ### Steps of the system -/

/-- The company is activated with the latest token that was written for it, before its expiry. -/
def Activates (lib : Libraries) (s : OnboardingSystem) (event : OnboardingEvent) (companyId : Nat) (now : Int) : Prop :=
  ∃ run write, s.world.latestWrite companyId = some write ∧ now < write.expiresAt ∧
    Machine.Performs run (.verify (lib.hashToken write.token) now) s event

/-- The two registrations: with a password, which leaves the company inactive, and with Google, which takes the code
that was issued for the email. -/
inductive Registers (lib : Libraries) (s s' : OnboardingSystem) (event : OnboardingEvent) (company : StoredCompany)
    (owner : Account) : Prop where
  | password (run : Nat) (name password : String)
      (asked : Machine.Performs run (.signUp name owner.email password) s event) (inactive : company.activatedAt = none)
      (exchanges : s'.world.exchanges = s.world.exchanges)
  | google (run : Nat) (name : String) (exchange : GoogleOAuthExchange) (now instant : Int)
      (asked : Machine.Performs run (.signUpWithGoogle exchange.codeHash name) s event)
      (stored : exchange ∈ s.world.exchanges) (purpose : exchange.purpose = .registration)
      (email : exchange.email = some owner.email) (unexpired : now < exchange.expiresAt)
      (active : company.activatedAt = some instant)
      (gone : ∀ other ∈ s'.world.exchanges, other.codeHash ≠ exchange.codeHash)

/-- A company keeps its stage, or it was inactive and is activated. -/
theorem activates_of_move {carried : Option (Nat × OnboardingAct)} (move : Move lib s.world s'.world carried)
    (asked : ∀ run act, carried = some (run, act) ↔ Machine.Performs run act s event)
    (verifications : VerificationsSound lib s.world) {company : StoredCompany} (mem : company ∈ s.world.companies) :
    ∃ changed ∈ s'.world.companies, changed.id = company.id ∧ (changed.activatedAt = company.activatedAt ∨
      company.activatedAt = none ∧ ∃ now, changed.activatedAt = some now ∧ Activates lib s event company.id now) := by
  have kept : s.world.companies ⊆ s'.world.companies → ∃ changed ∈ s'.world.companies, changed.id = company.id ∧
      (changed.activatedAt = company.activatedAt ∨
        company.activatedAt = none ∧ ∃ now, changed.activatedAt = some now ∧ Activates lib s event company.id now) :=
    fun more => ⟨company, more mem, rfl, .inl rfl⟩
  cases move
  case aside stages _ _ _ _ _ _ _ _ _ =>
    have there : (company.id, company.activatedAt) ∈ s'.world.stages := by
      rw [stages]
      exact List.mem_map.mpr ⟨company, mem, rfl⟩
    obtain ⟨changed, changedMem, same⟩ := List.mem_map.mp there
    exact ⟨changed, changedMem, (Prod.mk.inj same).1, .inl (Prod.mk.inj same).2⟩
  case signedUp created _ _ _ _ _ _ _ _ _ _ | registered created _ _ _ _ _ _ _ _ =>
    refine kept ?_
    rw [created.companies]
    exact List.subset_cons_self _ _
  case purgedVerification becomes | purgedExchange becomes | resent becomes | issued becomes | consumed becomes
    | signed becomes =>
    exact kept (by simp [becomes])
  case verified run tokenHash now before after verification first last activated performed split presented companies
      named inactive becomes =>
    by_cases same : company = activated
    · subst same
      obtain ⟨write, latest, digest, expiry⟩ := verifications.latest verification (by simp [split])
      refine ⟨{ company with activatedAt := some now }, by simp [becomes], rfl, .inr ⟨inactive, now, rfl, ?_⟩⟩
      refine ⟨run, write, named ▸ latest, expiry ▸ presented.2, (asked _ _).mp ?_⟩
      rw [performed, ← presented.1, digest]
    · refine ⟨company, ?_, rfl, .inl rfl⟩
      rw [companies, List.perm_middle.mem_iff, List.mem_cons] at mem
      rw [becomes]
      exact List.perm_middle.mem_iff.mpr (List.mem_cons_of_mem _ (mem.resolve_left same))

/-- A company that was not there comes with its owner and its subscription, by one of the registrations. -/
theorem registers_of_move {carried : Option (Nat × OnboardingAct)} (move : Move lib s.world s'.world carried)
    (asked : ∀ run act, carried = some (run, act) ↔ Machine.Performs run act s event)
    (codes : CodesSound lib s.world) {company : StoredCompany} (mem : company ∈ s'.world.companies) :
    company.id ∈ s.world.companies.map (·.id) ∨ ∃ owner subscription,
      Created s.world s'.world company owner subscription ∧ Registers lib s s' event company owner := by
  have kept : s'.world.companies = s.world.companies → company.id ∈ s.world.companies.map (·.id) :=
    fun same => List.mem_map.mpr ⟨company, same ▸ mem, rfl⟩
  cases move
  case aside stages _ _ _ _ _ _ _ _ _ =>
    have there : (company.id, company.activatedAt) ∈ s.world.stages := by
      rw [← stages]
      exact List.mem_map.mpr ⟨company, mem, rfl⟩
    obtain ⟨before, beforeMem, same⟩ := List.mem_map.mp there
    exact .inl (List.mem_map.mpr ⟨before, beforeMem, (Prod.mk.inj same).1⟩)
  case purgedVerification becomes | purgedExchange becomes | resent becomes | issued becomes | consumed becomes
    | signed becomes =>
    exact .inl (kept (by rw [becomes]))
  case verified companies _ _ becomes =>
    refine .inl ?_
    have same : s'.world.companies.map (·.id) = s.world.companies.map (·.id) := by simp [becomes, companies]
    exact same ▸ List.mem_map_of_mem mem
  case signedUp run _ name email password new owner subscription _ performed created inactive address _ _ _ _
      exchanges _ _ _ =>
    rw [created.companies] at mem
    rcases List.mem_cons.mp mem with rfl | mem
    · subst address
      exact .inr ⟨owner, subscription, created,
        .password run name password ((asked _ _).mp performed) inactive exchanges⟩
    · exact .inl (List.mem_map.mpr ⟨company, mem, rfl⟩)
  case registered run name email now instant before after exchange new owner subscription performed split registration
      created active address exchanges _ _ _ _ _ =>
    rw [created.companies] at mem
    rcases List.mem_cons.mp mem with rfl | mem
    · subst address
      obtain ⟨purpose, unexpired, stored⟩ := registration
      refine .inr ⟨owner, subscription, created, .google run name exchange now instant ((asked _ _).mp performed)
        (by simp [split]) purpose stored unexpired active fun other otherMem same => ?_⟩
      have distinct := codes.exchanges
      rw [split, List.map_append, List.map_cons, List.nodup_middle, List.nodup_cons, ← List.map_append] at distinct
      exact distinct.1 (List.mem_map.mpr ⟨other, exchanges ▸ otherMem, same⟩)
    · exact .inl (List.mem_map.mpr ⟨company, mem, rfl⟩)

/-- A registration code stays, is removed after its expiry, or is taken together with the company, the owner and the
subscription for its email. -/
theorem exchange_of_move {carried : Option (Nat × OnboardingAct)} (move : Move lib s.world s'.world carried)
    (asked : ∀ run act, carried = some (run, act) ↔ Machine.Performs run act s event) {exchange : GoogleOAuthExchange}
    (mem : exchange ∈ s.world.exchanges) (purpose : exchange.purpose = .registration) :
    exchange ∈ s'.world.exchanges ∨
      ((∀ run act, ¬Machine.Performs run act s event) ∧ exchange.expiresAt ≤ s.world.clock) ∨
      ∃ run name company owner subscription,
        Machine.Performs run (.signUpWithGoogle exchange.codeHash name) s event ∧
          Created s.world s'.world company owner subscription ∧ exchange.email = some owner.email ∧
          company.activatedAt.isSome := by
  cases move
  case aside exchanges _ _ _ _ _ => exact .inl (exchanges ▸ mem)
  case signedUp exchanges _ _ _ => exact .inl (exchanges ▸ mem)
  case purgedVerification becomes | resent becomes | signed becomes | verified becomes =>
    rw [becomes]
    exact .inl mem
  case issued becomes =>
    rw [becomes]
    exact .inl (List.mem_cons_of_mem _ mem)
  case purgedExchange before after other idle split expired becomes =>
    rw [split, List.perm_middle.mem_iff, List.mem_cons] at mem
    rcases mem with rfl | mem
    · refine .inr (.inl ⟨fun run act performs => ?_, expired⟩)
      cases idle.symm.trans ((asked run act).mpr performs)
    · rw [becomes]
      exact .inl mem
  case consumed split login becomes =>
    rw [split, List.perm_middle.mem_iff, List.mem_cons] at mem
    rcases mem with rfl | mem
    · cases login.symm.trans purpose
    · rw [becomes]
      exact .inl mem
  case registered run name email now instant before after other company owner subscription performed split registration
      created active address exchanges _ _ _ _ _ =>
    rw [split, List.perm_middle.mem_iff, List.mem_cons] at mem
    rcases mem with rfl | mem
    · refine .inr (.inr ⟨run, name, company, owner, subscription, (asked _ _).mp performed, created, ?_, ?_⟩)
      · rw [address]
        exact registration.2.2
      · rw [active]
        rfl
    · rw [exchanges]
      exact .inl mem

/-- The step registers a company with this code. -/
def Commits (lib : Libraries) (code : Nat) (s s' : OnboardingSystem) (event : OnboardingEvent) : Prop :=
  (∃ run name, Machine.Performs run (.signUpWithGoogle (lib.hashToken code) name) s event) ∧
    ∃ company ∈ s'.world.companies, company.id ∉ s.world.companies.map (·.id)

/-- The code was issued and is stored nowhere any more. New codes differ from all issued ones, so this lasts. -/
def Dead (lib : Libraries) (code : Nat) (w : OnboardingWorld) : Prop :=
  (∃ issued ∈ w.codes, issued.1 = code) ∧ ∀ exchange ∈ w.exchanges, exchange.codeHash ≠ lib.hashToken code

theorem Move.dead {carried : Option (Nat × OnboardingAct)} {code : Nat} (move : Move lib w w' carried)
    (collisionFree : Function.Injective lib.hashToken) (dead : Dead lib code w) : Dead lib code w' := by
  obtain ⟨⟨issued, known, rfl⟩, nowhere⟩ := dead
  have kept : w'.exchanges ⊆ w.exchanges → w'.codes = w.codes → Dead lib issued.1 w' := fun exchanges codes =>
    ⟨⟨issued, codes ▸ known, rfl⟩, fun exchange mem => nowhere exchange (exchanges mem)⟩
  cases move.codeMove with
  | kept exchanges codes => exact kept exchanges.subset codes
  | signed _ _ _ _ becomes => exact kept (by simp [becomes]) (by rw [becomes])
  | used run before after exchange split becomes =>
      refine kept ?_ (by rw [becomes])
      rw [becomes, split]
      exact ((List.sublist_cons_self _ _).append_left _).subset
  | issued code exchange digest fresh becomes =>
      refine ⟨⟨issued, by simp [becomes, known], rfl⟩, fun other mem same => ?_⟩
      rw [becomes] at mem
      rcases List.mem_cons.mp mem with rfl | mem
      · exact fresh issued known (collisionFree (same.symm.trans digest))
      · exact nowhere other mem same

/-- A code that registers a company was stored before the step, and is dead after it. -/
theorem dead_of_commits {code : Nat} (collisionFree : Function.Injective lib.hashToken)
    (codes : CodesSound lib s.world) (applied : (onboardingMachine lib).apply s event = some s')
    (commits : Commits lib code s s' event) :
    (∃ exchange ∈ s.world.exchanges, exchange.codeHash = lib.hashToken code) ∧ Dead lib code s'.world := by
  obtain ⟨carried, move, asked⟩ := move_apply applied
  obtain ⟨⟨run, name, performs⟩, company, mem, new⟩ := commits
  rcases registers_of_move move asked codes mem with old | ⟨owner, subscription, created, registers⟩
  · exact absurd old new
  · cases registers with
    | password _ _ _ signs =>
        obtain ⟨_, same⟩ := Machine.Performs.unique performs signs
        cases same
    | google other title exchange now instant signs stored purpose email unexpired active gone =>
        obtain ⟨_, same⟩ := Machine.Performs.unique performs signs
        injection same with same
        obtain ⟨⟨issued, hashed, known⟩, _⟩ := codes.stored exchange stored
        have equal : issued = code := collisionFree (hashed.symm.trans same.symm)
        refine ⟨⟨exchange, stored, same.symm⟩, ⟨_, move.codes_subset known, equal⟩, ?_⟩
        rw [same]
        exact gone

/-! ### The law of the registrations -/

/-- What holds in every reachable state. -/
structure Reachable (lib : Libraries) (w : OnboardingWorld) : Prop where
  companies : CompaniesSound w
  verifications : VerificationsSound lib w
  codes : CodesSound lib w

/-- A world in which nobody has ever registered. -/
structure Pristine (w : OnboardingWorld) : Prop where
  companies : w.companies = []
  users : w.users = []
  subscriptions : w.subscriptions = []
  verifications : w.verifications = []
  exchanges : w.exchanges = []
  codes : w.codes = []
  consumed : w.consumed = []
  signed : w.signed = []

theorem Pristine.reachable (pristine : Pristine w) : Reachable lib w := by
  obtain ⟨companies, users, subscriptions, verifications, exchanges, codes, consumed, signed⟩ := pristine
  have stages : w.stages = [] := by simp [OnboardingWorld.stages, companies]
  have owners : w.owners = [] := by simp [OnboardingWorld.owners, users]
  refine ⟨?_, ?_, ?_⟩
  · constructor <;> simp [stages, owners, subscriptions]
  · constructor <;> simp [verifications]
  · constructor <;> simp [exchanges, codes, consumed, signed, countDocuments]

theorem codesContract_permits (event : OnboardingEvent) :
    Contract.Permits (fun _ _ _ _ => True) (fun _ _ => True) s event := by
  cases event with
  | step run choice => exact fun _ _ _ => trivial
  | arrive | drift => trivial

/-- What every process knows and every state satisfies, along every run. -/
theorem reachable_of_run (collisionFree : Function.Injective lib.hashToken)
    (all : Contract.AllMeet (codesContract lib) s) (reachable : Reachable lib s.world)
    (reached : OnboardingRun lib s events s') :
    Contract.AllMeet (codesContract lib) s' ∧ Reachable lib s'.world := by
  have permitted : ∀ (s : OnboardingSystem) (event : OnboardingEvent), True →
      Contract.Permits (fun _ _ _ _ => True) (fun _ _ => True) s event := fun _ event _ => codesContract_permits event
  have kept : ∀ {w w' carried}, Move lib w w' carried → CompaniesSound w ∧ VerificationsSound lib w →
      CompaniesSound w' ∧ VerificationsSound lib w' :=
    fun move sound => ⟨move.companiesSound sound.1, move.verificationsSound sound.2⟩
  have steps := (codesContract_sound collisionFree).invariant
    (fun w => CompaniesSound w ∧ VerificationsSound lib w)
    (fun _ _ _ _ _ _ _ sound _ _ executed => kept (move_exec executed) sound)
    (fun _ _ _ _ sound _ happened => kept (move_drift happened) sound)
    (reached.mono permitted) all ⟨reachable.companies, reachable.verifications⟩
  exact ⟨steps.1, steps.2.1, steps.2.2, steps.1.inv⟩

/-- What sound states keep under every move, every run keeps. -/
theorem keeps_run {P : OnboardingWorld → Prop}
    (kept : ∀ w w' carried, Move lib w w' carried → P w → P w') (run : OnboardingRun lib s events s')
    (holds : P s.world) : P s'.world := by
  refine run.keeps (P := fun s => P s.world) ?_ holds
  rintro s event s' holds _ applied
  obtain ⟨carried, move, _⟩ := move_apply applied
  exact kept _ _ _ move holds

/-- What every reachable state and every run from there on obeys. The first fields are about the state, the others about
the steps and the runs that begin there. -/
structure OnboardingLaw (lib : Libraries) (s : OnboardingSystem) : Prop where
  /-- Companies have distinct ids. -/
  ids : (s.world.companies.map (·.id)).Nodup
  /-- Every company has exactly one owner and exactly one subscription. -/
  owned : ∀ company ∈ s.world.companies, countDocuments s.world.users (owns company.id) = 1 ∧
    countDocuments s.world.subscriptions (·.companyId = company.id) = 1
  /-- A company is stored with both of them in one step, by one of the registrations. -/
  registered : ∀ event s', (onboardingMachine lib).apply s event = some s' → ∀ company ∈ s'.world.companies,
    company.id ∈ s.world.companies.map (·.id) ∨ ∃ owner subscription,
      Created s.world s'.world company owner subscription ∧ Registers lib s s' event company owner
  /-- An activation is set where there was none, with the latest token that was written for the company. -/
  activated : ∀ event s', (onboardingMachine lib).apply s event = some s' → ∀ company ∈ s.world.companies,
    ∃ changed ∈ s'.world.companies, changed.id = company.id ∧ (changed.activatedAt = company.activatedAt ∨
      company.activatedAt = none ∧ ∃ now, changed.activatedAt = some now ∧ Activates lib s event company.id now)
  /-- It never changes again. -/
  settled : ∀ later s', OnboardingRun lib s later s' → ∀ company ∈ s.world.companies, ∀ instant,
    company.activatedAt = some instant →
      ∃ changed ∈ s'.world.companies, changed.id = company.id ∧ changed.activatedAt = some instant
  /-- Every code is issued once. -/
  issued : (s.world.codes.map (·.1)).Nodup
  /-- A login code yields one access token at most, for the user it was issued for. -/
  login : ∀ code, countDocuments s.world.signed (·.source = some (lib.hashToken code)) ≤ 1 ∧
    ∀ token ∈ s.world.signed, token.source = some (lib.hashToken code) →
      (code, some token.payload.id) ∈ s.world.codes
  /-- A registration code is gone only after its expiry or together with the company, the owner and the subscription
  for its email. -/
  consumed : ∀ event s', (onboardingMachine lib).apply s event = some s' → ∀ exchange ∈ s.world.exchanges,
    exchange.purpose = .registration → exchange ∈ s'.world.exchanges ∨
      ((∀ run act, ¬Machine.Performs run act s event) ∧ exchange.expiresAt ≤ s.world.clock) ∨
      ∃ run name company owner subscription,
        Machine.Performs run (.signUpWithGoogle exchange.codeHash name) s event ∧
          Created s.world s'.world company owner subscription ∧ exchange.email = some owner.email ∧
          company.activatedAt.isSome
  /-- A registration code registers one company at most. -/
  single : ∀ code event s', (onboardingMachine lib).apply s event = some s' → Commits lib code s s' event →
    ∀ later s'', OnboardingRun lib s' later s'' → ∀ event' s₃, (onboardingMachine lib).apply s'' event' = some s₃ →
      ¬Commits lib code s'' s₃ event'

/-- Every state that a system without registrations reaches obeys the law of the registrations, with aborted
transactions, expired exchanges and lost answers anywhere in the run; the digest of tokens and codes has no
collisions. -/
theorem onboarding_law (collisionFree : Function.Injective lib.hashToken) (idle : s.runs = [])
    (pristine : Pristine s.world) (reached : OnboardingRun lib s events s') : OnboardingLaw lib s' := by
  obtain ⟨all, companies, verifications, codes⟩ := reachable_of_run collisionFree
    (.idle pristine.reachable.codes idle) pristine.reachable reached
  have stage : ∀ company ∈ s'.world.companies, (company.id, company.activatedAt) ∈ s'.world.stages :=
    fun company mem => List.mem_map.mpr ⟨company, mem, rfl⟩
  constructor
  case ids =>
    have ids := companies.ids
    rw [OnboardingWorld.stages, List.map_map] at ids
    exact ids
  case owned =>
    intro company mem
    rw [owners_count]
    exact ⟨companies.owned _ (stage company mem), companies.subscribed _ (stage company mem)⟩
  case registered =>
    intro event s'' applied company mem
    obtain ⟨carried, move, asked⟩ := move_apply applied
    exact registers_of_move move asked codes mem
  case activated =>
    intro event s'' applied company mem
    obtain ⟨carried, move, asked⟩ := move_apply applied
    exact activates_of_move move asked verifications mem
  case settled =>
    intro later s'' run company mem instant active
    refine (run.keeps (P := fun s => VerificationsSound lib s.world ∧
      ∃ changed ∈ s.world.companies, changed.id = company.id ∧ changed.activatedAt = some instant) ?_
      ⟨verifications, company, mem, rfl, active⟩).2
    rintro s event s'' ⟨sound, changed, there, same, still⟩ _ applied
    obtain ⟨carried, move, asked⟩ := move_apply applied
    refine ⟨move.verificationsSound sound, ?_⟩
    obtain ⟨next, nextMem, named, stays | ⟨none, _⟩⟩ := activates_of_move move asked sound there
    · exact ⟨next, nextMem, named.trans same, stays.trans still⟩
    · cases none.symm.trans still
  case issued => exact codes.codes
  case login =>
    intro code
    refine ⟨codes.once _, fun token mem source => ?_⟩
    obtain ⟨_, issued, hashed, known⟩ := codes.signed token mem _ source
    exact collisionFree hashed ▸ known
  case consumed =>
    intro event s'' applied exchange mem purpose
    obtain ⟨carried, move, asked⟩ := move_apply applied
    exact exchange_of_move move asked mem purpose
  case single =>
    intro code event s₁ applied commits later s₂ run event' s₃ applied' again
    have once : OnboardingRun lib s' [event] s₁ := .cons trivial applied (.nil _)
    obtain ⟨all, reachable⟩ := reachable_of_run collisionFree all ⟨companies, verifications, codes⟩ once
    obtain ⟨_, nowhere⟩ := keeps_run (P := Dead lib code) (fun _ _ _ move dead => move.dead collisionFree dead) run
      (dead_of_commits collisionFree codes applied commits).2
    obtain ⟨_, later⟩ := reachable_of_run collisionFree all reachable run
    obtain ⟨⟨exchange, there, same⟩, _⟩ := dead_of_commits collisionFree later.codes applied' again
    exact nowhere exchange there same

/-! ### A run -/

/-- Digests and hashes that show what they are of. -/
def plain : Libraries where
  hashToken token := token
  bcrypt := { hash := fun _ password => password, compare := fun password hashed => password == hashed }
  nameKey name := name

def pristine : OnboardingSystem where
  world :=
    { clock := 0, companies := [], users := [], subscriptions := [], verifications := [], exchanges := [], nextId := 0 }
  runs := []

/-- A company registers with a password and is activated; another one registers with Google, whose owner signs in once
more. -/
def registrations : List OnboardingEvent :=
  .arrive (.signUp "one" "secret" "One") :: List.replicate 3 (.step 0 { token := 7 }) ++ .drift (.tick 5) ::
    .arrive (.verify 7) :: List.replicate 2 (.step 1 {}) ++
    .arrive (.googleRedirect "two") :: List.replicate 3 (.step 2 { token := 8 }) ++
    .arrive (.googleRegister 8 "Two") :: List.replicate 3 (.step 3 {}) ++
    .arrive (.googleRedirect "two") :: List.replicate 5 (.step 4 { token := 9 }) ++
    .arrive (.googleExchange 9) :: List.replicate 5 (.step 5 {})

theorem onboarding_law_registrations :
    ∃ s', (onboardingMachine plain).play registrations pristine = some s' ∧ OnboardingLaw plain s' ∧
      s'.world.stages = [(2, some 5), (0, some 5)] ∧ s'.world.exchanges = [] ∧
      s'.world.signed.map (·.source) = [some 9, none] := by
  have plays : ((onboardingMachine plain).play registrations pristine).any fun s' => Decidable.decide
      (s'.world.stages = [(2, some 5), (0, some 5)] ∧ s'.world.exchanges = [] ∧
        s'.world.signed.map (·.source) = [some 9, none]) := by
    decide +kernel
  obtain ⟨s', played, checked⟩ := (Option.any_eq_true ..).mp plays
  obtain ⟨stages, exchanges, signed⟩ := of_decide_eq_true checked
  exact ⟨s', played, onboarding_law (fun _ _ same => same) (s := pristine) rfl ⟨rfl, rfl, rfl, rfl, rfl, rfl, rfl, rfl⟩
    (Machine.run_of_play played), stages, exchanges, signed⟩

end DataVault.Auth.Onboarding
