/-
Module: DataVault.Auth.Onboarding
Layer: Model
Purpose: How companies come into being: `signUp`, `signUpWithGoogle`, `findGoogleUser` and `exchangeGoogleUser` of
  auth/auth.service.ts, `verify` and `resend` of auth/company-verification.service.ts, the exchanges of
  auth/google-oauth-flow.service.ts as auth/auth.controller.ts uses them, and `initializeFree` of
  subscriptions/subscriptions.service.ts. A transaction is one action, except that the reads of `resend` come before
  its write.
Imports: DataVault.Auth.Entities, DataVault.Companies.Entity, DataVault.Control.Fallible,
  DataVault.Interleaving.Contract, DataVault.Store.Collection, DataVault.Subscriptions.Entity
Trusted boundary: human-reviewed spec
Main exports: OnboardingWorld, OnboardingAct, OnboardingJob, onboardingMachine
-/
import DataVault.Auth.Entities
import DataVault.Companies.Entity
import DataVault.Control.Fallible
import DataVault.Interleaving.Contract
import DataVault.Store.Collection
import DataVault.Subscriptions.Entity

namespace DataVault.Auth.Onboarding

open DataVault.Companies DataVault.Control DataVault.Interleaving DataVault.Store DataVault.Subscriptions
open DataVault.Users

/-- `VERIFICATION_TOKEN_TTL_MS`. -/
def verificationTokenTtlMs : Int := 24 * 60 * 60 * 1000

/-- `VERIFICATION_RESEND_COOLDOWN_MS`. -/
def verificationResendCooldownMs : Int := 60 * 1000

/-- `GOOGLE_STATE_TTL_MS`. -/
def googleStateTtlMs : Int := 5 * 60 * 1000

/-- `GOOGLE_EXCHANGE_TTL_MS`. -/
def googleExchangeTtlMs : Int := 60 * 1000

/-- What the services take from their libraries: the digest of tokens, password hashes, and the collation under which
the unique index compares company names. -/
structure Libraries where
  hashToken : Nat → Nat
  bcrypt : Bcrypt
  nameKey : String → String

structure StoredCompany extends Company where
  id : Nat
deriving DecidableEq, Repr

structure CompanyVerification where
  companyId : Nat
  ownerId : Nat
  tokenHash : Nat
  expiresAt : Int
  lastSentAt : Int
deriving DecidableEq, Repr

inductive ExchangePurpose where
  | login
  | registration
deriving DecidableEq, Repr

structure GoogleOAuthExchange where
  codeHash : Nat
  userId : Option Nat := none
  purpose : ExchangePurpose
  email : Option String := none
  expiresAt : Int
deriving DecidableEq, Repr

/-- A verification token that was written for a company. -/
structure VerificationWrite where
  companyId : Nat
  token : Nat
  expiresAt : Int
deriving DecidableEq, Repr

/-- An access token that was signed, with the digest of the login code that it was given for. -/
structure SignedToken where
  source : Option Nat
  payload : TokenPayload
deriving DecidableEq, Repr

/-- `writes`, `codes`, `consumed` and `signed` record, newest first, the verification tokens that were written, the
codes that were issued (login codes with their user), which run has consumed which login code, and the access tokens;
only the randomness of new tokens and codes depends on them. -/
structure OnboardingWorld where
  clock : Int
  companies : List StoredCompany
  users : List Account
  subscriptions : List Subscription
  verifications : List CompanyVerification
  exchanges : List GoogleOAuthExchange
  nextId : Nat
  writes : List VerificationWrite := []
  codes : List (Nat × Option Nat) := []
  consumed : List (Nat × Nat) := []
  signed : List SignedToken := []

/-! ### The writes -/

namespace OnboardingWorld

variable (lib : Libraries) (w : OnboardingWorld)

/-- The company, its owner and its Free subscription, as both registrations create them, under the unique indexes on
the name and the email. -/
def create (name email : String) (password : Option String) (activatedAt : Option Int)
    (subscribedAt : Int) : Except AuthFailure ((StoredCompany × Account) × OnboardingWorld) := do
  let company : StoredCompany := { id := w.nextId, name := name, activatedAt := activatedAt }
  require (!w.companies.any fun other => lib.nameKey other.name = lib.nameKey name) (.duplicateKey "name")
  let owner : Account :=
    { id := w.nextId + 1
      email := email
      password := password
      companyId := some company.id
      role := some .companyOwner }
  require (!w.users.any fun other => other.email = email) (.duplicateKey "email")
  let subscription : Subscription :=
    { companyId := company.id, activatedAt := subscribedAt, planChangedAt := subscribedAt }
  pure ((company, owner),
    { w with
      companies := company :: w.companies
      users := owner :: w.users
      subscriptions := subscription :: w.subscriptions
      nextId := w.nextId + 2 })

/-- The transaction of `signUp`, with `createForRegistration` under the unique indexes on the company and the token.
`initializeFree` and `createForRegistration` each take the time for themselves. -/
def signUp (token : Nat) (name email password : String) (subscribedAt now : Int) :
    Except AuthFailure (Nat × OnboardingWorld) := do
  let ((company, owner), w) ← w.create lib name email (some password) none subscribedAt
  require (!w.verifications.any fun other => other.companyId = company.id) (.duplicateKey "companyId")
  require (!w.verifications.any fun other => other.tokenHash = lib.hashToken token) (.duplicateKey "tokenHash")
  let verification : CompanyVerification :=
    { companyId := company.id
      ownerId := owner.id
      tokenHash := lib.hashToken token
      expiresAt := now + verificationTokenTtlMs
      lastSentAt := now }
  pure (token,
    { w with
      verifications := verification :: w.verifications
      writes := ⟨company.id, token, verification.expiresAt⟩ :: w.writes })

/-- What `consumeRegistrationExchange` looks for. -/
def registrable (codeHash : Nat) (now : Int) (exchange : GoogleOAuthExchange) : Bool :=
  exchange.codeHash = codeHash && exchange.purpose = .registration && exchange.expiresAt > now

/-- The transaction of `signUpWithGoogle`. The consumption of the code, the activation of the company and
`initializeFree` each take the time for themselves. -/
def signUpWithGoogle (codeHash : Nat) (name : String) (now activatedAt subscribedAt : Int) :
    Except AuthFailure (Account × OnboardingWorld) := do
  let (exchange, exchanges) ← orFail (findOneAndDelete (registrable codeHash now) w.exchanges)
    (.unauthorized "Invalid Google registration code")
  let email ← orFail (exchange.email.filter (· ≠ "")) (.unauthorized "Invalid Google registration code")
  let ((_, owner), w) ← w.create lib name email none (some activatedAt) subscribedAt
  pure (owner, { w with exchanges := exchanges })

/-- The reads of `resend`: the owner and the company, which is not activated. -/
def findInactiveOwner (email : String) : Option (Account × StoredCompany) := do
  let owner ← w.users.find? fun user => user.email = email && user.role = some .companyOwner
  let company ← w.companies.find? fun company => owner.companyId = some company.id && company.activatedAt.isNone
  pure (owner, company)

/-- What the update of `resend` looks for. -/
def resendable (companyId : Nat) (now : Int) (verification : CompanyVerification) : Bool :=
  verification.companyId = companyId && verification.lastSentAt ≤ now - verificationResendCooldownMs

/-- The write of `resend`: an update with `upsert`, under the unique indexes on the company and the token. -/
def writeVerification (token companyId ownerId : Nat) (now : Int) : Except AuthFailure (Nat × OnboardingWorld) := do
  require (!w.verifications.any fun other => other.tokenHash = lib.hashToken token) (.duplicateKey "tokenHash")
  let expiresAt := now + verificationTokenTtlMs
  let write : VerificationWrite := ⟨companyId, token, expiresAt⟩
  match findOneAndUpdate (resendable companyId now)
      (fun verification =>
        { verification with tokenHash := lib.hashToken token, expiresAt := expiresAt, lastSentAt := now })
      w.verifications with
  | some (_, verifications) => pure (token, { w with verifications := verifications, writes := write :: w.writes })
  | none =>
      require (!w.verifications.any fun other => other.companyId = companyId) (.duplicateKey "companyId")
      let verification : CompanyVerification :=
        { companyId := companyId
          ownerId := ownerId
          tokenHash := lib.hashToken token
          expiresAt := expiresAt
          lastSentAt := now }
      pure (token, { w with verifications := verification :: w.verifications, writes := write :: w.writes })

def invalidToken : AuthFailure := .badRequest "Verification token is invalid or expired"

/-- The transaction of `verify`. -/
def verify (tokenHash : Nat) (now : Int) : Except AuthFailure (Unit × OnboardingWorld) := do
  let (verification, verifications) ← orFail
    (findOneAndDelete (fun verification => verification.tokenHash = tokenHash && verification.expiresAt > now)
      w.verifications) invalidToken
  let _ ← orFail
    (w.users.find? fun user =>
      user.id = verification.ownerId && user.companyId = some verification.companyId &&
        user.role = some .companyOwner) invalidToken
  let (_, companies) ← orFail
    (findOneAndUpdate (fun company => company.id = verification.companyId && company.activatedAt.isNone)
      (fun company => { company with activatedAt := some now }) w.companies) invalidToken
  pure ((), { w with verifications := verifications, companies := companies })

/-- `createExchange` and `createRegistrationExchange`, under the unique index on the code. -/
def createExchange (code : Nat) (exchange : GoogleOAuthExchange) : Except AuthFailure (Nat × OnboardingWorld) := do
  require (!w.exchanges.any fun other => other.codeHash = exchange.codeHash) (.duplicateKey "codeHash")
  pure (code, { w with exchanges := exchange :: w.exchanges, codes := (code, exchange.userId) :: w.codes })

/-- The deletion of `consumeExchange` by a run. -/
def consumeExchange (run codeHash : Nat) (now : Int) :
    Except AuthFailure (Option GoogleOAuthExchange × OnboardingWorld) :=
  match findOneAndDelete (fun exchange =>
      exchange.codeHash = codeHash && exchange.purpose = .login && exchange.expiresAt > now) w.exchanges with
  | none => .ok (none, w)
  | some (exchange, exchanges) =>
      .ok (some exchange, { w with exchanges := exchanges, consumed := (run, codeHash) :: w.consumed })

end OnboardingWorld

/-! ### Actions -/

inductive OnboardingAct where
  | now
  | hash (password : String)
  | signUp (name email password : String)
  | sendActivation (email name : String) (token : Nat)
  | findInactiveOwner (email : String)
  | writeVerification (companyId ownerId : Nat) (now : Int)
  | verify (tokenHash : Nat) (now : Int)
  | findByEmail (email : String)
  | findById (id : Nat)
  | findActivatedCompany (companyId : Nat)
  | saveUser (id : Nat)
  | createExchange (userId : Nat) (now : Int)
  | createRegistrationExchange (email : String) (now : Int)
  | consumeExchange (codeHash : Nat) (now : Int)
  | signUpWithGoogle (codeHash : Nat) (name : String)
  /-- Signs a token; `source` names the login code it is for. -/
  | sign (source : Option Nat) (payload : TokenPayload)
deriving DecidableEq

/-- What each action answers. -/
abbrev OnboardingAct.Res : OnboardingAct → Type
  | .now => Int
  | .hash _ => String
  | .signUp .. | .writeVerification .. | .createExchange .. | .createRegistrationExchange .. => Except AuthFailure Nat
  | .sendActivation .. | .verify .. | .saveUser _ => Except AuthFailure Unit
  | .findInactiveOwner _ => Except AuthFailure (Option (Account × StoredCompany))
  | .findByEmail _ | .findById _ => Except AuthFailure (Option Account)
  | .findActivatedCompany _ => Except AuthFailure (Option StoredCompany)
  | .consumeExchange .. => Except AuthFailure (Option GoogleOAuthExchange)
  | .signUpWithGoogle .. => Except AuthFailure Account
  | .sign .. => AccessToken

/-- What the environment decides at an action: its fate, the random token or code, the random salt, and how long ago
the first, the second and the third `new Date()` inside a transaction were taken. -/
structure OnboardingChoice where
  fate : Fate := .delivered
  token : Nat := 0
  salt : Nat := 0
  stale : Nat := 0
  recent : Nat := 0
  latest : Nat := 0

/-- A query that changes nothing. -/
def query {α : Type} (choice : OnboardingChoice) (answer : α) : Except AuthFailure α :=
  if choice.fate = .delivered then .ok answer else .error .database

/-- A transaction or a single write: all of it or nothing; its answer may be lost. -/
def transact {α : Type} (choice : OnboardingChoice) (w : OnboardingWorld)
    (work : Except AuthFailure (α × OnboardingWorld)) : Except AuthFailure α × OnboardingWorld :=
  match work with
  | .error failure => (.error failure, w)
  | .ok (answer, w') =>
      match choice.fate with
      | .delivered => (.ok answer, w')
      | .lostAfter => (.error .database, w')
      | .lostBefore => (.error .database, w)

namespace OnboardingWorld

variable (w : OnboardingWorld)

/-- Whether a verification token was written before. -/
def repeatsToken (token : Nat) : Bool := w.writes.any fun write => write.token = token

/-- Whether a code was issued before. -/
def repeatsCode (code : Nat) : Bool := w.codes.any fun issued => issued.1 = code

end OnboardingWorld

/-- The effect of each action. A random token or code is one that was never issued before. -/
def onboardingExec (lib : Libraries) (run : Nat) (choice : OnboardingChoice) :
    (act : OnboardingAct) → OnboardingWorld → Option (act.Res × OnboardingWorld)
  | .now, w => some (w.clock, w)
  | .hash password, w => some (lib.bcrypt.hash choice.salt password, w)
  | .signUp name email password, w =>
      if w.repeatsToken choice.token then none
      else some (transact choice w
        (w.signUp lib choice.token name email password (w.clock - choice.stale) (w.clock - choice.recent)))
  | .sendActivation .., w => some (if choice.fate = .delivered then .ok () else .error .email, w)
  | .findInactiveOwner email, w => some (query choice (w.findInactiveOwner email), w)
  | .writeVerification companyId ownerId now, w =>
      if w.repeatsToken choice.token then none
      else some (transact choice w (w.writeVerification lib choice.token companyId ownerId now))
  | .verify tokenHash now, w => some (transact choice w (w.verify tokenHash now))
  | .findByEmail email, w => some (query choice (w.users.find? fun user => user.email = email), w)
  | .findById id, w => some (query choice (w.users.find? fun user => user.id = id), w)
  | .findActivatedCompany companyId, w =>
      some (query choice
        (w.companies.find? fun company => company.id = companyId && company.activatedAt.isSome), w)
  | .saveUser _, w => some (query choice (), w)
  | .createExchange userId now, w =>
      if w.repeatsCode choice.token then none
      else some (transact choice w (w.createExchange choice.token
        { codeHash := lib.hashToken choice.token
          userId := some userId
          purpose := .login
          expiresAt := now + googleExchangeTtlMs }))
  | .createRegistrationExchange email now, w =>
      if w.repeatsCode choice.token then none
      else some (transact choice w (w.createExchange choice.token
        { codeHash := lib.hashToken choice.token
          purpose := .registration
          email := some email
          expiresAt := now + googleStateTtlMs }))
  | .consumeExchange codeHash now, w => some (transact choice w (w.consumeExchange run codeHash now))
  | .signUpWithGoogle codeHash name, w =>
      some (transact choice w
        (w.signUpWithGoogle lib codeHash name (w.clock - choice.stale) (w.clock - choice.recent)
          (w.clock - choice.latest)))
  | .sign source payload, w => some (signAsync payload w.clock, { w with signed := ⟨source, payload⟩ :: w.signed })

/-- What happens beside these requests: time passes, the expiry indexes remove documents, members join and leave, a
company is renamed, suspended or reactivated. -/
inductive OnboardingDrift where
  | tick (elapsed : Nat)
  | purgeVerification (companyId : Nat)
  | purgeExchange (codeHash : Nat)
  | join (email : String) (password : Option String) (companyId : Nat)
  | leave (id : Nat)
  | update (companyId : Nat) (name : String) (platformStatus : CompanyPlatformStatus)

def onboardingDrift : OnboardingDrift → OnboardingWorld → Option OnboardingWorld
  | .tick elapsed, w => some { w with clock := w.clock + elapsed }
  | .purgeVerification companyId, w =>
      (findOneAndDelete (fun verification =>
          verification.companyId = companyId && verification.expiresAt ≤ w.clock) w.verifications).map
        fun found => { w with verifications := found.2 }
  | .purgeExchange codeHash, w =>
      (findOneAndDelete (fun exchange => exchange.codeHash = codeHash && exchange.expiresAt ≤ w.clock)
        w.exchanges).map fun found => { w with exchanges := found.2 }
  | .join email password companyId, w =>
      if w.users.any fun user => user.email = email then none
      else some { w with
        users :=
          { id := w.nextId, email := email, password := password, companyId := some companyId } :: w.users
        nextId := w.nextId + 1 }
  | .leave id, w =>
      (findOneAndDelete (fun user => user.id = id && user.role = some .companyMember) w.users).map
        fun found => { w with users := found.2 }
  | .update companyId name platformStatus, w =>
      some { w with
        companies := updateMany (fun company => company.id = companyId)
          (fun company => { company with name := name, platformStatus := platformStatus }) w.companies }

/-! ### Requests -/

abbrev OnboardingHandler (α : Type) := ExceptT AuthFailure (Process OnboardingAct OnboardingAct.Res) α

/-- Awaits one action. -/
def ask (act : OnboardingAct) : OnboardingHandler act.Res := liftM (Process.call act)

/-- A failure ends the request. -/
def check {α : Type} (outcome : Except AuthFailure α) : OnboardingHandler α := liftExcept outcome

/-- `AuthService.assertTenantAccess`. -/
def assertTenantAccess (user : Account) : OnboardingHandler Unit := do
  match user.companyId, user.role with
  | some companyId, some _ =>
      let found ← check (← ask (.findActivatedCompany companyId))
      let company ← check (orFail found (.unauthorized "Account is not activated"))
      check (require (company.platformStatus != .suspended) (.unauthorized "Account is unavailable"))
  | _, _ => throw (.unauthorized "User is not assigned to a company")

/-- `AuthService.signToken`, for the login code that it is for. -/
def signToken (source : Option Nat) (user : Account) : OnboardingHandler AccessToken := do
  assertTenantAccess user
  ask (.sign source { id := user.id, version := some user.version })

/-- The answer of each kind of request. -/
inductive OnboardingReply where
  | message (text : String)
  | accessToken (token : AccessToken)
  /-- A redirect with a login code, with a registration code or with an error. -/
  | code (code : Nat)
  | googleCode (code : Nat)
  | redirectError (error : String)
deriving DecidableEq

/-- The answer to the errors of both registrations. -/
def registrationError : AuthFailure → AuthFailure
  | .duplicateKey field =>
      if field = "email" then .conflict "Email is already in use"
      else if field = "name" then .conflict "Company name is already in use"
      else .conflict "Company or user already exists"
  | failure => failure

/-- `AuthService.signUp`. The hash is computed inside the transaction, on which nothing depends. -/
def signUp (email password companyName : String) : OnboardingHandler OnboardingReply := do
  let password ← ask (.hash password)
  match ← ask (.signUp companyName email password) with
  | .error failure => throw (registrationError failure)
  | .ok token =>
      match ← ask (.sendActivation email companyName token) with
      | .ok () => pure (.message "Company registered. Check your email to activate the account.")
      | .error _ =>
          throw (.serviceUnavailable
            "Registration was saved, but the activation email could not be delivered. Please request another activation email.")

/-- `RESEND_VERIFICATION_RESPONSE`. -/
def resendVerificationResponse : OnboardingReply :=
  .message "If an inactive company account exists for that email, a verification message will be sent."

/-- `CompanyVerificationService.resend`; a failed delivery is only logged. -/
def resend (email : String) : OnboardingHandler OnboardingReply := do
  let now ← ask .now
  match ← check (← ask (.findInactiveOwner email)) with
  | none => pure resendVerificationResponse
  | some (owner, company) =>
      match ← ask (.writeVerification company.id owner.id now) with
      | .error (.duplicateKey _) => pure resendVerificationResponse
      | .error failure => throw failure
      | .ok token =>
          let _ ← ask (.sendActivation owner.email company.name token)
          pure resendVerificationResponse

/-- `CompanyVerificationService.verify`. -/
def verify (lib : Libraries) (token : Nat) : OnboardingHandler OnboardingReply := do
  let now ← ask .now
  check (← ask (.verify (lib.hashToken token) now))
  pure (.message "Account activated. You can now sign in.")

/-- `AuthService.findGoogleUser`. -/
def findGoogleUser (email : String) : OnboardingHandler (Option Account) := do
  match ← check (← ask (.findByEmail email)) with
  | none => pure none
  | some user =>
      assertTenantAccess user
      check (← ask (.saveUser user.id))
      pure (some user)

/-- `AuthController.googleRedirect` for a profile that Google has confirmed. -/
def googleRedirect (email : String) : OnboardingHandler OnboardingReply :=
  ExceptT.mk do
    match ← (findGoogleUser email).run with
    | .error (.unauthorized _) => pure (.ok (.redirectError "account_unavailable"))
    | .error failure => pure (.error failure)
    | .ok (some user) => (do
        let now ← ask .now
        let code ← check (← ask (.createExchange user.id now))
        pure (.code code) : OnboardingHandler OnboardingReply).run
    | .ok none => (do
        let now ← ask .now
        let code ← check (← ask (.createRegistrationExchange email now))
        pure (.googleCode code) : OnboardingHandler OnboardingReply).run

/-- `GoogleOAuthFlowService.consumeExchange`. -/
def consumeExchange (lib : Libraries) (code : Nat) : OnboardingHandler Nat := do
  let now ← ask .now
  let exchange ← check (← ask (.consumeExchange (lib.hashToken code) now))
  check (orFail (exchange.bind (·.userId)) (.unauthorized "Invalid Google sign-in code"))

/-- `AuthController.googleExchange` with `AuthService.exchangeGoogleUser`. -/
def googleExchange (lib : Libraries) (code : Nat) : OnboardingHandler OnboardingReply := do
  let userId ← consumeExchange lib code
  let found ← check (← ask (.findById userId))
  let user ← check (orFail found (.unauthorized "Account is unavailable"))
  pure (.accessToken (← signToken (some (lib.hashToken code)) user))

/-- `AuthController.googleRegister` with `AuthService.signUpWithGoogle`. -/
def googleRegister (lib : Libraries) (code : Nat) (companyName : String) : OnboardingHandler OnboardingReply := do
  match ← ask (.signUpWithGoogle (lib.hashToken code) companyName) with
  | .error failure => throw (registrationError failure)
  | .ok owner => pure (.accessToken (← signToken none owner))

inductive OnboardingJob where
  | signUp (email password companyName : String)
  | resend (email : String)
  | verify (token : Nat)
  | googleRedirect (email : String)
  | googleExchange (code : Nat)
  | googleRegister (code : Nat) (companyName : String)

/-- The handler of each request. -/
def OnboardingJob.handler (lib : Libraries) : OnboardingJob → OnboardingHandler OnboardingReply
  | .signUp email password companyName => Onboarding.signUp email password companyName
  | .resend email => Onboarding.resend email
  | .verify token => Onboarding.verify lib token
  | .googleRedirect email => Onboarding.googleRedirect email
  | .googleExchange code => Onboarding.googleExchange lib code
  | .googleRegister code companyName => Onboarding.googleRegister lib code companyName

/-- All requests over one database. -/
def onboardingMachine (lib : Libraries) :
    Machine OnboardingAct OnboardingAct.Res OnboardingWorld OnboardingChoice OnboardingDrift OnboardingJob
      (Except AuthFailure OnboardingReply) where
  handler job := (job.handler lib).run
  exec := onboardingExec lib
  drift := onboardingDrift

end DataVault.Auth.Onboarding
