/-
Module: DataVault.Auth.Credentials
Layer: Model
Purpose: Everything that issues, replaces or checks the credentials of a tenant user: `signIn` and
  `exchangeGoogleUser` of auth/auth.service.ts, `forgotPassword` and `resetPassword` of
  auth/password-recovery.service.ts, `changePassword` of users/users.service.ts and `canActivate` of
  guards/is-auth.guard.ts. Each awaited query is one action; any number of other requests may run in between.
Imports: DataVault.Auth.Entities, DataVault.Companies.Entity, DataVault.Control.Fallible,
  DataVault.Interleaving.Contract, DataVault.Store.Collection
Trusted boundary: human-reviewed spec
Main exports: AuthWorld, AuthAct, AuthJob, authMachine
-/
import DataVault.Auth.Entities
import DataVault.Companies.Entity
import DataVault.Control.Fallible
import DataVault.Interleaving.Contract
import DataVault.Store.Collection

namespace DataVault.Auth

open DataVault.Companies DataVault.Control DataVault.Interleaving DataVault.Store DataVault.Users

/-- `RESET_TTL_MS`. -/
def resetTtlMs : Int := 30 * 60000

/-- `REQUEST_COOLDOWN_MS`. -/
def requestCooldownMs : Int := 60000

/-- Companies are keyed by id. `signed` records every access token that has been signed and `links` every reset
token that has been stored, with the user it was issued for; both are read by nothing but the check of a
signature and the randomness of new tokens. -/
structure AuthWorld where
  clock : Int
  accounts : List Account
  companies : Nat → Option Company
  nextId : Nat
  signed : List AccessToken := []
  links : List (Nat × Nat) := []

inductive AuthAct where
  | now
  /-- `users.findOne({ email })`. -/
  | findByEmail (email : String)
  /-- `users.findById(id)`. -/
  | findById (id : Nat)
  /-- `users.findOne({ _id: id, companyId })`. -/
  | findMember (id companyId : Nat)
  /-- `users.findOne({ passwordResetTokenHash, passwordResetExpiresAt: { $gt: now } })`. -/
  | findByResetToken (tokenHash : Nat) (now : Int)
  /-- `companies.findOne({ _id, activatedAt: { $ne: null } })`. -/
  | findActivatedCompany (companyId : Nat)
  /-- The same with `platformStatus: { $ne: SUSPENDED }`. -/
  | findAvailableCompany (companyId : Nat)
  | hash (password : String)
  | sign (payload : TokenPayload)
  | verify (token : AccessToken)
  /-- The update of `forgotPassword`. -/
  | storeResetToken (id companyId : Nat) (now : Int)
  | sendResetLink (email : String) (token : Nat)
  /-- The cleanup of `forgotPassword`. -/
  | clearResetToken (id tokenHash : Nat)
  /-- The update of `resetPassword`. -/
  | resetPassword (id companyId tokenHash : Nat) (now : Int) (password : String)
  /-- The update of `changePassword`. -/
  | changePassword (id companyId : Nat) (current password : String)
deriving DecidableEq

/-- What each action answers. -/
abbrev AuthAct.Res : AuthAct → Type
  | .now => Int
  | .findByEmail _ | .findById _ | .findMember .. | .findByResetToken .. => Except AuthFailure (Option Account)
  | .findActivatedCompany _ | .findAvailableCompany _ => Except AuthFailure (Option Company)
  | .hash _ => String
  | .sign _ => AccessToken
  | .verify _ => Except AuthFailure TokenPayload
  | .storeResetToken .. => Except AuthFailure (Option (String × Nat))
  | .sendResetLink .. => Except AuthFailure Unit
  | .clearResetToken .. | .resetPassword .. | .changePassword .. => Except AuthFailure Bool

/-- What the environment decides at an action: its fate, the random token and the random salt. -/
structure AuthChoice where
  fate : Fate := .delivered
  token : Nat := 0
  salt : Nat := 0

/-! ### The writes -/

/-- What the update of `forgotPassword` looks for. -/
def remindable (id companyId : Nat) (now : Int) (account : Account) : Bool :=
  account.id = id && account.companyId = some companyId &&
    account.passwordResetRequestedAt.all fun requested => requested ≤ now - requestCooldownMs

/-- What the cleanup of `forgotPassword` looks for. -/
def holdsResetToken (id tokenHash : Nat) (account : Account) : Bool :=
  account.id = id && account.passwordResetTokenHash = some tokenHash

/-- Whether a reset token is stored that has not expired. -/
def resetTokenLive (tokenHash : Nat) (now : Int) (account : Account) : Bool :=
  account.passwordResetTokenHash = some tokenHash && account.passwordResetExpiresAt.any fun expires => expires > now

/-- What the update of `resetPassword` looks for. -/
def resettable (id companyId tokenHash : Nat) (now : Int) (account : Account) : Bool :=
  account.id = id && account.companyId = some companyId && resetTokenLive tokenHash now account

/-- What the update of `changePassword` looks for. -/
def changeable (id companyId : Nat) (current : String) (account : Account) : Bool :=
  account.id = id && account.companyId = some companyId && account.password = some current

namespace Account

variable (account : Account)

/-- The update of `forgotPassword`. -/
def remind (tokenHash : Nat) (now : Int) : Account :=
  { account with
    passwordResetTokenHash := some tokenHash
    passwordResetExpiresAt := some (now + resetTtlMs)
    passwordResetRequestedAt := some now }

/-- The cleanup of `forgotPassword`. -/
def clearReset : Account :=
  { account with
    passwordResetTokenHash := none
    passwordResetExpiresAt := none
    passwordResetRequestedAt := none }

/-- The update of `resetPassword`. -/
def reset (password : String) : Account :=
  { account.clearReset with password := some password, authVersion := some (account.version + 1) }

/-- The update of `changePassword`: it sets the password alone. -/
def changePassword (password : String) : Account :=
  { account with password := some password }

end Account

namespace AuthWorld

variable (choice : AuthChoice) (w : AuthWorld)

/-- A query that changes nothing. -/
def query {α : Type} (answer : α) : Except AuthFailure α :=
  if choice.fate = .delivered then .ok answer else .error .database

/-- `findOneAndUpdate` on the users, reporting whether a document matched. -/
def update (filter : Account → Bool) (change : Account → Account) : Except AuthFailure Bool × AuthWorld :=
  let found := findOneAndUpdate filter change w.accounts
  let accounts := (found.map Prod.snd).getD w.accounts
  match choice.fate with
  | .delivered => (.ok found.isSome, { w with accounts := accounts })
  | .lostAfter => (.error .database, { w with accounts := accounts })
  | .lostBefore => (.error .database, w)

/-- The update of `forgotPassword`, with the random token that the request has drawn. -/
def storeResetToken (hashToken : Nat → Nat) (id companyId : Nat) (now : Int) :
    Except AuthFailure (Option (String × Nat)) × AuthWorld :=
  match findOneAndUpdate (remindable id companyId now) (·.remind (hashToken choice.token) now) w.accounts with
  | none => (query choice none, w)
  | some (account, accounts) =>
      let stored := { w with accounts := accounts, links := (id, choice.token) :: w.links }
      match choice.fate with
      | .delivered => (.ok (some (account.email, choice.token)), stored)
      | .lostAfter => (.error .database, stored)
      | .lostBefore => (.error .database, w)

end AuthWorld

/-- The effect of each action. A random token is one that was never issued before, and a signature is good iff
the token was signed here. -/
def authExec (hashToken : Nat → Nat) (bcrypt : Bcrypt) (_run : Nat) (choice : AuthChoice) :
    (act : AuthAct) → AuthWorld → Option (act.Res × AuthWorld)
  | .now, w => some (w.clock, w)
  | .findByEmail email, w =>
      some (AuthWorld.query choice (w.accounts.find? fun account => account.email = email), w)
  | .findById id, w => some (AuthWorld.query choice (w.accounts.find? fun account => account.id = id), w)
  | .findMember id companyId, w =>
      some (AuthWorld.query choice
        (w.accounts.find? fun account => account.id = id && account.companyId = some companyId), w)
  | .findByResetToken tokenHash now, w =>
      some (AuthWorld.query choice (w.accounts.find? (resetTokenLive tokenHash now)), w)
  | .findActivatedCompany companyId, w =>
      some (AuthWorld.query choice ((w.companies companyId).filter fun company => company.activatedAt.isSome), w)
  | .findAvailableCompany companyId, w =>
      some (AuthWorld.query choice ((w.companies companyId).filter fun company =>
        company.activatedAt.isSome && company.platformStatus != .suspended), w)
  | .hash password, w => some (bcrypt.hash choice.salt password, w)
  | .sign payload, w =>
      let token := signAsync payload w.clock
      some (token, { w with signed := token :: w.signed })
  | .verify token, w =>
      some (if token ∈ w.signed then
          if token.expired w.clock then .error (.token "jwt expired") else .ok token.payload
        else .error (.token "invalid signature"), w)
  | .storeResetToken id companyId now, w =>
      if choice.token ∈ w.links.map Prod.snd then none
      else some (w.storeResetToken choice hashToken id companyId now)
  | .sendResetLink _ _, w => some (if choice.fate = .delivered then .ok () else .error .email, w)
  | .clearResetToken id tokenHash, w => some (w.update choice (holdsResetToken id tokenHash) Account.clearReset)
  | .resetPassword id companyId tokenHash now password, w =>
      some (w.update choice (resettable id companyId tokenHash now) (·.reset password))
  | .changePassword id companyId current password, w =>
      some (w.update choice (changeable id companyId current) (·.changePassword password))

/-- What happens beside these requests: time passes, a user is registered or deleted, an administrator changes a
role or a company. -/
inductive AuthDrift where
  | tick (elapsed : Nat)
  | register (email : String) (password : Option String) (authVersion : Option Nat) (companyId : Option Nat)
      (role : Option Role)
  | delete (id : Nat)
  | assign (id : Nat) (companyId : Option Nat) (role : Option Role)
  | company (companyId : Nat) (company : Option Company)

def authDrift : AuthDrift → AuthWorld → Option AuthWorld
  | .tick elapsed, w => some { w with clock := w.clock + elapsed }
  | .register email password authVersion companyId role, w =>
      if w.accounts.any fun account => account.email = email then none
      else some { w with
        accounts :=
          { id := w.nextId, email, password, authVersion, companyId, role } :: w.accounts
        nextId := w.nextId + 1 }
  | .delete id, w =>
      (findOneAndDelete (fun account => account.id = id) w.accounts).map fun found => { w with accounts := found.2 }
  | .assign id companyId role, w =>
      (findOneAndUpdate (fun account => account.id = id) (fun account => { account with companyId, role })
        w.accounts).map fun found => { w with accounts := found.2 }
  | .company companyId company, w => some { w with companies := Function.update w.companies companyId company }

/-! ### Requests -/

abbrev AuthHandler (α : Type) := ExceptT AuthFailure (Process AuthAct AuthAct.Res) α

/-- Awaits one action. -/
def ask (act : AuthAct) : AuthHandler act.Res := liftM (Process.call act)

/-- A failure ends the request. -/
def check {α : Type} (outcome : Except AuthFailure α) : AuthHandler α := liftExcept outcome

/-- `AuthService.assertTenantAccess`. -/
def assertTenantAccess (user : Account) : AuthHandler Unit := do
  match user.companyId, user.role with
  | some companyId, some _ =>
      let found ← check (← ask (.findActivatedCompany companyId))
      let company ← check (orFail found (.unauthorized "Account is not activated"))
      check (require (company.platformStatus != .suspended) (.unauthorized "Account is unavailable"))
  | _, _ => throw (.unauthorized "User is not assigned to a company")

/-- `AuthService.signToken`. -/
def signToken (user : Account) : AuthHandler AccessToken := do
  assertTenantAccess user
  ask (.sign { id := user.id, version := some user.version })

/-- The answer of each kind of request. -/
inductive AuthReply where
  | accessToken (token : AccessToken)
  | message (text : String)
  | reset
  | authenticated (auth : AuthenticatedUser)
deriving DecidableEq

/-- `AuthService.signIn`. -/
def signIn (bcrypt : Bcrypt) (email password : String) : AuthHandler AuthReply := do
  let found ← check (← ask (.findByEmail email))
  let user ← check (orFail (found.filter fun user => user.passwordHash.any (bcrypt.compare password))
    (.unauthorized "Invalid credentials"))
  pure (.accessToken (← signToken user))

/-- `AuthService.exchangeGoogleUser`. -/
def exchangeGoogleUser (userId : Nat) : AuthHandler AuthReply := do
  let found ← check (← ask (.findById userId))
  let user ← check (orFail found (.unauthorized "Account is unavailable"))
  pure (.accessToken (← signToken user))

/-- `RECOVERY_RESPONSE`. -/
def recoveryResponse : AuthReply :=
  .message "If this email belongs to an active workspace, a reset link will arrive shortly."

/-- `PasswordRecoveryService.forgotPassword`; a failure of the cleanup is only logged. -/
def forgotPassword (hashToken : Nat → Nat) (email : String) : AuthHandler AuthReply := do
  match ← check (← ask (.findByEmail email)) with
  | none => pure recoveryResponse
  | some user =>
      match user.companyId with
      | none => pure recoveryResponse
      | some companyId =>
          match ← check (← ask (.findAvailableCompany companyId)) with
          | none => pure recoveryResponse
          | some _ =>
              let now ← ask .now
              match ← check (← ask (.storeResetToken user.id companyId now)) with
              | none => pure recoveryResponse
              | some (email, token) =>
                  match ← ask (.sendResetLink email token) with
                  | .ok () => pure recoveryResponse
                  | .error _ =>
                      let _ ← ask (.clearResetToken user.id (hashToken token))
                      pure recoveryResponse

def invalidResetLink : AuthFailure := .unauthorized "Invalid or expired reset link"

/-- `PasswordRecoveryService.resetPassword`. -/
def resetPassword (hashToken : Nat → Nat) (token : Nat) (newPassword : String) : AuthHandler AuthReply := do
  let tokenHash := hashToken token
  let found ← check (← ask (.findByResetToken tokenHash (← ask .now)))
  let user ← check (orFail found invalidResetLink)
  let companyId ← check (orFail user.companyId invalidResetLink)
  let company ← check (← ask (.findAvailableCompany companyId))
  check (require company.isSome invalidResetLink)
  let password ← ask (.hash newPassword)
  let changed ← check (← ask (.resetPassword user.id companyId tokenHash (← ask .now) password))
  check (require changed invalidResetLink)
  pure .reset

/-- `UsersService.changePassword`. -/
def changePassword (bcrypt : Bcrypt) (actor : AuthenticatedUser) (currentPassword newPassword : String) :
    AuthHandler AuthReply := do
  let found ← check (← ask (.findMember actor.id actor.companyId))
  let current ← check (orFail ((found.bind Account.passwordHash).filter (bcrypt.compare currentPassword))
    (.unauthorized "Current password is incorrect"))
  check (require (!bcrypt.compare newPassword current)
    (.badRequest "The new password must be different from the current password"))
  let password ← ask (.hash newPassword)
  let changed ← check (← ask (.changePassword actor.id actor.companyId current password))
  check (require changed (.unauthorized "The password changed during this request; try again"))
  pure (.message "Password changed successfully")

/-- The body of `canActivate` inside its `try`. -/
def authenticate (token : AccessToken) : AuthHandler AuthReply := do
  let payload ← check (← ask (.verify token))
  check (require payload.type.isNone (.token "Invalid token payload"))
  let found ← check (← ask (.findById payload.id))
  let user ← check (orFail (found.filter fun user => payload.version.getD 0 = user.version)
    (.token "Invalid user membership"))
  match user.companyId, user.role with
  | some companyId, some role =>
      let found ← check (← ask (.findActivatedCompany companyId))
      let _ ← check (orFail (found.filter fun company => company.platformStatus != .suspended)
        (.token "Unavailable company"))
      pure (.authenticated { id := user.id, companyId := companyId, role := role })
  | _, _ => throw (.token "Invalid user membership")

/-- `IsAuthGuard.canActivate` on the bearer token of a request, if it has one. -/
def canActivate : Option AccessToken → AuthHandler AuthReply
  | none => throw (.unauthorized "Invalid or missing bearer token")
  | some token =>
      Process.recover (authenticate token) fun _ => throw (.unauthorized "Invalid or expired bearer token")

inductive AuthJob where
  | signIn (email password : String)
  | exchangeGoogleUser (userId : Nat)
  | forgotPassword (email : String)
  | resetPassword (token : Nat) (newPassword : String)
  | changePassword (actor : AuthenticatedUser) (currentPassword newPassword : String)
  | canActivate (token : Option AccessToken)

/-- The handler of each request. -/
def AuthJob.handler (hashToken : Nat → Nat) (bcrypt : Bcrypt) : AuthJob → AuthHandler AuthReply
  | .signIn email password => Auth.signIn bcrypt email password
  | .exchangeGoogleUser userId => Auth.exchangeGoogleUser userId
  | .forgotPassword email => Auth.forgotPassword hashToken email
  | .resetPassword token newPassword => Auth.resetPassword hashToken token newPassword
  | .changePassword actor currentPassword newPassword =>
      Auth.changePassword bcrypt actor currentPassword newPassword
  | .canActivate token => Auth.canActivate token

/-- All requests over one database; `hashToken` is the digest of reset tokens. -/
def authMachine (hashToken : Nat → Nat) (bcrypt : Bcrypt) :
    Machine AuthAct AuthAct.Res AuthWorld AuthChoice AuthDrift AuthJob (Except AuthFailure AuthReply) where
  handler job := (job.handler hashToken bcrypt).run
  exec := authExec hashToken bcrypt
  drift := authDrift

end DataVault.Auth
