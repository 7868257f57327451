/-
Module: DataVault.Admin.AccessRequests
Layer: Model
Purpose: Access to the platform administration on request: `request`, `verify`, `decide`, `resendSetup` and `setup` of
  admin/admin-access-request.service.ts over the collections of access requests, platform administrators and audit
  records. A transaction is one action; any number of other requests may run between two awaits.
Imports: DataVault.Auth.Entities, DataVault.Control.Fallible, DataVault.Interleaving.Contract,
  DataVault.Store.Collection
Trusted boundary: human-reviewed spec
Main exports: AdminAccessRequest, AdminWorld, AdminAct, AdminJob, adminMachine
-/
import DataVault.Auth.Entities
import DataVault.Control.Fallible
import DataVault.Interleaving.Contract
import DataVault.Store.Collection

namespace DataVault.Admin

open DataVault.Auth (AuthFailure Bcrypt Fate)
open DataVault.Control DataVault.Interleaving DataVault.Store

/-- `LINK_LIFETIME_MS`. -/
def linkLifetimeMs : Int := 24 * 60 * 60 * 1000

/-- `AdminAccessRequestStatus`. -/
inductive AccessStatus where
  | awaitingVerification
  | pendingReview
  | approved
  | rejected
  | activated
  | expired
deriving DecidableEq, Repr

/-- The states that the unique index on the email covers. -/
def AccessStatus.isOpen : AccessStatus → Bool
  | .awaitingVerification | .pendingReview | .approved => true
  | .rejected | .activated | .expired => false

structure AdminAccessRequest where
  id : Nat
  email : String
  fullName : String
  reason : Option String
  status : AccessStatus
  verificationTokenHash : Option Nat := none
  verificationExpiresAt : Option Int := none
  setupTokenHash : Option Nat := none
  setupExpiresAt : Option Int := none
  reviewedBy : Option Nat := none
  reviewedAt : Option Int := none
  verifiedAt : Option Int := none
  activatedAt : Option Int := none
deriving DecidableEq, Repr

structure PlatformAdmin where
  id : Nat
  email : String
  fullName : String
  password : String
  isActive : Bool := true
deriving DecidableEq, Repr

/-- `AdminAuditAction`, as far as access requests and the creation of administrators go. -/
inductive AuditAction where
  | bootstrapCreated
  | accessRequested
  | accessVerified
  | accessApproved
  | accessRejected
  | accessActivated
  | other (action : String)
deriving DecidableEq, Repr

inductive AuditTarget where
  | platformAdmin
  | company
  | adminAccessRequest
deriving DecidableEq, Repr

structure AdminAudit where
  action : AuditAction
  actorId : Option Nat := none
  targetId : Option Nat
  targetType : Option AuditTarget
deriving DecidableEq, Repr

/-- The audit record of a transition of an access request. -/
def accessAudit (action : AuditAction) (actorId : Option Nat) (requestId : Nat) : AdminAudit where
  action := action
  actorId := actorId
  targetId := some requestId
  targetType := some .adminAccessRequest

/-- The texts that are sent, with the token of their link. -/
inductive Mail where
  | verifyRequest (token : Nat)
  | awaitingReview
  | approved (token : Nat)
  | rejected
  | setup (token : Nat)
deriving DecidableEq, Repr

/-- The two kinds of links. -/
inductive LinkKind where
  | verification
  | setup
deriving DecidableEq, Repr

/-- A token that has been stored with an access request. -/
structure IssuedLink where
  kind : LinkKind
  requestId : Nat
  token : Nat
deriving DecidableEq, Repr

/-- `links` records the tokens that were issued and `outbox` the messages that were handed over; only the randomness
of new tokens depends on them. -/
structure AdminWorld where
  clock : Int
  requests : List AdminAccessRequest
  admins : List PlatformAdmin
  audits : List AdminAudit
  nextId : Nat
  links : List IssuedLink := []
  outbox : List (String × Mail) := []

namespace AdminAccessRequest

variable (request : AdminAccessRequest)

def expire : AdminAccessRequest :=
  { request with status := .expired, verificationTokenHash := none, verificationExpiresAt := none }

def verify (now : Int) : AdminAccessRequest :=
  { request with
    status := .pendingReview
    verifiedAt := some now
    verificationTokenHash := none
    verificationExpiresAt := none }

def renewSetup (setupTokenHash : Nat) (now : Int) : AdminAccessRequest :=
  { request with setupTokenHash := some setupTokenHash, setupExpiresAt := some (now + linkLifetimeMs) }

def approve (actorId setupTokenHash : Nat) (now : Int) : AdminAccessRequest :=
  { request.renewSetup setupTokenHash now with
    status := .approved, reviewedBy := some actorId, reviewedAt := some now }

def reject (actorId : Nat) (now : Int) : AdminAccessRequest :=
  { request with status := .rejected, reviewedBy := some actorId, reviewedAt := some now }

def activate (now : Int) : AdminAccessRequest :=
  { request with status := .activated, activatedAt := some now, setupTokenHash := none, setupExpiresAt := none }

/-- An unverified application whose link has expired. -/
def stale (email : String) (now : Int) : Bool :=
  request.email = email && request.status = .awaitingVerification &&
    request.verificationExpiresAt.any fun expires => expires ≤ now

/-- An application that is neither refused nor finished. -/
def openFor (email : String) : Bool := request.email = email && request.status.isOpen

/-- What `verify` looks for. -/
def verifiable (tokenHash : Nat) (now : Int) : Bool :=
  request.status = .awaitingVerification && request.verificationTokenHash = some tokenHash &&
    request.verificationExpiresAt.any fun expires => expires > now

/-- What `setup` looks for. -/
def activatable (tokenHash : Nat) (now : Int) : Bool :=
  request.status = .approved && request.setupTokenHash = some tokenHash &&
    request.setupExpiresAt.any fun expires => expires > now

/-- A request of this id and status. -/
def inStatus (id : Nat) (status : AccessStatus) : Bool := request.id = id && request.status = status

end AdminAccessRequest

/-! ### The writes -/

namespace AdminWorld

variable (w : AdminWorld)

/-- The first update of `request`. -/
def expireStale (email : String) (now : Int) : AdminWorld :=
  { w with requests := updateMany (·.stale email now) AdminAccessRequest.expire w.requests }

/-- The transaction of `request`, under the unique index on the email of open requests. -/
def createRequest (hashToken : Nat → Nat) (token : Nat) (email fullName : String) (reason : Option String)
    (now : Int) : Except AuthFailure ((Nat × Nat) × AdminWorld) := do
  let request : AdminAccessRequest :=
    { id := w.nextId
      email := email
      fullName := fullName
      reason := reason
      status := .awaitingVerification
      verificationTokenHash := some (hashToken token)
      verificationExpiresAt := some (now + linkLifetimeMs) }
  let requests := request :: w.requests
  require (countDocuments requests (·.openFor email) ≤ 1) (.duplicateKey "email")
  pure ((request.id, token),
    { w with
      requests := requests
      audits := w.audits ++ [accessAudit .accessRequested none request.id]
      nextId := w.nextId + 1
      links := ⟨.verification, request.id, token⟩ :: w.links })

/-- The cleanup of `request` after a failed delivery. -/
def expireRequest (id : Nat) : AdminWorld :=
  match findOneAndUpdate (·.inStatus id .awaitingVerification) AdminAccessRequest.expire w.requests with
  | none => w
  | some (_, requests) => { w with requests := requests }

/-- The transaction of `verify`. -/
def verify (tokenHash : Nat) (now : Int) : Except AuthFailure (AdminAccessRequest × AdminWorld) := do
  let (request, requests) ← orFail
    (findOneAndUpdate (·.verifiable tokenHash now) (·.verify now) w.requests)
    (.badRequest "This verification link is invalid or expired.")
  pure (request,
    { w with requests := requests, audits := w.audits ++ [accessAudit .accessVerified none request.id] })

/-- The transaction of an approving `decide`, with the token it has drawn. -/
def approve (hashToken : Nat → Nat) (token actorId id : Nat) (now : Int) :
    Except AuthFailure ((AdminAccessRequest × Option Nat) × AdminWorld) := do
  let (request, requests) ← orFail
    (findOneAndUpdate (·.inStatus id .pendingReview) (·.approve actorId (hashToken token) now) w.requests)
    (.conflict "This request has already been reviewed.")
  pure ((request, some token),
    { w with
      requests := requests
      audits := w.audits ++ [accessAudit .accessApproved (some actorId) request.id]
      links := ⟨.setup, request.id, token⟩ :: w.links })

/-- The transaction of a rejecting `decide`. -/
def reject (actorId id : Nat) (now : Int) : Except AuthFailure ((AdminAccessRequest × Option Nat) × AdminWorld) := do
  let (request, requests) ← orFail
    (findOneAndUpdate (·.inStatus id .pendingReview) (·.reject actorId now) w.requests)
    (.conflict "This request has already been reviewed.")
  pure ((request, none),
    { w with
      requests := requests
      audits := w.audits ++ [accessAudit .accessRejected (some actorId) request.id] })

/-- The update of `resendSetup`. -/
def resendSetup (hashToken : Nat → Nat) (token id : Nat) (now : Int) :
    Except AuthFailure (Option (String × Nat) × AdminWorld) :=
  match findOneAndUpdate (·.inStatus id .approved) (·.renewSetup (hashToken token) now) w.requests with
  | none => .ok (none, w)
  | some (request, requests) =>
      .ok (some (request.email, token), { w with requests := requests, links := ⟨.setup, request.id, token⟩ :: w.links })

/-- The transaction of `setup`, under the unique index on the email of administrators. -/
def setup (tokenHash : Nat) (password : String) (now : Int) : Except AuthFailure (Unit × AdminWorld) := do
  let (request, requests) ← orFail
    (findOneAndUpdate (·.activatable tokenHash now) (·.activate now) w.requests)
    (.badRequest "This setup link is invalid or expired.")
  let admin : PlatformAdmin :=
    { id := w.nextId, email := request.email, fullName := request.fullName, password := password }
  require (!w.admins.any fun other => other.email = admin.email) (.duplicateKey "email")
  pure ((),
    { w with
      requests := requests
      admins := admin :: w.admins
      audits := w.audits ++ [accessAudit .accessActivated (some admin.id) request.id]
      nextId := w.nextId + 1 })

end AdminWorld

/-! ### Actions -/

inductive AdminAct where
  | now
  | expireStale (email : String) (now : Int)
  | adminExists (email : String)
  | openRequestExists (email : String)
  | createRequest (email fullName : String) (reason : Option String) (now : Int)
  | expireRequest (id : Nat)
  | verify (tokenHash : Nat)
  | findActiveAdmins
  | decide (actorId id : Nat) (approving : Bool)
  | resendSetup (id : Nat)
  | hash (password : String)
  | setup (tokenHash : Nat) (password : String)
  | send (recipients : List String) (mail : Mail)
deriving DecidableEq

/-- What each action answers. -/
abbrev AdminAct.Res : AdminAct → Type
  | .now => Int
  | .hash _ => String
  | .adminExists _ | .openRequestExists _ => Except AuthFailure Bool
  | .createRequest .. => Except AuthFailure (Nat × Nat)
  | .verify _ => Except AuthFailure AdminAccessRequest
  | .findActiveAdmins => Except AuthFailure (List String)
  | .decide .. => Except AuthFailure (AdminAccessRequest × Option Nat)
  | .resendSetup _ => Except AuthFailure (Option (String × Nat))
  | .expireStale .. | .expireRequest _ | .setup .. | .send .. => Except AuthFailure Unit

/-- What the environment decides at an action: its fate, the random token, the random salt, and how long ago the
`new Date()` inside a transaction was taken. -/
structure AdminChoice where
  fate : Fate := .delivered
  token : Nat := 0
  salt : Nat := 0
  stale : Nat := 0

/-- A query that changes nothing. -/
def query {α : Type} (choice : AdminChoice) (answer : α) : Except AuthFailure α :=
  if choice.fate = .delivered then .ok answer else .error .database

/-- A transaction: all of its writes or none of them; its answer may be lost. -/
def transact {α : Type} (choice : AdminChoice) (w : AdminWorld) (work : Except AuthFailure (α × AdminWorld)) :
    Except AuthFailure α × AdminWorld :=
  match work with
  | .error failure => (.error failure, w)
  | .ok (answer, w') =>
      match choice.fate with
      | .delivered => (.ok answer, w')
      | .lostAfter => (.error .database, w')
      | .lostBefore => (.error .database, w)

/-- Whether a token was issued before. -/
def AdminWorld.repeats (w : AdminWorld) (token : Nat) : Bool := w.links.any fun link => link.token = token

/-- The effect of each action. A random token is one that was never issued before. -/
def adminExec (hashToken : Nat → Nat) (bcrypt : Bcrypt) (_run : Nat) (choice : AdminChoice) :
    (act : AdminAct) → AdminWorld → Option (act.Res × AdminWorld)
  | .now, w => some (w.clock, w)
  | .hash password, w => some (bcrypt.hash choice.salt password, w)
  | .expireStale email now, w => some (transact choice w (.ok ((), w.expireStale email now)))
  | .adminExists email, w => some (query choice (w.admins.any fun admin => admin.email = email), w)
  | .openRequestExists email, w => some (query choice (w.requests.any (·.openFor email)), w)
  | .createRequest email fullName reason now, w =>
      if w.repeats choice.token then none
      else some (transact choice w (w.createRequest hashToken choice.token email fullName reason now))
  | .expireRequest id, w => some (transact choice w (.ok ((), w.expireRequest id)))
  | .verify tokenHash, w => some (transact choice w (w.verify tokenHash (w.clock - choice.stale)))
  | .findActiveAdmins, w =>
      some (query choice ((w.admins.filter fun admin => admin.isActive).map (·.email)), w)
  | .decide actorId id approving, w =>
      if approving then
        if w.repeats choice.token then none
        else some (transact choice w (w.approve hashToken choice.token actorId id (w.clock - choice.stale)))
      else some (transact choice w (w.reject actorId id (w.clock - choice.stale)))
  | .resendSetup id, w =>
      if w.repeats choice.token then none
      else some (transact choice w (w.resendSetup hashToken choice.token id (w.clock - choice.stale)))
  | .setup tokenHash password, w =>
      some (transact choice w (w.setup tokenHash password (w.clock - choice.stale)))
  | .send recipients mail, w =>
      let handed := { w with outbox := recipients.map (·, mail) ++ w.outbox }
      some (match choice.fate with
        | .delivered => (.ok (), handed)
        | .lostAfter => (.error .email, handed)
        | .lostBefore => (.error .email, w))

/-- What happens beside these requests: time passes, an administrator is created by the bootstrap command, enabled or
disabled, or something else is recorded. -/
inductive AdminDrift where
  | tick (elapsed : Nat)
  | bootstrap (email fullName password : String)
  | setActive (id : Nat) (isActive : Bool)
  | audit (action : String) (actorId targetId : Option Nat)

def adminDrift : AdminDrift → AdminWorld → Option AdminWorld
  | .tick elapsed, w => some { w with clock := w.clock + elapsed }
  | .bootstrap email fullName password, w =>
      if w.admins.any fun admin => admin.email = email then none
      else some { w with
        admins := { id := w.nextId, email := email, fullName := fullName, password := password } :: w.admins
        audits := w.audits ++ [⟨.bootstrapCreated, some w.nextId, some w.nextId, some .platformAdmin⟩]
        nextId := w.nextId + 1 }
  | .setActive id isActive, w =>
      some { w with
        admins := updateMany (fun admin => admin.id = id) (fun admin => { admin with isActive := isActive }) w.admins }
  | .audit action actorId targetId, w =>
      some { w with audits := w.audits ++ [⟨.other action, actorId, targetId, some .company⟩] }

/-! ### Requests -/

abbrev AdminHandler (α : Type) := ExceptT AuthFailure (Process AdminAct AdminAct.Res) α

/-- Awaits one action. -/
def ask (act : AdminAct) : AdminHandler act.Res := liftM (Process.call act)

/-- A failure ends the request. -/
def check {α : Type} (outcome : Except AuthFailure α) : AdminHandler α := liftExcept outcome

/-- The answer of each kind of request. -/
inductive AdminReply where
  | message (text : String)
  | verified (message : String)
  | decided (status : AccessStatus) (notificationDelivered : Bool)
  | sent
  | activated
deriving DecidableEq

/-- `REQUEST_MESSAGE`. -/
def requestMessage : AdminReply :=
  .message "If the email can receive a request, a verification link will arrive shortly."

/-- `AdminAccessRequestService.request`; a failure of the cleanup is only logged. -/
def request (email fullName : String) (reason : Option String) : AdminHandler AdminReply := do
  let now ← ask .now
  check (← ask (.expireStale email now))
  if ← check (← ask (.adminExists email)) then
    pure requestMessage
  else if ← check (← ask (.openRequestExists email)) then
    pure requestMessage
  else
    match ← ask (.createRequest email fullName reason now) with
    | .error (.duplicateKey _) => pure requestMessage
    | .error _ => throw (.serviceUnavailable "Access request temporarily unavailable")
    | .ok (id, token) =>
        match ← ask (.send [email] (.verifyRequest token)) with
        | .ok () => pure requestMessage
        | .error _ =>
            let _ ← ask (.expireRequest id)
            pure requestMessage

/-- `AdminAccessRequestService.verify`; a failure of the notification is only logged. -/
def verify (hashToken : Nat → Nat) (token : Nat) : AdminHandler AdminReply := do
  match ← ask (.verify (hashToken token)) with
  | .error (.badRequest message) => throw (.badRequest message)
  | .error _ => throw (.serviceUnavailable "Verification temporarily unavailable")
  | .ok _ =>
      match ← ask .findActiveAdmins with
      | .error _ => pure verified
      | .ok admins =>
          let _ ← ask (.send admins .awaitingReview)
          pure verified
where
  verified : AdminReply := .verified "Request sent. Please wait for a decision."

/-- `AdminAccessRequestService.decide`. -/
def decide (actorId id : Nat) (approving : Bool) : AdminHandler AdminReply := do
  match ← ask (.decide actorId id approving) with
  | .error (.conflict message) => throw (.conflict message)
  | .error _ => throw (.serviceUnavailable "Decision temporarily unavailable")
  | .ok (request, token) =>
      let sent ← ask (.send [request.email] (token.elim .rejected .approved))
      pure (.decided request.status sent.isOk)

/-- `AdminAccessRequestService.resendSetup`. -/
def resendSetup (id : Nat) : AdminHandler AdminReply := do
  match ← check (← ask (.resendSetup id)) with
  | none => throw (.conflict "This request is not awaiting account setup.")
  | some (email, token) =>
      match ← ask (.send [email] (.setup token)) with
      | .ok () => pure .sent
      | .error _ => throw (.serviceUnavailable "Setup email could not be sent. Please try again.")

/-- `AdminAccessRequestService.setup`. -/
def setup (hashToken : Nat → Nat) (token : Nat) (newPassword : String) : AdminHandler AdminReply := do
  let password ← ask (.hash newPassword)
  match ← ask (.setup (hashToken token) password) with
  | .error (.badRequest message) => throw (.badRequest message)
  | .error (.duplicateKey _) => throw (.badRequest "This setup link can no longer be used.")
  | .error _ => throw (.serviceUnavailable "Account setup temporarily unavailable")
  | .ok () => pure .activated

inductive AdminJob where
  | request (email fullName : String) (reason : Option String)
  | verify (token : Nat)
  | decide (actorId id : Nat) (approving : Bool)
  | resendSetup (id : Nat)
  | setup (token : Nat) (newPassword : String)

/-- The handler of each request. -/
def AdminJob.handler (hashToken : Nat → Nat) : AdminJob → AdminHandler AdminReply
  | .request email fullName reason => Admin.request email fullName reason
  | .verify token => Admin.verify hashToken token
  | .decide actorId id approving => Admin.decide actorId id approving
  | .resendSetup id => Admin.resendSetup id
  | .setup token newPassword => Admin.setup hashToken token newPassword

/-- All requests over one database; `hashToken` is the digest of tokens. -/
def adminMachine (hashToken : Nat → Nat) (bcrypt : Bcrypt) :
    Machine AdminAct AdminAct.Res AdminWorld AdminChoice AdminDrift AdminJob (Except AuthFailure AdminReply) where
  handler job := (job.handler hashToken).run
  exec := adminExec hashToken bcrypt
  drift := adminDrift

end DataVault.Admin
