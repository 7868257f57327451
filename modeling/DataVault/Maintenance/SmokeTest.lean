/-
Module: DataVault.Maintenance.SmokeTest
Layer: Model
Purpose: The smoke test of the platform administration (maintenance/admin-smoke-test.service.ts): a client that
  suspends and reactivates a company of its own over HTTP, and reactivates it when the test breaks off in between.
Imports: DataVault.Files.Validation, DataVault.Interleaving.Course, DataVault.Store.Document, DataVault.Text.Json,
  DataVault.Workbook.Detectors
Trusted boundary: human-reviewed spec
Main exports: SmokeRuntime, SmokeStage, SmokeFailure, SmokeEndpoint, SmokeAct, pristineFixture, fixtureState,
  platformAdminSmokeTest
-/
import DataVault.Files.Validation
import DataVault.Interleaving.Course
import DataVault.Store.Document
import DataVault.Text.Json
import DataVault.Workbook.Detectors

namespace DataVault.Maintenance.SmokeTest

open Control Files Interleaving Store Text
open Workbook (isSpace utf16Length)

/-! ### Failures -/

inductive SmokeStage where
  | adminAuthentication
  | activation
  | resumeFixtureLookup
  | resumeFixtureSafety
  | registration
  | tenantLogin
  | tenantEndpoint
  | tenantAdminDenied
  | fixtureSafety
  | suspend
  | issuedJwtRejected
  | freshLoginRejected
  | statePreserved
  | platformAdminRemainsFunctional
  | reactivate
  | originalJwtRestored
  | auditEvents
deriving DecidableEq, Repr

/-- `CliFailure` and `SmokeFailure`, which adds the stage and the status. -/
inductive SmokeFailure where
  | invalidSmokeConfiguration
  | operatorCancelled
  | assertion (stage : SmokeStage) (status : Option Nat)
  | recovery
deriving DecidableEq, Repr

/-! ### Requests -/

inductive SmokeEndpoint where
  | dashboard
  | signUp
  | verifyAccount
  | signIn
  | currentUser
  | companies (search : String)
  | company (id : String)
  | suspend (id : String)
  | reactivate (id : String)
  | auditLogs (targetId : String)
deriving DecidableEq, Repr

def SmokeEndpoint.method : SmokeEndpoint → String
  | .signUp | .verifyAccount | .signIn | .suspend _ | .reactivate _ => "POST"
  | .dashboard | .currentUser | .companies _ | .company _ | .auditLogs _ => "GET"

/-- A URL as `new URL` takes it apart. -/
structure SmokeUrl where
  protocol : String
  hostname : String
  username : String
  password : String
  hash : String
  searchParams : List (String × String)

/-- What the client takes from its libraries. -/
structure SmokeRuntime where
  isEmail : String → Bool
  parseUrl : String → Option SmokeUrl
  encodeURIComponent : String → String

def SmokeEndpoint.path (runtime : SmokeRuntime) : SmokeEndpoint → String
  | .dashboard => "/admin/dashboard"
  | .signUp => "/auth/sign-up"
  | .verifyAccount => "/auth/verify-account"
  | .signIn => "/auth/sign-in"
  | .currentUser => "/auth/current-user"
  | .companies search =>
      "/admin/companies?search=" ++ runtime.encodeURIComponent search ++ "&limit=100&sortBy=createdAt&order=desc"
  | .company id => "/admin/companies/" ++ id
  | .suspend id => "/admin/companies/" ++ id ++ "/suspend"
  | .reactivate id => "/admin/companies/" ++ id ++ "/reactivate"
  | .auditLogs targetId => "/admin/audit-logs?targetId=" ++ targetId ++ "&limit=100&order=desc"

structure SmokeResponse where
  status : Nat
  body : Option Json

/-- A request of the client, or the question for the activation link. -/
inductive SmokeAct where
  | request (endpoint : SmokeEndpoint) (token : Option String) (body : Option Json)
  | promptActivation

/-- A request may fail without an answer, and the operator may cancel. -/
abbrev SmokeAct.Res : SmokeAct → Type
  | .request .. => Option SmokeResponse
  | .promptActivation => Option String

abbrev SmokeHandler (α : Type) := ExceptT SmokeFailure (Process SmokeAct SmokeAct.Res) α

/-- Awaits one action. -/
def await (act : SmokeAct) : SmokeHandler act.Res := liftM (Process.call act : Process SmokeAct SmokeAct.Res act.Res)

/-- A check between two awaits. -/
def check {α : Type} (outcome : Except SmokeFailure α) : SmokeHandler α := liftExcept outcome

/-- The body of an answer with the expected status. -/
def expectStatus (stage : SmokeStage) (status : Nat) : Option SmokeResponse → Except SmokeFailure (Option Json)
  | none => .error (.assertion stage none)
  | some response =>
      if response.status = status then .ok response.body else .error (.assertion stage (some response.status))

/-- `call` -/
def call (stage : SmokeStage) (endpoint : SmokeEndpoint) (status : Nat) (token : Option String) (body : Option Json) :
    SmokeHandler (Option Json) := do
  let answer ← await (.request endpoint token body)
  check (expectStatus stage status answer)

/-! ### Bodies -/

def optionalRecord : Option Json → Option Json
  | some (.object fields) => some (.object fields)
  | _ => none

def record (value : Option Json) : Except SmokeFailure Json :=
  orFail (optionalRecord value) (.assertion .fixtureSafety none)

/-- `Boolean(value)` -/
def truthy : Option Json → Bool
  | none | some .null | some (.bool false) => false
  | some (.number value) => value ≠ 0
  | some (.string text) => text ≠ ""
  | _ => true

/-- `value == null` -/
def nullish : Option Json → Bool
  | none | some .null => true
  | _ => false

/-- `first === second`, of values read from one answer. Two objects are never the same. -/
def strictEquals : Option Json → Option Json → Bool
  | none, none => true
  | some .null, some .null => true
  | some (.bool first), some (.bool second) => first = second
  | some (.number first), some (.number second) => first = second
  | some (.string first), some (.string second) => first = second
  | _, _ => false

def isText (text : String) (value : Option Json) : Bool := strictEquals value (some (.string text))

def isZero (value : Option Json) : Bool := strictEquals value (some (.number 0))

mutual

/-- `isDeepStrictEqual`: an object's fields in any order. -/
def deepEqual : Json → Json → Bool
  | .null, .null => true
  | .bool first, .bool second => first = second
  | .number first, .number second => first = second
  | .string first, .string second => first = second
  | .array first, .array second => itemsEqual first second
  | .object first, .object second => first.length = second.length && fieldsEqual first second
  | _, _ => false

def itemsEqual : List Json → List Json → Bool
  | [], [] => true
  | first :: rest, second :: others => deepEqual first second && itemsEqual rest others
  | _, _ => false

def fieldsEqual : List (String × Json) → List (String × Json) → Bool
  | [], _ => true
  | (name, value) :: rest, others =>
      (match Json.field name (.object others) with
        | some other => deepEqual value other
        | none => false) && fieldsEqual rest others

end

/-- A field's value, or none: `undefined` where the field is absent. -/
def sameValue : Option Json → Option Json → Bool
  | none, none => true
  | some first, some second => deepEqual first second
  | _, _ => false

/-- The fields of the company and of its detail that a suspension must not change. -/
def preservedCompany : List String := ["id", "name", "country", "industry", "activatedAt", "createdAt"]

def preservedDetail : List String :=
  ["owner", "employees", "currentlyStoredFiles", "subscription", "billingEstimate", "stripe", "integrityWarnings"]

/-- `state`, field by field. -/
def fixtureState (detail : Json) : Except SmokeFailure (List (Option Json)) := do
  let company ← record (detail.field "company")
  return preservedCompany.map (fun name => company.field name) ++ preservedDetail.map fun name => detail.field name

def sameState (first second : List (Option Json)) : Bool :=
  first.length = second.length && (first.zip second).all fun values => sameValue values.1 values.2

/-- `/^[a-f0-9]{24}$/i` -/
def isCompanyId (text : String) : Bool := text.toList.length = 24 && text.toList.all isHexDigit

/-- The company is the fixture and nobody has worked with it. -/
def pristineFixture (detail : Json) (fixtureName companyId ownerEmail : String) (activated : Bool) : Bool :=
  match optionalRecord (detail.field "company"), optionalRecord (detail.field "owner"),
    optionalRecord (detail.field "subscription"), optionalRecord (detail.field "employees"),
    optionalRecord (detail.field "currentlyStoredFiles"), optionalRecord (detail.field "billingEstimate") with
  | some company, some owner, some subscription, some employees, some files, some billing =>
      isText companyId (company.field "id") && isText fixtureName (company.field "name") &&
        truthy (company.field "activatedAt") = activated && isText "active" (company.field "platformStatus") &&
        nullish (company.field "platformStatusReason") && nullish (company.field "platformStatusChangedAt") &&
        isText ownerEmail (owner.field "email") && isText "free" (subscription.field "planCode") &&
        nullish (subscription.field "pendingPlanCode") && nullish (subscription.field "pendingPlanAt") &&
        strictEquals (subscription.field "planChangedAt") (subscription.field "activatedAt") &&
        isZero (employees.field "accepted") && isZero (employees.field "pendingInvitations") &&
        isZero (files.field "total") && isZero (billing.field "successfulUploads") &&
        isZero (billing.field "overageChargeCents") && isZero (billing.field "totalAmountCents") &&
        (match detail.field "stripe" with
          | some .null => true
          | _ => false) &&
        (match detail.field "integrityWarnings" with
          | some (.array []) => true
          | _ => false)
  | _, _, _, _, _, _ => false

/-! ### Activation -/

def isBase64Url (c : Char) : Bool :=
  ('A' ≤ c && c ≤ 'Z') || ('a' ≤ c && c ≤ 'z') || ('0' ≤ c && c ≤ '9') || c = '_' || c = '-'

/-- `/^[A-Za-z0-9_-]{43}$/` -/
def isActivationToken (text : String) : Bool := text.toList.length = 43 && text.toList.all isBase64Url

def smokeActivationToken (runtime : SmokeRuntime) (value : String) : Except SmokeFailure String := do
  let candidate := String.ofList (trim value.toList)
  if isActivationToken candidate then return candidate
  require (candidate ≠ "" && utf16Length candidate.toList ≤ 2048) .invalidSmokeConfiguration
  let url ← orFail (runtime.parseUrl candidate) .invalidSmokeConfiguration
  let isLocal := ["localhost", "127.0.0.1", "[::1]"].contains url.hostname
  match url.searchParams with
  | [(name, token)] =>
      require
        (["http:", "https:"].contains url.protocol && (url.protocol = "https:" || isLocal) && url.username = "" &&
          url.password = "" && url.hash = "" && name = "token" && isActivationToken token)
        .invalidSmokeConfiguration
      return token
  | _ => .error .invalidSmokeConfiguration

def activateSmokeCompany (runtime : SmokeRuntime) (activationUrlOrToken : String) : SmokeHandler Unit := do
  let token ← check (smokeActivationToken runtime activationUrlOrToken)
  let _ ← call .activation .verifyAccount 200 none (some (.object [("token", .string token)]))

/-- `activateNormally`: the operator pastes the link of the email. -/
def activateNormally (runtime : SmokeRuntime) : SmokeHandler Unit := do
  let answer ← await .promptActivation
  let activation ← check (orFail answer .operatorCancelled)
  activateSmokeCompany runtime activation

/-! ### The test -/

structure SmokeOperator where
  email : String
  password : String
  adminToken : String

/-- Who and what is registered, besides the credentials of the operator. -/
structure SmokeRegistration where
  fullName : String
  country : String
  industry : String

/-- `validNewPassword` -/
def validNewPassword (password : String) : Bool :=
  12 ≤ utf16Length password.toList && utf16Length password.toList ≤ 72 && password.utf8ByteSize ≤ 72 &&
    password.toList.any (fun c => 'a' ≤ c && c ≤ 'z') && password.toList.any (fun c => 'A' ≤ c && c ≤ 'Z') &&
    password.toList.any (fun c => '0' ≤ c && c ≤ '9') &&
    password.toList.any fun c =>
      !(('a' ≤ c && c ≤ 'z') || ('A' ≤ c && c ≤ 'Z') || ('0' ≤ c && c ≤ '9') || isSpace c)

/-- The mode of the command; a registration or the resumption of an earlier one. -/
abbrev SmokeStart := Option SmokeRegistration

def validOperator (runtime : SmokeRuntime) (operator : SmokeOperator) (fixtureName : String) (start : SmokeStart) :
    Bool :=
  runtime.isEmail operator.email &&
    (if start.isSome then validNewPassword operator.password
      else 1 ≤ utf16Length operator.password.toList && utf16Length operator.password.toList ≤ 72) &&
    operator.adminToken ≠ "" && "DataVault admin smoke ".toList.isPrefixOf fixtureName.toList

def credentials (operator : SmokeOperator) : Json :=
  .object [("email", .string operator.email), ("password", .string operator.password)]

/-- The identifier that a lookup by name has found, if it has found one company. -/
def exactFixture (fixtureName : String) (listing : Option Json) : Option String :=
  match (optionalRecord listing).bind fun page => page.field "items" with
  | some (.array items) =>
      match items.filter fun item => isText fixtureName (item.field "name") with
      | [item] =>
          match item.field "id" with
          | some (.string id) => if isCompanyId id then some id else none
          | _ => none
      | _ => none
  | _ => none

variable (runtime : SmokeRuntime) (operator : SmokeOperator) (fixtureName : String)

/-- The registration and its activation. -/
def register (registration : SmokeRegistration) : SmokeHandler Unit := do
  let _ ← call .registration .signUp 202 none (some (.object
    [("email", .string operator.email), ("password", .string operator.password),
      ("fullName", .string registration.fullName), ("companyName", .string fixtureName),
      ("country", .string registration.country), ("industry", .string registration.industry)]))
  activateNormally runtime

/-- The lookup of an earlier fixture and, where that is outstanding, its activation. -/
def resume : SmokeHandler String := do
  let listing ← call .resumeFixtureLookup (.companies fixtureName) 200 operator.adminToken none
  let companyId ← check (orFail (exactFixture fixtureName listing) (.assertion .resumeFixtureLookup none))
  let detail ← call .resumeFixtureSafety (.company companyId) 200 operator.adminToken none
  let preliminary ← check (orFail (optionalRecord detail) (.assertion .resumeFixtureSafety none))
  let company ← check
    (orFail (optionalRecord (preliminary.field "company")) (.assertion .resumeFixtureSafety none))
  let activated := truthy (company.field "activatedAt")
  check
    (require (pristineFixture preliminary fixtureName companyId operator.email activated)
      (.assertion .resumeFixtureSafety none))
  if !activated then activateNormally runtime
  return companyId

/-- The first part of the test; a resumed fixture is known by its identifier. -/
def startFixture : SmokeStart → SmokeHandler (Option String)
  | some registration => do
      register runtime operator fixtureName registration
      return none
  | none => do
      let companyId ← resume runtime operator fixtureName
      return some companyId

/-- What is known before the suspension. -/
structure Prepared where
  companyId : String
  tenantToken : String
  baseline : List (Option Json)

/-- The text of a field, which must have one. -/
def textField (value : Json) (name : String) (failure : SmokeFailure) : Except SmokeFailure String :=
  match value.field name with
  | some (.string text) => .ok text
  | _ => .error failure

/-- Everything before the suspension. -/
def prepare (start : SmokeStart) : SmokeHandler Prepared := do
  let _ ← call .adminAuthentication .dashboard 200 operator.adminToken none
  let resumed ← startFixture runtime operator fixtureName start
  let login ← call .tenantLogin .signIn 201 none (credentials operator)
  let login ← check (record login)
  let tenantToken ← check (textField login "accessToken" (.assertion .tenantLogin none))
  let user ← call .tenantEndpoint .currentUser 200 tenantToken none
  let user ← check (record user)
  let companyId ← check (textField user "companyId" (.assertion .fixtureSafety none))
  check
    (require
      (isCompanyId companyId && isText "company_owner" (user.field "role") && isText operator.email (user.field "email"))
      (.assertion .fixtureSafety none))
  check (require (resumed.all (· = companyId)) (.assertion .fixtureSafety none))
  let _ ← call .tenantAdminDenied .dashboard 401 tenantToken none
  let detail ← call .fixtureSafety (.company companyId) 200 operator.adminToken none
  let detail ← check (record detail)
  check
    (require (pristineFixture detail fixtureName companyId operator.email true) (.assertion .fixtureSafety none))
  let baseline ← check (fixtureState detail)
  return { companyId, tenantToken, baseline }

/-- The detail of the company shows this status and an unchanged state. -/
def checkPreserved (prepared : Prepared) (status : String) : SmokeHandler Unit := do
  let detail ← call .statePreserved (.company prepared.companyId) 200 operator.adminToken none
  let detail ← check (record detail)
  let company ← check (record (detail.field "company"))
  check (require (isText status (company.field "platformStatus")) (.assertion .statePreserved none))
  let state ← check (fixtureState detail)
  check (require (sameState state prepared.baseline) (.assertion .statePreserved none))

/-- The record of a change of status occurs once among the records of the company. -/
def auditedOnce (companyId : String) (items : List Json) (action reason previousStatus nextStatus : String) : Bool :=
  (items.filter fun event =>
    isText companyId (event.field "targetId") && isText "company" (event.field "targetType") &&
      isText action (event.field "action") && isText reason (event.field "reason") &&
      isText previousStatus (event.field "previousStatus") &&
      isText nextStatus (event.field "nextStatus")).length = 1

def checkAudits (companyId : String) (page : Option Json) : Except SmokeFailure Unit := do
  match (optionalRecord page).bind fun page => page.field "items" with
  | some (.array items) =>
      require
        (auditedOnce companyId items "company_suspended" "operational_hold" "active" "suspended" &&
          auditedOnce companyId items "company_reactivated" "review_completed" "suspended" "active")
        (.assertion .auditEvents none)
  | _ => .error (.assertion .auditEvents none)

/-- Everything from the suspension on. -/
def exercise (prepared : Prepared) : SmokeHandler Unit := do
  let _ ← call .suspend (.suspend prepared.companyId) 200 operator.adminToken
    (some (.object [("reason", .string "operational_hold")]))
  let _ ← call .issuedJwtRejected .currentUser 401 prepared.tenantToken none
  let _ ← call .freshLoginRejected .signIn 401 none (credentials operator)
  checkPreserved operator prepared "suspended"
  let _ ← call .platformAdminRemainsFunctional .dashboard 200 operator.adminToken none
  let _ ← call .reactivate (.reactivate prepared.companyId) 200 operator.adminToken (some (.object []))
  let _ ← call .originalJwtRestored .currentUser 200 prepared.tenantToken none
  checkPreserved operator prepared "active"
  let page ← call .auditEvents (.auditLogs prepared.companyId) 200 operator.adminToken none
  check (checkAudits prepared.companyId page)

/-- What must be done about the company that an interrupted test leaves. -/
inductive Restoration where
  | reactivate
  | nothing

def inspectLatest (latest : SmokeResponse) : Except SmokeFailure Restoration := do
  let detail ← record latest.body
  let company ← record (detail.field "company")
  require (latest.status = 200 && isText fixtureName (company.field "name")) .recovery
  if isText "suspended" (company.field "platformStatus") &&
      isText "operational_hold" (company.field "platformStatusReason") then
    return .reactivate
  require (isText "active" (company.field "platformStatus")) .recovery
  return .nothing

/-- The recovery; each of its failures is reported as a failed recovery. -/
def restore (companyId : String) : SmokeHandler Unit := do
  let latest ← await (.request (.company companyId) (some operator.adminToken) none)
  let latest ← check (orFail latest .recovery)
  match ← check ((inspectLatest fixtureName latest).mapError fun _ => .recovery) with
  | .nothing => pure ()
  | .reactivate => do
      let response ← await (.request (.reactivate companyId) (some operator.adminToken) (some (.object [])))
      let response ← check (orFail response .recovery)
      check (require (response.status = 200) .recovery)

structure SmokeSuccess where
  companyId : String
  fixtureName : String
  passed : Bool
  activatedFixtureRetained : Bool
deriving DecidableEq, Repr

/-- `runPlatformAdminSmokeTest`: a test that breaks off before the suspension has nothing to restore. -/
def runPlatformAdminSmokeTest (start : SmokeStart) : SmokeHandler SmokeSuccess := do
  check (require (validOperator runtime operator fixtureName start) .invalidSmokeConfiguration)
  let prepared ← prepare runtime operator fixtureName start
  Process.recover (exercise operator prepared) fun failure => do
    restore operator fixtureName prepared.companyId
    check (.error failure)
  return { companyId := prepared.companyId, fixtureName, passed := true, activatedFixtureRetained := true }

end DataVault.Maintenance.SmokeTest
