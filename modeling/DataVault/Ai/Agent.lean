/-
Module: DataVault.Ai.Agent
Layer: Model
Purpose: What stands behind the model client and the tools of an exchange: `AiProviderRouterService.complete`
  (ai/ai-provider-router.service.ts), `AiToolsService.fingerprint`, `arguments` and the checks of `execute`
  (ai/ai-tools.service.ts), and the requests of ai/ai.service.ts on top of them. What the providers and the services
  behind the tools answer is up to the environment; JSON and the collation of strings are parameters.
Imports: DataVault.Ai.Conversations
Trusted boundary: human-reviewed spec
Main exports: JsonValue, JsonRuntime, fingerprint, checkTool, route, AgentWorld, agentMachine
-/
import DataVault.Ai.Conversations

namespace DataVault.Ai

open DataVault.Control DataVault.Interleaving DataVault.Users

/-! ### JSON -/

/-- What `JSON.parse` returns; a literal beyond the range of numbers becomes an infinity. The properties of an object
stand in the order of `Object.entries`. -/
inductive JsonValue where
  | null
  | bool (value : Bool)
  | number (value : Rat)
  | infinity (negative : Bool)
  | string (value : String)
  | array (items : List JsonValue)
  | object (properties : List (String × JsonValue))

/-- `JSON.parse`, `none` where it throws, `JSON.stringify` and `localeCompare`. An object has each key once. -/
structure JsonRuntime where
  parse : String → Option JsonValue
  stringify : JsonValue → String
  localeCompare : String → String → Int
  keys_nodup : ∀ text properties, parse text = some (.object properties) → (properties.map (·.1)).Nodup

/-- The key of an array element; such properties come first in an object, in ascending order. -/
def arrayIndex (key : String) : Option Nat :=
  key.toNat?.filter fun index => index < 4294967295 && toString index = key

/-- `Object.fromEntries`, for entries with distinct keys. -/
def fromEntries (entries : List (String × JsonValue)) : JsonValue :=
  .object
    ((entries.filter fun entry => (arrayIndex entry.1).isSome).mergeSort
        (fun one two => (arrayIndex one.1).getD 0 ≤ (arrayIndex two.1).getD 0) ++
      entries.filter fun entry => (arrayIndex entry.1).isNone)

/-! ### Tools -/

inductive AiToolName where
  | companyProfile
  | subscriptionBilling
  | companyStatistics
  | visibleFiles
deriving DecidableEq, Repr

/-- The tool with this name. -/
def AiToolName.ofName : String → Option AiToolName
  | "get_company_profile" => some .companyProfile
  | "get_subscription_and_billing" => some .subscriptionBilling
  | "get_company_statistics" => some .companyStatistics
  | "list_visible_files" => some .visibleFiles
  | _ => none

variable (runtime : JsonRuntime)

/-- `AiToolsService.arguments`. -/
def toolArguments (raw : String) : Except AiFailure (List (String × JsonValue)) := do
  require (stringLength raw ≤ 1024) .tool
  match runtime.parse (if raw = "" then "{}" else raw) with
  | some (.object properties) => pure properties
  | _ => throw .tool

/-- `AiToolsService.fingerprint`. -/
def fingerprint (name raw : String) : Except AiFailure String := do
  let args ← toolArguments runtime raw
  let sorted := args.mergeSort fun one two => runtime.localeCompare one.1 two.1 ≤ 0
  pure (name ++ ":" ++ runtime.stringify (fromEntries sorted))

/-- `Number.isInteger(limit)` within the bounds of `list_visible_files`. -/
def isLimit : JsonValue → Bool
  | .number value => value.den = 1 && 1 ≤ value && value ≤ 10
  | _ => false

/-- What `AiToolsService.execute` checks before it reads anything. -/
def checkTool (name raw : String) : Except AiFailure Unit := do
  let args ← toolArguments runtime raw
  match ← orFail (AiToolName.ofName name) .tool with
  | .visibleFiles =>
      require (args.all fun entry => entry.1 = "limit") .tool
      require ((args.lookup "limit").all isLimit) .tool
  | _ => require args.isEmpty .tool

/-- `AiToolsService.execute`, with what the services behind the tool answer. -/
def execute (name raw : String) (result : Except AiFailure String) : Except AiFailure String := do
  checkTool runtime name raw
  result

/-! ### Providers -/

/-- What a client throws: an `AiProviderFailure` or anything else. -/
inductive ClientFailure where
  | provider (reason : AiProviderFailureReason) (status : Option Nat)
  | other
deriving DecidableEq, Repr

namespace ClientFailure

/-- `AiProviderRouterService.eligible`. -/
def eligible : ClientFailure → Bool
  | .provider .rateLimit _ | .provider .timeout _ => true
  | .provider .unavailable status => status.all (500 ≤ ·)
  | _ => false

/-- What `runAgent` makes of it. -/
def failure : ClientFailure → AiFailure
  | .provider reason _ => .provider reason
  | .other => .internal

end ClientFailure

/-- A provider that was asked, and whether it has answered. -/
structure ProviderCall where
  provider : AiProvider
  answered : Bool
deriving DecidableEq, Repr

/-- What `AiProviderRouterService.complete` answers, the provider selected after it and the calls it has made. -/
structure Routed where
  answer : Except AiFailure AiModelCompletion
  selected : Option AiProvider
  calls : List ProviderCall

/-- What the clients answer to a call, and whether the request has been aborted by then. -/
structure Clients where
  complete : AiProvider → Except ClientFailure AiModelCompletion := fun _ => .error .other
  aborted : Bool := false

/-- A call of one client, which selects it when it answers. -/
def Clients.call (clients : Clients) (provider : AiProvider) (selected : Option AiProvider) (before : List ProviderCall) :
    Routed :=
  match clients.complete provider with
  | .ok completion =>
      { answer := .ok completion, selected := some provider, calls := before ++ [⟨provider, true⟩] }
  | .error thrown =>
      { answer := .error thrown.failure, selected := selected, calls := before ++ [⟨provider, false⟩] }

/-- `AiProviderRouterService.complete`, for messages whose provider is `selected`. -/
def route (config : AiConfig) (clients : Clients) (selected : Option AiProvider) : Routed :=
  let gemini (before : List ProviderCall) : Routed :=
    if config.geminiEnabled then clients.call .gemini none before
    else { answer := .error (.provider .unavailable), selected := none, calls := before }
  match selected with
  | some pinned => clients.call pinned selected []
  | none =>
      if config.openRouterEnabled then
        match clients.complete .openrouter with
        | .ok _ => clients.call .openrouter none []
        | .error thrown =>
            if !config.geminiEnabled || !thrown.eligible || clients.aborted then clients.call .openrouter none []
            else gemini [⟨.openrouter, false⟩]
      else gemini []

/-! ### The machine -/

/-- The database, and for the messages of each exchange the provider that is selected for them, by the run of the
exchange. `calls` records who has been asked for which run; nothing depends on it. -/
structure AgentWorld where
  base : AiWorld
  selected : Nat → Option AiProvider := fun _ => none
  calls : List (Nat × ProviderCall) := []

/-- What the environment decides at an action. -/
structure AgentChoice where
  base : AiChoice := {}
  clients : Clients := {}

/-- The effect of each action. -/
def agentExec (config : AiConfig) (run : Nat) (choice : AgentChoice) :
    (act : AiAct) → AgentWorld → Option (act.Res × AgentWorld)
  | .complete _ _, w =>
      let routed := route config choice.clients (w.selected run)
      some (routed.answer,
        { w with
          selected := fun other => if other = run then routed.selected else w.selected other
          calls := w.calls ++ routed.calls.map fun call => (run, call) })
  | .execute _ name raw, w => some (execute runtime name raw choice.base.result, w)
  | act, w => (aiExec config run choice.base act w.base).map fun done => (done.1, { w with base := done.2 })

/-- The requests of the assistant, with its tools and its providers. -/
def agentMachine (config : AiConfig) :
    Machine AiAct AiAct.Res AgentWorld AgentChoice Nat AiJob (Except AiFailure AiReply) where
  handler job := (job.handler { config with fingerprint := fingerprint runtime }).run
  exec := agentExec runtime config
  drift elapsed w := some { w with base := { w.base with clock := w.base.clock + elapsed } }

end DataVault.Ai
