/-
Module: DataVault.Ai.Entities
Layer: Model
Purpose: What the assistant stores (ai/entities/ai-conversation.entity.ts, ai/entities/ai-message.entity.ts,
  ai/entities/ai-usage.entity.ts), what it exchanges with the model and its tools (ai/ai-model-client.ts), its settings
  and its failures with their texts.
Imports: Mathlib.Algebra.GroupWithZero.Nat, DataVault.Users.Entity
Trusted boundary: human-reviewed spec
Main exports: AiConversation, AiMessage, AiUsage, AiModelCompletion, UsageTotals, AiFailure, AiConfig
-/
import Mathlib.Algebra.GroupWithZero.Nat
import DataVault.Users.Entity

namespace DataVault.Ai

open DataVault.Users

/-! ### Documents -/

/-- A conversation with the lease of the request that works on it. -/
structure AiConversation where
  id : Nat
  companyId : Nat
  userId : Nat
  messageCount : Int := 0
  activeRequestId : Option Nat := none
  activeRequestExpiresAt : Option Int := none
deriving DecidableEq, Repr

inductive AiMessageRole where
  | user
  | assistant
deriving DecidableEq, Repr

structure AiMessage where
  id : Nat
  conversationId : Nat
  companyId : Nat
  userId : Nat
  role : AiMessageRole
  content : String
  createdAt : Int
deriving DecidableEq, Repr

inductive AiProvider where
  | openrouter
  | gemini
deriving DecidableEq, Repr

/-- The tokens of a request and what they cost, summed over the answers of the model. -/
structure UsageTotals where
  promptTokens : Int := 0
  completionTokens : Int := 0
  totalTokens : Int := 0
  providerCostUsdMicros : Option Int := none
  modelsUsed : List String := []
  provider : Option AiProvider := none
deriving DecidableEq, Repr

structure AiUsage where
  requestId : Nat
  companyId : Nat
  userId : Nat
  conversationId : Nat
  assistantMessageId : Nat
  totals : UsageTotals
  durationMs : Int
  toolCallCount : Nat
deriving DecidableEq, Repr

/-! ### The model and its tools -/

structure AiToolCall where
  id : String
  name : String
  arguments : String
deriving DecidableEq, Repr

/-- An answer of the model. -/
structure AiModelCompletion where
  content : Option String
  toolCalls : List AiToolCall := []
  model : String
  promptTokens : Int
  completionTokens : Int
  totalTokens : Int
  providerCostUsdMicros : Option Int := none
  provider : Option AiProvider := none
deriving DecidableEq, Repr

/-- What the model is asked with; the instruction of the system is a constant. -/
inductive ChatMessage where
  | system
  | past (role : AiMessageRole) (content : String)
  | user (content : String)
  | assistant (content : Option String) (toolCalls : List AiToolCall)
  | tool (toolCallId : String) (content : String)
deriving DecidableEq, Repr

inductive AiProviderFailureReason where
  | authentication
  | credits
  | rateLimit
  | timeout
  | unavailable
  | invalidResponse
deriving DecidableEq, Repr

/-- An exception with its status, `AiProviderFailure`, `AiToolFailure`, and the internal failures of all stages; a
`database` failure and a `duplicateKey` are raised by the driver. -/
inductive AiFailure where
  | http (status : Nat) (message : String) (code : Option String)
  | provider (reason : AiProviderFailureReason)
  | tool
  | internal
  | database
  | duplicateKey
deriving DecidableEq, Repr

namespace AiFailure

def conflict (message : String) (code : Option String) : AiFailure := .http 409 message code

def notFound : AiFailure := .http 404 "Conversation not found" none

/-- `invalidCompletion`; its code is only logged. -/
def invalidCompletion : AiFailure := .provider .invalidResponse

end AiFailure

/-! ### Settings -/

/-- The settings, and `AiToolsService.fingerprint`, which reads the name and the arguments of a tool call. -/
structure AiConfig where
  enabled : Bool := true
  maxMessageChars : Nat := 8000
  maxHistoryMessages : Nat := 20
  maxContextChars : Nat := 40000
  maxConversationMessages : Nat := 100
  maxConversations : Nat := 100
  maxToolIterations : Nat := 3
  openRouterEnabled : Bool := true
  openRouterTimeout : Nat := 30000
  geminiEnabled : Bool := false
  geminiTimeout : Nat := 30000
  fingerprint : String → String → Except AiFailure String

/-- `timeoutMs`. -/
def AiConfig.timeoutMs (config : AiConfig) : Nat :=
  (if config.openRouterEnabled then config.openRouterTimeout else 0) +
    (if config.geminiEnabled then config.geminiTimeout else 0) +
    (if config.openRouterEnabled && config.geminiEnabled then 5000 else 0)

/-! ### Strings and numbers -/

/-- `length`: the number of UTF-16 code units. -/
def stringLength (text : String) : Nat := (text.toList.map fun c => if c.toNat < 65536 then 1 else 2).sum

/-- The white space and line terminators that `trim` removes. -/
def isWhiteSpace (c : Char) : Bool :=
  c.toNat ∈ [0x09, 0x0A, 0x0B, 0x0C, 0x0D, 0x20, 0xA0, 0x1680, 0x2028, 0x2029, 0x202F, 0x205F, 0x3000, 0xFEFF] ||
    (0x2000 ≤ c.toNat && c.toNat ≤ 0x200A)

/-- `trim`. -/
def trim (text : String) : String :=
  .ofList (((text.toList.dropWhile isWhiteSpace).reverse.dropWhile isWhiteSpace).reverse)

/-- `Number.MAX_SAFE_INTEGER`. -/
def maxSafeInteger : Int := 9007199254740991

/-- `Number.isSafeInteger(value) && value >= 0`. -/
def isSafe (value : Int) : Bool := 0 ≤ value && value ≤ maxSafeInteger

end DataVault.Ai
