/-
Module: DataVault.Ai.ChatCompletion
Layer: Model
Purpose: The two checks that an answer of a provider passes, on untyped values: `normalizeChatCompletion`
  (ai/chat-completion-response.ts) and `assertModelCompletion` with `addUsage` (ai/ai.service.ts). A field that is not
  there is `none`; numbers are those of 64 bits.
Imports: DataVault.Ai.Agent, DataVault.Number.Literal
Trusted boundary: human-reviewed spec
Main exports: AiProviderFailure, NormalizedCompletion, normalizeChatCompletion, assertModelCompletion, UsageSums,
  addUsage
-/
import DataVault.Ai.Agent
import DataVault.Number.Literal

namespace DataVault.Ai.ChatCompletion

open DataVault.Control DataVault.Number

/-! ### Failures -/

inductive AiResponseValidationCode where
  | invalidEnvelope
  | missingChoices
  | missingMessage
  | invalidMessageRole
  | invalidContent
  | missingVisibleOutput
  | malformedToolCall
  | invalidToolArguments
  | missingModel
  | invalidUsage
  | responseTooLarge
  | toolIterationLimit
deriving DecidableEq, Repr

inductive FinishReason where
  | stop
  | length
  | toolCalls
  | other
  | missing
deriving DecidableEq, Repr

inductive ContentType where
  | missing
  | null
  | string
  | array
  | object
  | number
  | boolean
deriving DecidableEq, Repr

structure AiResponseDiagnostic where
  code : AiResponseValidationCode
  finishReason : Option FinishReason := none
  contentType : Option ContentType := none
  toolCallCount : Option Nat := none
deriving DecidableEq, Repr

/-- A failure without a status. -/
structure AiProviderFailure where
  reason : AiProviderFailureReason
  diagnostic : Option AiResponseDiagnostic
deriving DecidableEq, Repr

/-- `invalidCompletion` -/
def invalidCompletion (code : AiResponseValidationCode) : AiProviderFailure where
  reason := .invalidResponse
  diagnostic := some { code := code }

/-! ### Untyped values -/

abbrev Fields := List (String × JsonValue)

/-- `record` -/
def record : JsonValue → Option Fields
  | .object fields => some fields
  | _ => none

def arrayOf : JsonValue → Option (List JsonValue)
  | .array items => some items
  | _ => none

def textOf : JsonValue → Option String
  | .string text => some text
  | _ => none

/-- A value whose `typeof` is `number`. -/
def numberOf : JsonValue → Option Double
  | .number value => some (.finite value)
  | .infinity negative => some (.infinite negative)
  | _ => none

/-- `{ ...fields, [name]: value }` -/
def setField (name : String) (value : JsonValue) : Fields → Fields
  | [] => [(name, value)]
  | field :: rest => if field.1 = name then (name, value) :: rest else field :: setField name value rest

/-- `Number(text)` -/
def numberText (text : String) : Double := numberOfText (trim text).toList

/-- `safeInteger` -/
def safeInteger (value : Option JsonValue) : Int :=
  match (value.bind numberOf).bind Double.safeInteger with
  | some count => if 0 ≤ count then count else 0
  | none => 0

/-- `typeof value === 'string' ? Number(value) : value`, where that is a number. -/
def costOf : Option JsonValue → Option Double
  | some (.string text) => some (numberText text)
  | value => value.bind numberOf

def costMicros (value : Option JsonValue) : Option Int :=
  match costOf value with
  | some (.finite cost) =>
      if cost < 0 then none else (Double.round (Double.mul (.finite cost) (.finite 1000000))).safeInteger
  | _ => none

/-! ### Diagnostics -/

def finishReasonOf (choice : Option JsonValue) : FinishReason :=
  match (choice.bind record).bind (·.lookup "finish_reason") with
  | some (.string "stop") => .stop
  | some (.string "length") => .length
  | some (.string "tool_calls") => .toolCalls
  | none | some .null => .missing
  | _ => .other

def contentTypeOf (message : Option JsonValue) : ContentType :=
  match (message.bind record).bind (·.lookup "content") with
  | none => .missing
  | some .null => .null
  | some (.array _) => .array
  | some (.string _) => .string
  | some (.number _) | some (.infinity _) => .number
  | some (.bool _) => .boolean
  | some (.object _) => .object

/-- `diagnostic` -/
def diagnostic (code : AiResponseValidationCode) (choice message : Option JsonValue) : AiProviderFailure where
  reason := .invalidResponse
  diagnostic := some
    { code := code
      finishReason := some (finishReasonOf choice)
      contentType := some (contentTypeOf message)
      toolCallCount := some
        (match ((message.bind record).bind (·.lookup "tool_calls")).bind arrayOf with
        | some calls => min calls.length 100
        | none => 0) }

/-! ### Normalization -/

structure NormalizedCompletion where
  message : Fields
  model : String
  promptTokens : Int
  completionTokens : Int
  totalTokens : Int
  providerCostUsdMicros : Option Int
  provider : AiProvider

/-- `/^[A-Za-z0-9_-]{1,128}$/` -/
def isToolName (name : String) : Bool :=
  1 ≤ name.toList.length && name.toList.length ≤ 128 && name.toList.all fun c => c.isAlphanum || c = '_' || c = '-'

/-- The body of the loop over `tool_calls`. -/
def checkCall (call : JsonValue) : Except AiResponseValidationCode Unit := do
  let fields ← orFail (record call) .malformedToolCall
  require ((fields.lookup "type").bind textOf = some "function") .malformedToolCall
  let id ← orFail ((fields.lookup "id").bind textOf) .malformedToolCall
  require (id ≠ "" && stringLength id ≤ 256) .malformedToolCall
  let function ← orFail ((fields.lookup "function").bind record) .malformedToolCall
  let name ← orFail ((function.lookup "name").bind textOf) .malformedToolCall
  require (isToolName name) .malformedToolCall
  let _ ← orFail ((function.lookup "arguments").bind textOf) .invalidToolArguments
  pure ()

/-- The checks of `tool_calls`; absent calls pass. -/
def checkCalls (calls : Option JsonValue) : Except AiResponseValidationCode Unit :=
  match calls with
  | none => pure ()
  | some calls => do
      let calls ← orFail (arrayOf calls) .malformedToolCall
      calls.forM checkCall

/-- `hasCalls` -/
def hasCalls (calls : Option JsonValue) : Bool := ((calls.bind arrayOf).getD []).length > 0

/-- `role`, where Gemini's `model` stands for the assistant on messages with calls. -/
def roleOf (provider : AiProvider) (message : Fields) : Option JsonValue :=
  if provider = .gemini && (message.lookup "role").bind textOf = some "model" &&
      hasCalls (message.lookup "tool_calls") then some (.string "assistant")
  else message.lookup "role"

/-- `content`, which Gemini may leave out on messages with calls. -/
def contentOf (provider : AiProvider) (message : Fields) : Option JsonValue :=
  if provider = .gemini && (message.lookup "content").isNone && hasCalls (message.lookup "tool_calls") then some .null
  else message.lookup "content"

/-- `none` for `null`: the content that a message may have. -/
def checkContent (content : Option JsonValue) : Except AiResponseValidationCode (Option String) :=
  match content with
  | some (.string text) => pure (some text)
  | some .null => pure none
  | none => throw .missingVisibleOutput
  | _ => throw .invalidContent

/-- A name of a model is not blank and not too long. -/
def isModel (model : String) : Bool := trim model ≠ "" && stringLength model ≤ 200

def contentValue : Option String → JsonValue
  | some text => .string text
  | none => .null

def normalizeChatCompletion (response : JsonValue) (provider : AiProvider) :
    Except AiProviderFailure NormalizedCompletion := do
  let runtime ← orFail (record response) (diagnostic .invalidEnvelope none none)
  let choices ← orFail ((runtime.lookup "choices").bind arrayOf) (diagnostic .missingChoices none none)
  let choice ← orFail choices.head? (diagnostic .missingChoices none none)
  let message := (record choice).bind (·.lookup "message")
  let rawMessage ← orFail (message.bind record) (diagnostic .missingMessage (some choice) message)
  let fail (code : AiResponseValidationCode) := diagnostic code (some choice) message
  require ((roleOf provider rawMessage).bind textOf = some "assistant") (fail .invalidMessageRole)
  let calls := rawMessage.lookup "tool_calls"
  (checkCalls calls).mapError fail
  let content ← (checkContent (contentOf provider rawMessage)).mapError fail
  require (hasCalls calls || content.any fun text => trim text ≠ "") (fail .missingVisibleOutput)
  let model ← orFail ((runtime.lookup "model").bind textOf) (fail .missingModel)
  require (isModel model) (fail .missingModel)
  let usage := ((runtime.lookup "usage").bind record).getD []
  pure
    { message := setField "content" (contentValue content) (setField "role" (.string "assistant") rawMessage)
      model := model
      promptTokens := safeInteger (usage.lookup "prompt_tokens")
      completionTokens := safeInteger (usage.lookup "completion_tokens")
      totalTokens := safeInteger (usage.lookup "total_tokens")
      providerCostUsdMicros := if provider = .openrouter then costMicros (usage.lookup "cost") else none
      provider := provider }

/-! ### The assertion -/

def providerText : AiProvider → String
  | .openrouter => "openrouter"
  | .gemini => "gemini"

/-- A completion as the untyped value that is asserted; a cost that is `undefined` is no field. -/
def NormalizedCompletion.value (completion : NormalizedCompletion) : JsonValue :=
  .object
    ([("message", .object completion.message), ("model", .string completion.model),
      ("promptTokens", .number completion.promptTokens), ("completionTokens", .number completion.completionTokens),
      ("totalTokens", .number completion.totalTokens), ("provider", .string (providerText completion.provider))] ++
    (completion.providerCostUsdMicros.map fun cost => ("providerCostUsdMicros", JsonValue.number cost)).toList)

/-- `Number.isSafeInteger(value)` of a number that is not negative. -/
def isCount (value : Option JsonValue) : Bool :=
  ((value.bind numberOf).bind Double.safeInteger).any (0 ≤ ·)

/-- The body of the last loop. -/
def assertToolCall (toolCall : JsonValue) : Except AiProviderFailure Unit := do
  let fields ← orFail (record toolCall) (invalidCompletion .malformedToolCall)
  require ((fields.lookup "type").bind textOf = some "function") (invalidCompletion .malformedToolCall)
  let id ← orFail ((fields.lookup "id").bind textOf) (invalidCompletion .malformedToolCall)
  require (id ≠ "") (invalidCompletion .malformedToolCall)
  let function ← orFail ((fields.lookup "function").bind record) (invalidCompletion .malformedToolCall)
  let _ ← orFail ((function.lookup "name").bind textOf) (invalidCompletion .malformedToolCall)
  let _ ← orFail ((function.lookup "arguments").bind textOf) (invalidCompletion .malformedToolCall)
  pure ()

/-- The last checks of `assertModelCompletion`. -/
def assertToolCalls (calls : Option JsonValue) : Except AiProviderFailure Unit :=
  match calls with
  | none => pure ()
  | some calls => do
      let calls ← orFail (arrayOf calls) (invalidCompletion .malformedToolCall)
      calls.forM assertToolCall

/-- The content is a text or `null`. -/
def isContent : Option JsonValue → Bool
  | some (.string _) | some .null => true
  | _ => false

def assertModelCompletion (value : JsonValue) : Except AiProviderFailure Unit := do
  let fields ← orFail (record value) (invalidCompletion .missingMessage)
  let message ← orFail ((fields.lookup "message").bind record) (invalidCompletion .missingMessage)
  require ((message.lookup "role").bind textOf = some "assistant") (invalidCompletion .invalidMessageRole)
  require (isContent (message.lookup "content")) (invalidCompletion .invalidContent)
  let model ← orFail ((fields.lookup "model").bind textOf) (invalidCompletion .missingModel)
  require (isModel model) (invalidCompletion .missingModel)
  require (isCount (fields.lookup "promptTokens") && isCount (fields.lookup "completionTokens") &&
    isCount (fields.lookup "totalTokens")) (invalidCompletion .invalidUsage)
  let cost := fields.lookup "providerCostUsdMicros"
  require (cost.isNone || isCount cost) (invalidCompletion .invalidUsage)
  require ((fields.lookup "provider").all fun provider =>
    textOf provider = some "openrouter" || textOf provider = some "gemini") (invalidCompletion .invalidEnvelope)
  assertToolCalls (message.lookup "tool_calls")

/-! ### Usage -/

/-- `UsageTotals` -/
structure UsageSums where
  promptTokens : Double := .finite 0
  completionTokens : Double := .finite 0
  totalTokens : Double := .finite 0
  providerCostUsdMicros : Option Double := none
  modelsUsed : List String := []
  provider : Option AiProvider := none
deriving DecidableEq

/-- `!Number.isSafeInteger(value) || value < 0` fails. -/
def isSafeCount (value : Double) : Bool := value.safeInteger.any (0 ≤ ·)

def safeAdd (left right : Double) : Except AiProviderFailure Double := do
  require (isSafeCount left && isSafeCount right) (invalidCompletion .invalidUsage)
  let value := left.add right
  require (isSafeCount value) (invalidCompletion .invalidUsage)
  pure value

/-- A cost that is `undefined` is not added. -/
def addCost (total : Option Double) (cost : Option Int) : Except AiProviderFailure (Option Double) :=
  match cost with
  | none => pure total
  | some cost => some <$> safeAdd (total.getD (.finite 0)) (.finite cost)

def addUsage (total : UsageSums) (completion : NormalizedCompletion) : Except AiProviderFailure UsageSums := do
  let promptTokens ← safeAdd total.promptTokens (.finite completion.promptTokens)
  let completionTokens ← safeAdd total.completionTokens (.finite completion.completionTokens)
  let totalTokens ← safeAdd total.totalTokens (.finite completion.totalTokens)
  let cost ← addCost total.providerCostUsdMicros completion.providerCostUsdMicros
  pure
    { promptTokens := promptTokens
      completionTokens := completionTokens
      totalTokens := totalTokens
      providerCostUsdMicros := cost
      modelsUsed := total.modelsUsed ++ [completion.model]
      provider := some completion.provider }

end DataVault.Ai.ChatCompletion
