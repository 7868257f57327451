/-
Module: DataVault.Ai.UsageExactness
Layer: Proofs
Purpose: What the first check lets through the second one accepts, and the usage of any number of accepted answers is
  summed exactly, as long as the sums are safe integers.
Imports: DataVault.Ai.ChatCompletion
Trusted boundary: human-reviewed spec
Main exports: Normalized, exactSums, provider_validators_agree
-/
import DataVault.Ai.ChatCompletion

namespace DataVault.Ai.ChatCompletion

open DataVault.Control DataVault.Number

/-! ### Fields -/

@[simp] theorem lookup_setField (name : String) (value : JsonValue) (fields : Fields) :
    (setField name value fields).lookup name = some value := by
  induction fields with
  | nil => simp [setField]
  | cons field rest ih =>
      unfold setField
      split
      case isTrue => simp
      case isFalse other =>
        have apart : (name == field.1) = false := by simpa using fun same => other same.symm
        rw [List.lookup_cons, apart]
        exact ih

theorem lookup_setField_other {name other : String} (differ : other ≠ name) (value : JsonValue) (fields : Fields) :
    (setField name value fields).lookup other = fields.lookup other := by
  have apart : (other == name) = false := by simpa using differ
  induction fields with
  | nil => simp [setField, List.lookup_cons, apart]
  | cons field rest ih =>
      unfold setField
      split
      case isTrue same => rw [List.lookup_cons, List.lookup_cons, same, apart]
      case isFalse => rw [List.lookup_cons, List.lookup_cons, ih]

/-! ### Counts -/

theorem isSafe_iff {value : Int} : isSafe value = true ↔ 0 ≤ value ∧ |value| ≤ Double.maxSafeInteger := by
  have bound : maxSafeInteger = Double.maxSafeInteger := by decide
  simp only [isSafe, Bool.and_eq_true, decide_eq_true_eq, bound]
  constructor
  · rintro ⟨nonneg, small⟩
    exact ⟨nonneg, by rwa [abs_of_nonneg nonneg]⟩
  · rintro ⟨nonneg, small⟩
    exact ⟨nonneg, le_trans (le_abs_self value) small⟩

theorem safeInteger_finite {value : Int} (safe : isSafe value = true) :
    (Double.finite value).safeInteger = some value :=
  Double.safeInteger_eq_some.mpr ⟨rfl, (isSafe_iff.mp safe).2⟩

theorem isSafeCount_finite {value : Int} (safe : isSafe value = true) : isSafeCount (.finite value) = true := by
  rw [isSafeCount, safeInteger_finite safe]
  simpa using (isSafe_iff.mp safe).1

theorem isCount_number {value : Int} (safe : isSafe value = true) : isCount (some (.number value)) = true :=
  isSafeCount_finite safe

theorem safeInteger_safe (value : Option JsonValue) : isSafe (safeInteger value) = true := by
  unfold safeInteger
  split
  case h_1 count found =>
    split
    case isTrue nonneg =>
      rcases Option.bind_eq_some_iff.mp found with ⟨number, _, safe⟩
      exact isSafe_iff.mpr ⟨nonneg, (Double.safeInteger_eq_some.mp safe).2⟩
    case isFalse => decide
  case h_2 => decide

/-- A cost that is not negative is not rounded to a negative one. -/
theorem costMicros_safe {value : Option JsonValue} {micros : Int} (cost : costMicros value = some micros) :
    isSafe micros = true := by
  unfold costMicros at cost
  split at cost
  case h_1 number _ =>
    split at cost
    case isTrue => cases cost
    case isFalse positive =>
      rcases Double.safeInteger_eq_some.mp cost with ⟨rounded, small⟩
      have nonneg : (0 : ℚ) ≤ number * 1000000 := mul_nonneg (not_lt.mp positive) (by norm_num)
      simp only [Double.mul] at rounded
      cases product : toDouble (number * 1000000) with
      | nan =>
          rw [product] at rounded
          cases rounded
      | infinite =>
          rw [product] at rounded
          cases rounded
      | finite product' =>
          rw [product] at rounded
          have value : ((⌊product' + 1 / 2⌋ : Int) : ℚ) = micros := Double.finite.inj rounded
          have bound : 0 ≤ ⌊product' + 1 / 2⌋ :=
            Int.floor_nonneg.mpr (add_nonneg (toDouble_nonneg nonneg product) (by norm_num))
          rw [Int.cast_inj.mp value] at bound
          exact isSafe_iff.mpr ⟨bound, small⟩
  case h_2 => cases cost

/-! ### Agreement -/

/-- What a completion is after the first check: a message of the assistant with content and calls of the expected shape,
and numbers that are safe integers. -/
structure Normalized (completion : NormalizedCompletion) : Prop where
  role : completion.message.lookup "role" = some (.string "assistant")
  content : isContent (completion.message.lookup "content") = true
  calls : checkCalls (completion.message.lookup "tool_calls") = .ok ()
  model : isModel completion.model = true
  promptTokens : isSafe completion.promptTokens = true
  completionTokens : isSafe completion.completionTokens = true
  totalTokens : isSafe completion.totalTokens = true
  cost : completion.providerCostUsdMicros.all isSafe = true

theorem isContent_value (content : Option String) : isContent (some (contentValue content)) = true := by
  cases content <;> rfl

theorem normalize_ok {response : JsonValue} {provider : AiProvider} {completion : NormalizedCompletion}
    (normalized : normalizeChatCompletion response provider = .ok completion) : Normalized completion := by
  rcases bind_ok_iff.mp normalized with ⟨runtime, _, normalized⟩
  rcases bind_ok_iff.mp normalized with ⟨choices, _, normalized⟩
  rcases bind_ok_iff.mp normalized with ⟨choice, _, normalized⟩
  rcases bind_ok_iff.mp normalized with ⟨rawMessage, _, normalized⟩
  rcases bind_ok_iff.mp normalized with ⟨_, _, normalized⟩
  rcases bind_ok_iff.mp normalized with ⟨_, calls, normalized⟩
  rcases bind_ok_iff.mp normalized with ⟨content, _, normalized⟩
  rcases bind_ok_iff.mp normalized with ⟨_, _, normalized⟩
  rcases bind_ok_iff.mp normalized with ⟨model, _, normalized⟩
  rcases bind_ok_iff.mp normalized with ⟨_, named, normalized⟩
  cases normalized
  constructor
  case role => rw [lookup_setField_other (by decide), lookup_setField]
  case content =>
    rw [lookup_setField]
    exact isContent_value content
  case calls =>
    rw [lookup_setField_other (by decide), lookup_setField_other (by decide)]
    exact mapError_ok_iff.mp calls
  case model => exact require_ok_iff.mp named
  case promptTokens => exact safeInteger_safe _
  case completionTokens => exact safeInteger_safe _
  case totalTokens => exact safeInteger_safe _
  case cost =>
    split
    case isTrue =>
      rw [Option.all_eq_true]
      intro micros found
      exact costMicros_safe found
    case isFalse => rfl

/-- The loop of the second check asks for less. -/
theorem assertToolCall_of_check {call : JsonValue} (checked : checkCall call = .ok ()) : assertToolCall call = .ok () := by
  rcases bind_ok_iff.mp checked with ⟨fields, object, checked⟩
  rcases bind_ok_iff.mp checked with ⟨_, kind, checked⟩
  rcases bind_ok_iff.mp checked with ⟨id, text, checked⟩
  rcases bind_ok_iff.mp checked with ⟨_, named, checked⟩
  rcases bind_ok_iff.mp checked with ⟨function, inner, checked⟩
  rcases bind_ok_iff.mp checked with ⟨name, called, checked⟩
  rcases bind_ok_iff.mp checked with ⟨_, _, checked⟩
  rcases bind_ok_iff.mp checked with ⟨arguments, passed, _⟩
  have shown : decide (id ≠ "") = true := (Bool.and_eq_true_iff.mp (require_ok_iff.mp named)).1
  rw [orFail_ok_iff] at object text inner called passed
  rw [require_ok_iff] at kind
  apply bind_ok_iff.mpr
  refine ⟨fields, orFail_ok_iff.mpr object, bind_ok_iff.mpr ⟨(), require_ok_iff.mpr kind, ?_⟩⟩
  apply bind_ok_iff.mpr
  refine ⟨id, orFail_ok_iff.mpr text, bind_ok_iff.mpr ⟨(), require_ok_iff.mpr shown, ?_⟩⟩
  apply bind_ok_iff.mpr
  refine ⟨function, orFail_ok_iff.mpr inner, bind_ok_iff.mpr ⟨name, orFail_ok_iff.mpr called, ?_⟩⟩
  exact bind_ok_iff.mpr ⟨arguments, orFail_ok_iff.mpr passed, rfl⟩

theorem assertToolCalls_of_checks {calls : Option JsonValue} (checked : checkCalls calls = .ok ()) :
    assertToolCalls calls = .ok () := by
  cases calls with
  | none => rfl
  | some calls =>
      rcases bind_ok_iff.mp checked with ⟨items, array, all⟩
      apply bind_ok_iff.mpr
      refine ⟨items, orFail_ok_iff.mpr (orFail_ok_iff.mp array), forM_ok_iff.mpr ?_⟩
      intro call mem
      exact assertToolCall_of_check (forM_ok_iff.mp all call mem)

/-- The fields of a completion as they are asserted. -/
theorem lookup_cost (completion : NormalizedCompletion) :
    (([("message", .object completion.message), ("model", .string completion.model),
      ("promptTokens", .number completion.promptTokens), ("completionTokens", .number completion.completionTokens),
      ("totalTokens", .number completion.totalTokens), ("provider", .string (providerText completion.provider))] ++
    (completion.providerCostUsdMicros.map fun cost => ("providerCostUsdMicros", JsonValue.number cost)).toList :
      Fields).lookup "providerCostUsdMicros") = completion.providerCostUsdMicros.map fun cost => .number cost := by
  cases completion.providerCostUsdMicros <;> rfl

theorem assert_of_normalized {completion : NormalizedCompletion} (normalized : Normalized completion) :
    assertModelCompletion completion.value = .ok () := by
  have role : ((completion.message.lookup "role").bind textOf = some "assistant") = True := by
    rw [normalized.role]
    simp [textOf]
  have counts : (isCount (some (.number completion.promptTokens)) &&
      isCount (some (.number completion.completionTokens)) && isCount (some (.number completion.totalTokens))) = true := by
    rw [isCount_number normalized.promptTokens, isCount_number normalized.completionTokens,
      isCount_number normalized.totalTokens]
    rfl
  have cost : ((completion.providerCostUsdMicros.map fun cost : Int => JsonValue.number cost).isNone ||
      isCount (completion.providerCostUsdMicros.map fun cost : Int => JsonValue.number cost)) = true := by
    have safe := normalized.cost
    cases found : completion.providerCostUsdMicros with
    | none => rfl
    | some micros =>
        rw [found] at safe
        exact isCount_number safe
  have provider : (some (JsonValue.string (providerText completion.provider))).all (fun provider =>
      textOf provider = some "openrouter" || textOf provider = some "gemini") = true := by
    cases completion.provider <;> decide
  apply bind_ok_iff.mpr
  refine ⟨_, rfl, bind_ok_iff.mpr ⟨completion.message, rfl, ?_⟩⟩
  apply bind_ok_iff.mpr
  refine ⟨(), require_ok_iff.mpr (by simp [role]), bind_ok_iff.mpr ⟨(), require_ok_iff.mpr normalized.content, ?_⟩⟩
  apply bind_ok_iff.mpr
  refine ⟨completion.model, rfl, bind_ok_iff.mpr ⟨(), require_ok_iff.mpr normalized.model, ?_⟩⟩
  apply bind_ok_iff.mpr
  refine ⟨(), require_ok_iff.mpr counts, bind_ok_iff.mpr ⟨(), require_ok_iff.mpr ?_, ?_⟩⟩
  · rw [lookup_cost]
    exact cost
  · apply bind_ok_iff.mpr
    exact ⟨(), require_ok_iff.mpr provider, assertToolCalls_of_checks normalized.calls⟩

/-! ### Sums

Numbers are doubles. A sum of two safe integers is exact or leaves the safe range, and out of it no further addition
leads back, since counts are not negative. So the sums are exact for as long as they fit. -/

section Sums

variable (completions : List NormalizedCompletion)

def sumOf (count : NormalizedCompletion → Int) : Int := (completions.map count).sum

def costs : List Int := completions.filterMap (·.providerCostUsdMicros)

/-- The four sums are safe integers that are not negative. -/
def fits : Bool :=
  isSafe (sumOf completions (·.promptTokens)) && isSafe (sumOf completions (·.completionTokens)) &&
    isSafe (sumOf completions (·.totalTokens)) && isSafe (costs completions).sum

/-- The exact sums; without a cost there is no sum of costs. -/
def exactSums : UsageSums where
  promptTokens := .finite (sumOf completions (·.promptTokens))
  completionTokens := .finite (sumOf completions (·.completionTokens))
  totalTokens := .finite (sumOf completions (·.totalTokens))
  providerCostUsdMicros := if (costs completions).isEmpty then none else some (.finite (costs completions).sum)
  modelsUsed := completions.map (·.model)
  provider := completions.getLast?.map (·.provider)

end Sums

/-- A sum of counts is exact or refused. -/
theorem safeAdd_finite {left right : Int} (safe : isSafe left = true) (safe' : isSafe right = true) :
    safeAdd (.finite left) (.finite right) =
      if isSafe (left + right) then .ok (.finite ((left + right : Int) : ℚ))
      else .error (invalidCompletion .invalidUsage) := by
  have nonneg := (isSafe_iff.mp safe).1
  have nonneg' := (isSafe_iff.mp safe').1
  have sum := Double.safeInteger_add nonneg nonneg'
  have bound : maxSafeInteger = Double.maxSafeInteger := by decide
  have operands : (isSafeCount (.finite left) && isSafeCount (.finite right)) = true := by
    rw [isSafeCount_finite safe, isSafeCount_finite safe']
    rfl
  unfold safeAdd
  rw [operands]
  by_cases small : left + right ≤ Double.maxSafeInteger
  · have fit : isSafe (left + right) = true := by
      simp only [isSafe, Bool.and_eq_true, decide_eq_true_eq, bound]
      omega
    rw [if_pos small] at sum
    rw [if_pos fit, (Double.safeInteger_eq_some.mp sum).1]
    exact bind_ok_iff.mpr ⟨(), rfl, bind_ok_iff.mpr ⟨(), require_ok_iff.mpr (isSafeCount_finite fit), rfl⟩⟩
  · have unfit : isSafe (left + right) = false := by
      simp only [isSafe, Bool.and_eq_false_iff, decide_eq_false_iff_not, bound]
      exact .inr small
    have refused : isSafeCount (Double.add (.finite left) (.finite right)) = false := by
      rw [if_neg small] at sum
      rw [isSafeCount, sum]
      rfl
    rw [unfit]
    show (require (isSafeCount (Double.add (.finite left) (.finite right))) _ >>= _) = _
    rw [refused]
    rfl

theorem sumOf_append (done rest : List NormalizedCompletion) (count : NormalizedCompletion → Int) :
    sumOf (done ++ rest) count = sumOf done count + sumOf rest count := by
  simp [sumOf]

theorem sumOf_one (done : List NormalizedCompletion) (completion : NormalizedCompletion)
    (count : NormalizedCompletion → Int) :
    sumOf (done ++ [completion]) count = sumOf done count + count completion := by
  simp [sumOf]

theorem costs_append (done rest : List NormalizedCompletion) : costs (done ++ rest) = costs done ++ costs rest :=
  List.filterMap_append

/-- The sum of costs that `addUsage` goes on with. -/
theorem addCost_exact {done : List NormalizedCompletion} {completion : NormalizedCompletion}
    (safe : isSafe (costs done).sum = true) (normalized : Normalized completion) :
    addCost (exactSums done).providerCostUsdMicros completion.providerCostUsdMicros =
      if isSafe (costs (done ++ [completion])).sum then .ok (exactSums (done ++ [completion])).providerCostUsdMicros
      else .error (invalidCompletion .invalidUsage) := by
  have total : (exactSums done).providerCostUsdMicros.getD (.finite 0) = .finite ((costs done).sum : Int) := by
    unfold exactSums
    cases found : costs done with
    | nil => rfl
    | cons cost rest => rfl
  have added := normalized.cost
  cases found : completion.providerCostUsdMicros with
  | none =>
      have same : costs (done ++ [completion]) = costs done := by simp [costs, found]
      simp only [exactSums, same, safe, if_true]
      rfl
  | some cost =>
      rw [found] at added
      have sum : (costs (done ++ [completion])).sum = (costs done).sum + cost := by simp [costs, found]
      have nonempty : (costs (done ++ [completion])).isEmpty = false := by simp [costs, found]
      unfold addCost
      dsimp only
      rw [total, safeAdd_finite safe added, sum]
      simp only [exactSums, nonempty, sum]
      split <;> rfl

/-- One answer more. -/
theorem addUsage_exact {done : List NormalizedCompletion} {completion : NormalizedCompletion}
    (fit : fits done = true) (normalized : Normalized completion) :
    addUsage (exactSums done) completion =
      if fits (done ++ [completion]) then .ok (exactSums (done ++ [completion]))
      else .error (invalidCompletion .invalidUsage) := by
  simp only [fits, Bool.and_eq_true] at fit
  rcases fit with ⟨⟨⟨prompt, answered⟩, total⟩, cost⟩
  have first := safeAdd_finite prompt normalized.promptTokens
  have second := safeAdd_finite answered normalized.completionTokens
  have third := safeAdd_finite total normalized.totalTokens
  have fourth := addCost_exact cost normalized
  rw [← sumOf_one done completion (·.promptTokens)] at first
  rw [← sumOf_one done completion (·.completionTokens)] at second
  rw [← sumOf_one done completion (·.totalTokens)] at third
  have sums : (exactSums (done ++ [completion])).modelsUsed = (exactSums done).modelsUsed ++ [completion.model] ∧
      (exactSums (done ++ [completion])).provider = some completion.provider := by
    simp [exactSums]
  unfold addUsage fits
  rw [fourth]
  simp only [show (exactSums done).promptTokens = .finite (sumOf done (·.promptTokens)) from rfl,
    show (exactSums done).completionTokens = .finite (sumOf done (·.completionTokens)) from rfl,
    show (exactSums done).totalTokens = .finite (sumOf done (·.totalTokens)) from rfl, first, second, third, ← sums.1,
    ← sums.2]
  cases isSafe (sumOf (done ++ [completion]) (·.promptTokens)) with
  | false => rfl
  | true =>
      cases isSafe (sumOf (done ++ [completion]) (·.completionTokens)) with
      | false => rfl
      | true =>
          cases isSafe (sumOf (done ++ [completion]) (·.totalTokens)) with
          | false => rfl
          | true => cases isSafe (costs (done ++ [completion])).sum <;> rfl

theorem isSafe_left {one two : Int} (nonneg : 0 ≤ one) (nonneg' : 0 ≤ two) (safe : isSafe (one + two) = true) :
    isSafe one = true := by
  simp only [isSafe, Bool.and_eq_true, decide_eq_true_eq] at safe ⊢
  omega

theorem sumOf_nonneg {completions : List NormalizedCompletion} {count : NormalizedCompletion → Int}
    (safe : ∀ completion ∈ completions, isSafe (count completion) = true) : 0 ≤ sumOf completions count := by
  apply List.sum_nonneg
  intro value mem
  rcases List.mem_map.mp mem with ⟨completion, there, rfl⟩
  exact (isSafe_iff.mp (safe completion there)).1

theorem costs_nonneg {completions : List NormalizedCompletion}
    (sound : ∀ completion ∈ completions, Normalized completion) : 0 ≤ (costs completions).sum := by
  apply List.sum_nonneg
  intro cost mem
  rcases List.mem_filterMap.mp mem with ⟨completion, there, found⟩
  have safe := (sound completion there).cost
  rw [found] at safe
  exact (isSafe_iff.mp safe).1

/-- Sums that fit have fitted before. -/
theorem fits_of_append {done rest : List NormalizedCompletion} (sound : ∀ other ∈ done ++ rest, Normalized other)
    (fit : fits (done ++ rest) = true) : fits done = true := by
  have before : ∀ other ∈ done, Normalized other := fun other mem => sound other (List.mem_append_left _ mem)
  have after : ∀ other ∈ rest, Normalized other := fun other mem => sound other (List.mem_append_right _ mem)
  have kept {count : NormalizedCompletion → Int} (counts : ∀ other, Normalized other → isSafe (count other) = true)
      (safe : isSafe (sumOf (done ++ rest) count) = true) : isSafe (sumOf done count) = true := by
    rw [sumOf_append] at safe
    exact isSafe_left (sumOf_nonneg fun other mem => counts other (before other mem))
      (sumOf_nonneg fun other mem => counts other (after other mem)) safe
  simp only [fits, Bool.and_eq_true] at fit ⊢
  rcases fit with ⟨⟨⟨prompt, answered⟩, total⟩, cost⟩
  rw [costs_append, List.sum_append] at cost
  exact ⟨⟨⟨kept (fun _ sound => sound.promptTokens) prompt, kept (fun _ sound => sound.completionTokens) answered⟩,
    kept (fun _ sound => sound.totalTokens) total⟩, isSafe_left (costs_nonneg before) (costs_nonneg after) cost⟩

/-- The answers are added one by one: the sums are exact until one of them does not fit. -/
theorem addUsage_from {rest done : List NormalizedCompletion} (sound : ∀ other ∈ done ++ rest, Normalized other)
    (fit : fits done = true) :
    rest.foldlM addUsage (exactSums done) =
      if fits (done ++ rest) then .ok (exactSums (done ++ rest)) else .error (invalidCompletion .invalidUsage) := by
  induction rest generalizing done with
  | nil =>
      rw [List.append_nil, if_pos fit]
      rfl
  | cons completion rest ih =>
      have step := addUsage_exact fit (sound completion (by simp))
      have shift : done ++ completion :: rest = (done ++ [completion]) ++ rest := by simp
      rw [List.foldlM_cons, step]
      cases next : fits (done ++ [completion]) with
      | true =>
          rw [shift] at sound ⊢
          exact ih sound next
      | false =>
          have never : fits (done ++ completion :: rest) = false := by
            by_contra fitted
            rw [shift] at sound fitted
            have before := fits_of_append sound (by simpa using fitted)
            rw [next] at before
            cases before
          rw [never]
          rfl

/-- The two validators agree. What the first check of an answer has passed the second one passes too, for any answers of
any providers; and added one by one their usage is exact, or refused as invalid usage where a sum is no safe integer. -/
theorem provider_validators_agree (answers : List (JsonValue × AiProvider)) (completions : List NormalizedCompletion)
    (normalized : List.Forall₂ (fun answer completion =>
      normalizeChatCompletion answer.1 answer.2 = .ok completion) answers completions) :
    (∀ completion ∈ completions, assertModelCompletion completion.value = .ok ()) ∧
      completions.foldlM addUsage {} =
        if fits completions then .ok (exactSums completions) else .error (invalidCompletion .invalidUsage) := by
  have sound : ∀ completion ∈ completions, Normalized completion := by
    intro completion mem
    induction normalized with
    | nil => cases mem
    | cons here _ ih =>
        rcases List.mem_cons.mp mem with rfl | later
        · exact normalize_ok here
        · exact ih later
  constructor
  · intro completion mem
    exact assert_of_normalized (sound completion mem)
  · have all : ∀ other ∈ [] ++ completions, Normalized other := sound
    exact addUsage_from all (by decide)

/-- Two answers of Gemini and of OpenRouter: a call without content, and a text with a cost in digits. -/
def twoAnswers : List (JsonValue × AiProvider) :=
  [(.object
      [("choices", .array [.object
        [("message", .object
          [("role", .string "model"),
            ("tool_calls", .array [.object
              [("id", .string "call-1"), ("type", .string "function"),
                ("function", .object [("name", .string "safe_tool"), ("arguments", .string "\x7b\x7d")])]])])]]),
        ("model", .string "gemini-model"),
        ("usage", .object [("prompt_tokens", .number 3), ("total_tokens", .number (1 / 2))])], .gemini),
    (.object
      [("choices", .array [.object [("message", .object [("role", .string "assistant"), ("content", .string "answer")])]]),
        ("model", .string "provider/primary"),
        ("usage", .object
          [("prompt_tokens", .number 11), ("completion_tokens", .number 4), ("cost", .string "0.000012")])], .openrouter)]

theorem provider_validators_agree_two :
    ∃ first second, normalizeChatCompletion twoAnswers[0].1 .gemini = .ok first ∧
      normalizeChatCompletion twoAnswers[1].1 .openrouter = .ok second ∧
      assertModelCompletion first.value = .ok () ∧ assertModelCompletion second.value = .ok () ∧
      [first, second].foldlM addUsage {} =
        if fits [first, second] then .ok (exactSums [first, second]) else .error (invalidCompletion .invalidUsage) := by
  have one : (normalizeChatCompletion twoAnswers[0].1 .gemini).toOption.isSome = true := by decide +kernel
  have two : (normalizeChatCompletion twoAnswers[1].1 .openrouter).toOption.isSome = true := by decide +kernel
  cases first : normalizeChatCompletion twoAnswers[0].1 .gemini with
  | error failure =>
      rw [first] at one
      cases one
  | ok completion =>
      cases second : normalizeChatCompletion twoAnswers[1].1 .openrouter with
      | error failure =>
          rw [second] at two
          cases two
      | ok completion' =>
          have agree := provider_validators_agree twoAnswers [completion, completion']
            (.cons first (.cons second .nil))
          exact ⟨completion, completion', rfl, rfl, agree.1 _ (by simp), agree.1 _ (by simp), agree.2⟩

end DataVault.Ai.ChatCompletion
