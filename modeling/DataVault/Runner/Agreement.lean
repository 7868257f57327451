/-
Module: DataVault.Runner.Agreement
Layer: Proofs
Purpose: The guard and its child agree: the request fits in its line and is read as it was sent, and every answer of the
  engines fits in the budget of the guard, passes its checks and is returned unchanged.
Imports: DataVault.Runner.Messages, DataVault.Workbook.ZipReader
Trusted boundary: human-reviewed spec
Main exports: length_request, length_result, length_output, engine, runner_agreement
-/
import DataVault.Runner.Messages
import DataVault.Workbook.ZipReader

namespace DataVault.Runner

open DataVault.Control DataVault.Guard DataVault.Text DataVault.Text.Hex DataVault.Workbook

/-! ### Sizes of values -/

theorem size_category (category : Category) : Json.size (nameJson categoryNames category) ≤ 14 := by
  rw [nameJson, Json.size]
  cases category <;> decide

theorem size_evidence (evidence : Evidence) : Json.size (nameJson evidenceNames evidence) ≤ 16 := by
  rw [nameJson, Json.size]
  cases evidence <;> decide

theorem size_flag (flag : CompatibilityFlag) : Json.size (nameJson flagNames flag) ≤ 29 := by
  rw [nameJson, Json.size]
  cases flag <;> decide

theorem size_error (code : GuardErrorCode) : Json.size (nameJson errorNames code) ≤ 34 := by
  rw [nameJson, Json.size]
  cases code <;> decide

theorem size_coverage (coverage : Coverage) : Json.size (nameJson coverageNames coverage) ≤ 11 := by
  rw [nameJson, Json.size]
  cases coverage <;> decide

theorem size_bool (value : Bool) : Json.size (.bool value) ≤ 5 := by
  cases value <;> decide

theorem size_mapped {α : Type} {write : α → Json} {bound : Nat} (items : List α)
    (each : ∀ item, Json.size (write item) ≤ bound) : Json.size (.array (items.map write)) ≤ 2 + items.length * (bound + 1) := by
  have sized := Json.itemsSize_le (items.map write) bound (by
    intro json mem
    rcases List.mem_map.mp mem with ⟨item, _, rfl⟩
    exact each item)
  rw [List.length_map] at sized
  rw [Json.size]
  omega

theorem length_le_size (value : Json) : (jsonBytes value).length ≤ Json.size value := by
  rw [length_jsonBytes]
  exact Json.textSize_render value

theorem lowerDigit_plain : ∀ value < 16, Json.IsPlain (lowerDigit value) := by
  unfold Json.IsPlain
  decide

theorem toHex_plain (width value : Nat) : ∀ c ∈ toHex width value, Json.IsPlain c := by
  induction width generalizing value with
  | zero =>
      intro c mem
      cases mem
  | succ width ih =>
      intro c mem
      rcases List.mem_append.mp mem with high | low
      · exact ih _ c high
      · rw [List.mem_singleton.mp low]
        exact lowerDigit_plain _ (Nat.mod_lt _ (by decide))

theorem size_digest (digest : Nat) : Json.size (.string (digestText digest)) = 66 := by
  have text : (digestText digest).toList = toHex 64 digest := by rw [digestText, String.toList_ofList]
  rw [Json.size_plain (by rw [text]; exact toHex_plain 64 digest), text, toHex_length]

/-! ### The request -/

theorem size_categories {categories : List Category} (few : categories.length ≤ 5) :
    Json.size (categoriesJson categories) ≤ 77 := by
  have sized := size_mapped categories size_category
  unfold categoriesJson
  omega

theorem size_region {region : String} (short : region.toList.length ≤ 2) : Json.size (.string region) ≤ 14 := by
  have sized := Json.size_string region
  omega

/-- The fields of an optional value. -/
theorem size_optional (name : String) (value : Option Json) (bound : Nat)
    (sized : ∀ json, value = some json → Json.size json ≤ bound) :
    Json.fieldsSize (optional name value) ≤ 2 + Json.textSize (Json.renderString name) + bound := by
  cases value with
  | none => exact Nat.zero_le _
  | some json =>
      have here := sized json rfl
      show 2 + Json.textSize (Json.renderString name) + Json.size json + 0 ≤ _
      omega

theorem fieldsSize_append (front back : List (String × Json)) :
    Json.fieldsSize (front ++ back) = Json.fieldsSize front + Json.fieldsSize back := by
  induction front with
  | nil => simp [Json.fieldsSize]
  | cons field front ih =>
      rw [List.cons_append, Json.fieldsSize, Json.fieldsSize, ih]
      omega

/-- No limit has more than eight digits. -/
theorem size_limit {limits : RunnerLimits} (within : limits.Within) {field : String × (RunnerLimits → Nat)}
    (listed : field ∈ limitFields) : Json.size (.number (field.2 limits)) ≤ 8 := by
  have standard : ∀ field ∈ limitFields, field.2 defaultLimits < 10 ^ 8 := by decide
  have bounds := within field listed
  have top := standard field listed
  exact Json.size_number (by decide) (by omega)

theorem size_limits {limits : RunnerLimits} (within : limits.Within) : Json.size (limitsJson limits) ≤ 420 := by
  have sized : ∀ fields : List (String × (RunnerLimits → Nat)), (∀ field ∈ fields, field ∈ limitFields) →
      Json.fieldsSize (fields.map fun field => (field.1, .number (field.2 limits))) ≤
        (fields.map fun field => 10 + Json.textSize (Json.renderString field.1)).sum := by
    intro fields listed
    induction fields with
    | nil => exact Nat.le_refl _
    | cons field fields ih =>
        have here := size_limit within (listed field List.mem_cons_self)
        have there := ih fun other mem => listed other (List.mem_cons_of_mem _ mem)
        rw [List.map_cons, List.map_cons, List.sum_cons, Json.fieldsSize]
        omega
  have names : (limitFields.map fun field => 10 + Json.textSize (Json.renderString field.1)).sum ≤ 300 := by decide
  have fields := sized limitFields fun _ mem => mem
  rw [limitsJson, Json.size]
  omega

theorem size_column {limits : RunnerLimits} (within : limits.Within) {column : RedactionColumn}
    (sheet : column.sheetIndex < limits.sheets) (inside : column.column ≤ limits.columns) :
    Json.size (columnJson column) ≤ 80 := by
  have sheets := (within ("sheets", (·.sheets)) (by simp [limitFields])).2
  have columns := (within ("columns", (·.columns)) (by simp [limitFields])).2
  have twenty : defaultLimits.sheets = 20 := rfl
  have most : defaultLimits.columns = 512 := rfl
  have first : Json.size (.number column.sheetIndex) ≤ 2 := Json.size_number (by decide) (by dsimp only at sheets; omega)
  have second : Json.size (.number column.column) ≤ 3 := Json.size_number (by decide) (by dsimp only at columns; omega)
  have third := size_bool column.includeHeader
  have names : Json.textSize (Json.renderString "sheetIndex") = 12 ∧ Json.textSize (Json.renderString "column") = 8 ∧
      Json.textSize (Json.renderString "includeHeader") = 15 := by decide
  rw [columnJson, Json.size, Json.fieldsSize, Json.fieldsSize, Json.fieldsSize, Json.fieldsSize]
  omega

theorem size_selection {limits : RunnerLimits} (within : limits.Within) {options : SanitizationOptions}
    (admitted : AdmittedSelection limits options) : Json.size (selectionJson options.selection) ≤ 8300 := by
  have categories := size_categories admitted.few
  have columns : Json.itemsSize (options.selection.columns.map columnJson) ≤ options.selection.columns.length * 81 := by
    have each := Json.itemsSize_le (options.selection.columns.map columnJson) 80 (by
      intro json mem
      rcases List.mem_map.mp mem with ⟨column, there, rfl⟩
      exact size_column within (admitted.column column there).1 (admitted.column column there).2.2)
    rwa [List.length_map] at each
  have hundred := admitted.columns
  have names : Json.textSize (Json.renderString "categories") = 12 ∧
      Json.textSize (Json.renderString "columns") = 9 := by decide
  rw [selectionJson, Json.size, Json.fieldsSize, Json.fieldsSize, Json.fieldsSize, Json.size]
  omega

theorem size_sanitization {limits : RunnerLimits} (within : limits.Within) {options : SanitizationOptions}
    (admitted : AdmittedSelection limits options) (few : options.categories.length ≤ 5)
    (region : ∀ region, options.phoneRegion = some region → region.toList.length ≤ 2) :
    Json.size (sanitizationJson options) ≤ 8600 := by
  have categories := size_categories few
  have selection := size_selection within admitted
  have digest := size_digest options.findingsDigest
  have regions := size_optional "phoneRegion" (options.phoneRegion.map .string) 14 (by
    intro json found
    rcases Option.map_eq_some_iff.mp found with ⟨text, same, rfl⟩
    exact size_region (region text same))
  have names : Json.textSize (Json.renderString "categories") = 12 ∧
      Json.textSize (Json.renderString "phoneRegion") = 13 ∧
      Json.textSize (Json.renderString "findingsDigest") = 16 ∧
      Json.textSize (Json.renderString "selection") = 11 := by decide
  rw [sanitizationJson, Json.size, List.cons_append, Json.fieldsSize, fieldsSize_append, Json.fieldsSize, Json.fieldsSize,
    Json.fieldsSize]
  omega

/-- The request fits in the first sixteen kibibytes. -/
theorem length_request {limits : RunnerLimits} {task : RunnerTask} {bytes : Bytes}
    (admitted : Admitted limits task bytes) : (jsonBytes (requestJson limits task)).length < 16384 := by
  have categories := size_categories admitted.categories
  have limited := size_limits admitted.within
  have regions := size_optional "phoneRegion" (task.phoneRegion.map .string) 14 (by
    intro json found
    rcases Option.map_eq_some_iff.mp found with ⟨text, same, rfl⟩
    exact size_region (admitted.region text same))
  have options := size_optional "sanitization" (task.sanitization.map sanitizationJson) 8600 (by
      intro json found
      cases task with
      | scan => cases found
      | sanitize options =>
          cases found
          exact size_sanitization admitted.within (admitted.selection options rfl) admitted.categories admitted.region)
  have names : Json.textSize (Json.renderString "categories") = 12 ∧
      Json.textSize (Json.renderString "phoneRegion") = 13 ∧ Json.textSize (Json.renderString "limits") = 8 ∧
      Json.textSize (Json.renderString "sanitization") = 14 := by decide
  have bound := length_le_size (requestJson limits task)
  rw [requestJson, Json.size, List.cons_append, Json.fieldsSize, fieldsSize_append, Json.fieldsSize] at bound
  unfold requestJson
  rw [List.cons_append]
  omega

/-! ### The answers -/

theorem size_finding {limits : RunnerLimits} (within : limits.Within) {categories : List Category} {sheets index : Nat}
    {finding : SafeFinding} (sound : SoundFinding limits.toGuardLimits categories sheets finding)
    (few : sheets ≤ limits.sheets) (ordinal : finding.ordinal = index) (low : index < limits.findings) :
    Json.size (findingJson finding) ≤ 140 := by
  have most := (within ("sheets", (·.sheets)) (by simp [limitFields])).2
  have rows := (within ("rows", (·.rows)) (by simp [limitFields])).2
  have columns := (within ("columns", (·.columns)) (by simp [limitFields])).2
  have findings := (within ("findings", (·.findings)) (by simp [limitFields])).2
  have standard : defaultLimits.sheets = 20 ∧ defaultLimits.rows = 100000 ∧ defaultLimits.columns = 512 ∧
      defaultLimits.findings = 5000 := ⟨rfl, rfl, rfl, rfl⟩
  have sheet := sound.sheet
  have row := sound.row
  have column := sound.column
  dsimp only at most rows columns findings
  have first : Json.size (.number finding.ordinal) ≤ 4 := Json.size_number (by decide) (by omega)
  have second : Json.size (.number finding.sheetIndex) ≤ 2 := Json.size_number (by decide) (by omega)
  have third : Json.size (.number finding.row) ≤ 6 := Json.size_number (by decide) (by omega)
  have fourth : Json.size (.number finding.column) ≤ 3 := Json.size_number (by decide) (by omega)
  have fifth := size_category finding.category
  have sixth := size_evidence finding.evidence
  have seventh := size_bool finding.hidden
  have names : Json.textSize (Json.renderString "ordinal") = 9 ∧ Json.textSize (Json.renderString "sheetIndex") = 12 ∧
      Json.textSize (Json.renderString "row") = 5 ∧ Json.textSize (Json.renderString "column") = 8 ∧
      Json.textSize (Json.renderString "category") = 10 ∧ Json.textSize (Json.renderString "evidence") = 10 ∧
      Json.textSize (Json.renderString "hidden") = 8 := by decide
  rw [findingJson, Json.size, Json.fieldsSize, Json.fieldsSize, Json.fieldsSize, Json.fieldsSize, Json.fieldsSize,
    Json.fieldsSize, Json.fieldsSize, Json.fieldsSize]
  omega

/-- A finding's ordinal is its place. -/
theorem ordinal_lt {findings : List SafeFinding} (numbered : findings.map (·.ordinal) = List.range findings.length)
    {finding : SafeFinding} (mem : finding ∈ findings) : finding.ordinal < findings.length := by
  have there := List.mem_map_of_mem (f := (·.ordinal)) mem
  rw [numbered] at there
  exact List.mem_range.mp there

/-- Any result of a scan fits in two mebibytes. -/
theorem length_result {limits : RunnerLimits} (within : limits.Within) {categories : List Category}
    {result : ScanResponse} (sound : SoundScan limits.toGuardLimits categories result) :
    (jsonBytes (.object [("result", resultJson result)])).length ≤ 2 * 1024 * 1024 := by
  have few := sound.findings.few
  have cap := (within ("findings", (·.findings)) (by simp [limitFields])).2
  have most := (within ("cells", (·.cells)) (by simp [limitFields])).2
  have sheets := (within ("sheets", (·.sheets)) (by simp [limitFields])).2
  have standard : defaultLimits.sheets = 20 ∧ defaultLimits.cells = 100000 ∧ defaultLimits.findings = 5000 :=
    ⟨rfl, rfl, rfl⟩
  have counted := sound.cells
  have opened := sound.sheets
  have nine := sound.flags
  dsimp only at cap most sheets
  have findings : Json.itemsSize (result.findings.map findingJson) ≤ result.findings.length * 141 := by
    have each := Json.itemsSize_le (result.findings.map findingJson) 140 (by
      intro json mem
      rcases List.mem_map.mp mem with ⟨finding, there, rfl⟩
      have low := ordinal_lt sound.findings.numbered there
      exact size_finding within (sound.findings.each finding there) opened.2 rfl (by omega))
    rwa [List.length_map] at each
  have listed : Json.size (.array (result.findings.map findingJson)) ≤ 2 + result.findings.length * 141 := by
    rw [Json.size]
    exact Nat.add_le_add_left findings 2
  have flags := size_mapped result.compatibilityFlags size_flag
  have first : Json.size (.number result.processedCells) ≤ 6 := Json.size_number (by decide) (by omega)
  have second : Json.size (.number result.sheets) ≤ 2 := Json.size_number (by decide) (by omega)
  have third := size_coverage result.coverage
  have names : Json.textSize (Json.renderString "result") = 8 ∧ Json.textSize (Json.renderString "findings") = 10 ∧
      Json.textSize (Json.renderString "processedCells") = 16 ∧ Json.textSize (Json.renderString "sheets") = 8 ∧
      Json.textSize (Json.renderString "compatibilityFlags") = 20 ∧
      Json.textSize (Json.renderString "coverage") = 10 := by decide
  have bound := length_le_size (.object [("result", resultJson result)])
  rw [Json.size, Json.fieldsSize, Json.fieldsSize, resultJson, Json.size, Json.fieldsSize, Json.fieldsSize,
    Json.fieldsSize, Json.fieldsSize, Json.fieldsSize, Json.fieldsSize] at bound
  unfold resultJson
  omega

/-- Any sanitized workbook fits in the budget that its size in base 64 has. -/
theorem length_output {runtime : WorkbookRuntime} {limits : RunnerLimits} (within : limits.Within)
    {options : SanitizationOptions} {result : SanitizationResult}
    (sound : SoundSanitization runtime limits.toGuardLimits result) :
    (jsonBytes (.object [("sanitization", outputJson result)])).length ≤ outputBudget limits (.sanitize options) := by
  have most := (within ("cells", (·.cells)) (by simp [limitFields])).2
  have standard : defaultLimits.cells = 100000 := rfl
  have counted := sound.cells
  have length := sound.length
  dsimp only at most
  have text : (String.ofList (Base64.encode result.bytes)).toList = Base64.encode result.bytes := String.toList_ofList
  have first : Json.size (.string (String.ofList (Base64.encode result.bytes))) =
      4 * ((result.bytes.length + 2) / 3) + 2 := by
    rw [Json.size_plain (by rw [text]; exact fun c mem => Base64.encode_plain mem), text, Base64.length_encode]
  have second : Json.size (.number result.redactedCells) ≤ 6 := Json.size_number (by decide) (by omega)
  have third := size_digest result.outputDigest
  have names : Json.textSize (Json.renderString "sanitization") = 14 ∧
      Json.textSize (Json.renderString "outputBase64") = 14 ∧ Json.textSize (Json.renderString "redactedCells") = 15 ∧
      Json.textSize (Json.renderString "outputDigest") = 14 := by decide
  have bound := length_le_size (.object [("sanitization", outputJson result)])
  rw [Json.size, Json.fieldsSize, Json.fieldsSize, outputJson, Json.size, Json.fieldsSize, Json.fieldsSize,
    Json.fieldsSize, Json.fieldsSize] at bound
  have budget : outputBudget limits (.sanitize options) = (limits.compressedBytes * 4 + 2) / 3 + 4096 := rfl
  rw [budget]
  unfold outputJson
  omega

/-- An error fits in every budget. -/
theorem length_error (limits : RunnerLimits) (task : RunnerTask) (code : GuardErrorCode) :
    (jsonBytes (.object [("errorCode", nameJson errorNames code)])).length ≤ outputBudget limits task := by
  have sized := size_error code
  have names : Json.textSize (Json.renderString "errorCode") = 11 := by decide
  have least : 4096 ≤ outputBudget limits task := by
    cases task with
    | scan =>
        show 4096 ≤ 2 * 1024 * 1024
        decide
    | sanitize => exact Nat.le_add_left 4096 _
  have bound := length_le_size (.object [("errorCode", nameJson errorNames code)])
  rw [Json.size, Json.fieldsSize, Json.fieldsSize] at bound
  omega

/-! ### Both ends -/

/-- What the engines return for a task: their error as its code, a digest in hexadecimal digits. -/
def engine (runtime : WorkbookRuntime) (limits : RunnerLimits) (task : RunnerTask) (bytes : Bytes) :
    Except GuardErrorCode RunnerAnswer :=
  match task with
  | .scan categories phoneRegion =>
      ((scanWorkbook runtime bytes categories phoneRegion limits.toGuardLimits).mapError errorCode).map .scan
  | .sanitize options =>
      ((sanitizeWorkbook runtime bytes options limits.toGuardLimits).mapError errorCode).map fun result =>
        .sanitization result.bytes result.redactedCells (digestText result.outputDigest)

/-- The child takes in everything that is sent for an admitted task. -/
theorem length_frame {limits : RunnerLimits} {task : RunnerTask} {bytes : Bytes}
    (admitted : Admitted limits task bytes) :
    (frame limits task bytes).length ≤ defaultLimits.compressedBytes + 16384 := by
  have line := length_request admitted
  have most := (admitted.within ("compressedBytes", (·.compressedBytes)) (by simp [limitFields])).2
  have room := admitted.room
  dsimp only at most
  rw [frame, List.length_append, List.length_cons]
  omega

/-- The child answers for what it was asked. -/
theorem child_frame (runtime : WorkbookRuntime) {limits : RunnerLimits} {task : RunnerTask} {bytes : Bytes}
    {inputs : List Bytes} (admitted : Admitted limits task bytes) (sent : inputs.flatten = frame limits task bytes) :
    child runtime inputs =
      match answerJson runtime ⟨limits, task, bytes⟩ with
      | .ok json => jsonBytes json
      | .error code => jsonBytes (.object [("errorCode", nameJson errorNames code)]) := by
  have room : inputs.flatten.length ≤ defaultLimits.compressedBytes + 16384 := by
    rw [sent]
    exact length_frame admitted
  have received := readChunks_ok room
  have read := readOptions_frame admitted (Nat.le_of_lt (length_request admitted))
  rw [sent] at received
  unfold child
  rw [received]
  show (match (readOptions (frame limits task bytes) >>= answerJson runtime) with
    | .ok json => jsonBytes json
    | .error code => jsonBytes (.object [("errorCode", nameJson errorNames code)])) = _
  rw [read]
  rfl

/-- The parent reads an answer within its budget. -/
theorem execute_json {sha256 : Bytes → Nat} {limits : RunnerLimits} {task : RunnerTask} {json : Json}
    {outputs : List Bytes} (written : outputs.flatten = jsonBytes json)
    (room : (jsonBytes json).length ≤ outputBudget limits task) :
    execute sha256 limits task outputs = readAnswer sha256 limits task (jsonBytes json) := by
  rw [← written] at room
  have received := readChunks_ok room
  unfold execute
  rw [received, written]
  rfl

theorem readAnswer_error (sha256 : Bytes → Nat) (limits : RunnerLimits) (task : RunnerTask) (code : GuardErrorCode) :
    readAnswer sha256 limits task (jsonBytes (.object [("errorCode", nameJson errorNames code)])) = .error code := by
  have told : (some (nameJson errorNames code)).filter truthy = some (nameJson errorNames code) := by
    cases code <;> rfl
  unfold readAnswer
  rw [readJson_jsonBytes]
  have given : (Json.object [("errorCode", nameJson errorNames code)]).field "errorCode" =
      some (nameJson errorNames code) := rfl
  simp only [orFail, given, told, bind, Except.bind, throw, throwThe, MonadExceptOf.throw]
  rw [readName_error]
  rfl

theorem readAnswer_result {sha256 : Bytes → Nat} {limits : RunnerLimits} {categories : List Category}
    {phoneRegion : Option String} {result : ScanResponse}
    (sound : SoundScan limits.toGuardLimits categories result) :
    readAnswer sha256 limits (.scan categories phoneRegion) (jsonBytes (.object [("result", resultJson result)])) =
      .ok (.scan result) := by
  unfold readAnswer
  rw [readJson_jsonBytes]
  show orFail ((readResult limits categories (.object [("result", resultJson result)])).map RunnerAnswer.scan) _ = _
  rw [readResult_json sound]
  rfl

theorem readAnswer_output {runtime : WorkbookRuntime} {limits : RunnerLimits} {options : SanitizationOptions}
    {result : SanitizationResult} (sound : SoundSanitization runtime limits.toGuardLimits result) :
    readAnswer runtime.sha256 limits (.sanitize options) (jsonBytes (.object [("sanitization", outputJson result)])) =
      .ok (.sanitization result.bytes result.redactedCells (digestText result.outputDigest)) := by
  unfold readAnswer
  rw [readJson_jsonBytes]
  show orFail (readOutput runtime.sha256 limits (.object [("sanitization", outputJson result)])) _ = _
  rw [readOutput_json sound]
  rfl

/-- What the engines return is what the guard returns. -/
theorem execute_child (runtime : WorkbookRuntime) {limits : RunnerLimits} {task : RunnerTask} {bytes : Bytes}
    {inputs outputs : List Bytes} (admitted : Admitted limits task bytes)
    (sent : inputs.flatten = frame limits task bytes) (answered : outputs.flatten = child runtime inputs) :
    execute runtime.sha256 limits task outputs = engine runtime limits task bytes := by
  rw [child_frame runtime admitted sent] at answered
  cases task with
  | scan categories phoneRegion =>
      cases returned : scanWorkbook runtime bytes categories phoneRegion limits.toGuardLimits with
      | error failure =>
          simp only [answerJson, returned, Except.mapError] at answered
          rw [execute_json answered (length_error limits _ _), readAnswer_error]
          simp only [engine, returned, Except.mapError, Except.map]
      | ok result =>
          have sound := scanWorkbook_sound returned
          have room : (jsonBytes (.object [("result", resultJson result)])).length ≤
              outputBudget limits (.scan categories phoneRegion) := length_result admitted.within sound
          simp only [answerJson, returned, Except.mapError] at answered
          rw [execute_json answered room, readAnswer_result sound]
          simp only [engine, returned, Except.mapError, Except.map]
  | sanitize options =>
      cases returned : sanitizeWorkbook runtime bytes options limits.toGuardLimits with
      | error failure =>
          simp only [answerJson, returned, Except.mapError] at answered
          rw [execute_json answered (length_error limits _ _), readAnswer_error]
          simp only [engine, returned, Except.mapError, Except.map]
      | ok result =>
          have sound := sanitizeWorkbook_sound returned
          simp only [answerJson, returned, Except.mapError] at answered
          rw [execute_json answered (length_output admitted.within sound), readAnswer_output sound]
          simp only [engine, returned, Except.mapError, Except.map]

/-- The child goes on with the limits, the task and the workbook that the guard was called with, and the guard returns
what the engines return for them, in whatever chunks both streams arrive. -/
theorem runner_agreement (runtime : WorkbookRuntime) {limits : RunnerLimits} {task : RunnerTask} {bytes : Bytes}
    {inputs : List Bytes} (admitted : Admitted limits task bytes)
    (sent : inputs.flatten = frame limits task bytes) :
    readChunks (defaultLimits.compressedBytes + 16384) inputs = .ok (frame limits task bytes) ∧
      readOptions (frame limits task bytes) = .ok ⟨limits, task, bytes⟩ ∧
      ∀ outputs : List Bytes, outputs.flatten = child runtime inputs →
        execute runtime.sha256 limits task outputs = engine runtime limits task bytes := by
  constructor
  · have room : inputs.flatten.length ≤ defaultLimits.compressedBytes + 16384 := by
      rw [sent]
      exact length_frame admitted
    rw [readChunks_ok room, sent]
  constructor
  · exact readOptions_frame admitted (Nat.le_of_lt (length_request admitted))
  · intro outputs answered
    exact execute_child runtime admitted sent answered

/-- A column and its category in a workbook of two bytes, sent in two pieces. -/
theorem runner_agreement_pieces :
    let limits := defaultLimits
    let task : RunnerTask := .sanitize ⟨⟨[.email], [⟨0, 1, true⟩]⟩, [.email, .ip], some "GE", 7⟩
    let sent := frame limits task [80, 75]
    readChunks (defaultLimits.compressedBytes + 16384) [sent.take 5, sent.drop 5] = .ok sent ∧
      readOptions sent = .ok ⟨limits, task, [80, 75]⟩ ∧
      ∀ outputs : List Bytes, outputs.flatten = child archiveRuntime [sent.take 5, sent.drop 5] →
        execute archiveRuntime.sha256 limits task outputs = engine archiveRuntime limits task [80, 75] := by
  intro limits task sent
  have selection : ∀ options, task = .sanitize options → AdmittedSelection limits options := by
    intro options same
    rcases RunnerTask.sanitize.inj same with rfl
    exact ⟨by decide, by decide, by decide, by decide, by decide⟩
  have region : ∀ region, task.phoneRegion = some region → region.toList.length ≤ 2 := by
    intro region same
    rcases Option.some.inj same with rfl
    decide
  have within : limits.Within := by
    unfold RunnerLimits.Within
    decide
  have admitted : Admitted limits task [80, 75] := ⟨within, by decide, region, selection, by decide⟩
  exact runner_agreement archiveRuntime admitted (by simp [sent])

end DataVault.Runner
