/-
Module: DataVault.Runner.Messages
Layer: Proofs
Purpose: What one end of the pipe writes the other one reads: streams within their budget, JSON in UTF-8, and each
  message between the guard and its child.
Imports: DataVault.Runner.Protocol, DataVault.Workbook.ScanBounds
Trusted boundary: none
Main exports: readChunks_ok, readJson_jsonBytes, Admitted, readOptions_frame, readResult_json, readOutput_json
-/
import DataVault.Runner.Protocol
import DataVault.Workbook.ScanBounds

namespace DataVault.Runner

open DataVault.Control DataVault.Guard DataVault.Text DataVault.Text.Hex DataVault.Workbook

/-! ### Streams -/

theorem readChunks_from {budget : Nat} (chunks : List Bytes) :
    ∀ start : Bytes, start.length + chunks.flatten.length ≤ budget →
      chunks.foldlM (fun payload chunk =>
        if payload.length + chunk.length > budget then .error .limitExceeded
        else (.ok (payload ++ chunk) : Except GuardErrorCode Bytes)) start = .ok (start ++ chunks.flatten) := by
  induction chunks with
  | nil =>
      intro start _
      simp [pure, Except.pure]
  | cons chunk chunks ih =>
      intro start room
      rw [List.flatten_cons, List.length_append] at room
      rw [List.foldlM_cons, if_neg (by omega)]
      have rest := ih (start ++ chunk) (by rw [List.length_append]; omega)
      rw [List.append_assoc] at rest
      exact rest

/-- A stream within the budget is read, however it was cut. -/
theorem readChunks_ok {budget : Nat} {chunks : List Bytes} (room : chunks.flatten.length ≤ budget) :
    readChunks budget chunks = .ok chunks.flatten :=
  readChunks_from chunks [] (by simpa using room)

/-! ### Texts -/

theorem readJson_jsonBytes (value : Json) : readJson (jsonBytes value) = some value := by
  rw [readJson, jsonBytes, Utf8.StringDecoder.write_encode]
  exact Json.parse_stringify value

theorem length_jsonBytes (value : Json) : (jsonBytes value).length = Json.textSize (Json.render value) := by
  unfold jsonBytes Utf8.encode Json.textSize
  induction Json.render value with
  | nil => rfl
  | cons c rest ih =>
      rw [List.flatMap_cons, List.length_append, ih, List.map_cons, List.sum_cons, String.length_utf8EncodeChar]

/-- The bytes of a visible character are no line break. -/
theorem lineBreak_absent {c : Char} (visible : 32 ≤ c.toNat) : (10 : UInt8) ∉ String.utf8EncodeChar c := by
  have value : c.val.toNat = c.toNat := rfl
  have valid : c.val.toNat < 0x110000 := by
    rcases c.valid with low | ⟨_, high⟩
    · exact Nat.lt_trans low (by decide)
    · exact high
  have different {n : Nat} (large : 10 < n) (small : n < 256) : (10 : UInt8) ≠ UInt8.ofNat n := by
    intro same
    have numbers : (10 : UInt8).toNat = (UInt8.ofNat n).toNat := congrArg UInt8.toNat same
    have right : (UInt8.ofNat n).toNat = n := by simp [Nat.mod_eq_of_lt small]
    have left : (10 : UInt8).toNat = 10 := rfl
    omega
  intro mem
  unfold String.utf8EncodeChar at mem
  dsimp only at mem
  split at mem
  case isTrue =>
    simp only [List.mem_singleton] at mem
    exact different (by omega) (by omega) mem
  case isFalse =>
    split at mem
    case isTrue =>
      simp only [List.mem_cons, List.not_mem_nil, or_false] at mem
      rcases mem with same | same <;> exact different (by omega) (by omega) same
    case isFalse =>
      split at mem
      case isTrue =>
        simp only [List.mem_cons, List.not_mem_nil, or_false] at mem
        rcases mem with same | same | same <;> exact different (by omega) (by omega) same
      case isFalse =>
        simp only [List.mem_cons, List.not_mem_nil, or_false] at mem
        rcases mem with same | same | same | same <;> exact different (by omega) (by omega) same

/-- A line of JSON ends at its first line break. -/
theorem findIdx_jsonBytes (value : Json) (rest : Bytes) :
    (jsonBytes value ++ 10 :: rest).findIdx? (· = 10) = some (jsonBytes value).length := by
  have absent : ∀ byte ∈ jsonBytes value, (byte = 10) = False := by
    intro byte mem
    rcases List.mem_flatMap.mp mem with ⟨c, there, encoded⟩
    refine eq_false ?_
    rintro rfl
    exact lineBreak_absent (Json.render_visible value c there) encoded
  rw [List.findIdx?_append]
  have before : (jsonBytes value).findIdx? (· = 10) = none := by
    rw [List.findIdx?_eq_none_iff]
    intro byte mem
    simp [absent byte mem]
  rw [before]
  simp [List.findIdx?_cons]

/-! ### Lists of values -/

theorem mapM_some {α β : Type} {write : α → β} {read : β → Option α} {items : List α}
    (round : ∀ item ∈ items, read (write item) = some item) : (items.map write).mapM read = some items := by
  induction items with
  | nil => rfl
  | cons item items ih =>
      rw [List.map_cons, List.mapM_cons, round item List.mem_cons_self,
        ih fun other mem => round other (List.mem_cons_of_mem _ mem)]
      rfl

theorem mapM_ok {α β ε : Type} {write : α → β} {read : β → Except ε α} {items : List α}
    (round : ∀ item ∈ items, read (write item) = .ok item) : (items.map write).mapM read = .ok items := by
  induction items with
  | nil => rfl
  | cons item items ih =>
      rw [List.map_cons, List.mapM_cons, round item List.mem_cons_self,
        ih fun other mem => round other (List.mem_cons_of_mem _ mem)]
      rfl

/-! ### Names and numbers -/

theorem readName_category (category : Category) : readName categoryNames (nameJson categoryNames category) = some category := by
  cases category <;> decide

theorem readName_error (code : GuardErrorCode) : readName errorNames (nameJson errorNames code) = some code := by
  cases code <;> decide

theorem readName_flag (flag : CompatibilityFlag) : readName flagNames (nameJson flagNames flag) = some flag := by
  cases flag <;> decide

theorem readName_evidence (evidence : Evidence) :
    readName evidenceNames (nameJson evidenceNames evidence) = some evidence := by
  cases evidence <;> decide

theorem readName_coverage (coverage : Coverage) :
    readName coverageNames (nameJson coverageNames coverage) = some coverage := by
  cases coverage <;> decide

theorem readInteger_number {minimum maximum value : Nat} (least : minimum ≤ value) (most : value ≤ maximum) :
    readInteger minimum maximum (.number value) = some value := by
  have bounds : (minimum : Int) ≤ value ∧ (value : Int) ≤ maximum := ⟨by omega, by omega⟩
  rw [readInteger, if_pos bounds]
  rfl

theorem readCategories_json (categories : List Category) : readCategories (categoriesJson categories) = some categories :=
  mapM_some fun category _ => readName_category category

theorem readDigest_text {digest : Nat} (fits : digest < 16 ^ 64) :
    readDigest (.string (digestText digest)) = some digest := by
  have text : (digestText digest).toList = toHex 64 digest := by rw [digestText, String.toList_ofList]
  simp only [readDigest, readText, Option.bind_some, text, fromHex_toHex fits]

/-! ### Requests -/

/-- The limits are positive and none is above its default. -/
def RunnerLimits.Within (limits : RunnerLimits) : Prop :=
  ∀ field ∈ limitFields, 1 ≤ field.2 limits ∧ field.2 limits ≤ field.2 defaultLimits

/-- A selection that the checks of a request let through: categories that were scanned for, and columns of the
workbook's first sheets. -/
structure AdmittedSelection (limits : RunnerLimits) (options : SanitizationOptions) : Prop where
  categories : options.selection.categories ⊆ options.categories
  few : options.selection.categories.length ≤ 5
  columns : options.selection.columns.length ≤ 100
  column : ∀ column ∈ options.selection.columns,
    column.sheetIndex < limits.sheets ∧ 1 ≤ column.column ∧ column.column ≤ limits.columns
  digest : options.findingsDigest < 16 ^ 64

/-- What the guard calls the runner with. -/
structure Admitted (limits : RunnerLimits) (task : RunnerTask) (bytes : Bytes) : Prop where
  within : limits.Within
  categories : task.categories.length ≤ 5
  region : ∀ region, task.phoneRegion = some region → region.toList.length ≤ 2
  selection : ∀ options, task = .sanitize options → AdmittedSelection limits options
  room : bytes.length ≤ limits.compressedBytes

theorem field_limitsJson {name : String} {limit : RunnerLimits → Nat} (listed : (name, limit) ∈ limitFields)
    (limits : RunnerLimits) : (limitsJson limits).field name = some (.number (limit limits)) := by
  simp only [limitFields, List.mem_cons, Prod.mk.injEq, List.not_mem_nil, or_false] at listed
  rcases listed with ⟨rfl, rfl⟩ | ⟨rfl, rfl⟩ | ⟨rfl, rfl⟩ | ⟨rfl, rfl⟩ | ⟨rfl, rfl⟩ | ⟨rfl, rfl⟩ | ⟨rfl, rfl⟩ |
    ⟨rfl, rfl⟩ | ⟨rfl, rfl⟩ | ⟨rfl, rfl⟩ | ⟨rfl, rfl⟩ | ⟨rfl, rfl⟩ | ⟨rfl, rfl⟩ | ⟨rfl, rfl⟩ <;> rfl

/-- A limit that is checked is the one that was sent. -/
theorem readLimit_within {limits : RunnerLimits} (within : limits.Within) (name : String)
    (limit : RunnerLimits → Nat) (listed : (name, limit) ∈ limitFields) :
    readLimit (limitsJson limits) name (limit defaultLimits) = .ok (limit limits) := by
  have bounds := within _ listed
  rw [readLimit, field_limitsJson listed]
  show orFail (readInteger 1 (limit defaultLimits) (.number (limit limits))) _ = _
  rw [readInteger_number bounds.1 bounds.2]
  rfl

theorem readLimits_json {limits : RunnerLimits} (within : limits.Within) :
    readLimits (limitsJson limits) = .ok limits := by
  have sent := readLimit_within within
  unfold readLimits
  rw [sent "compressedBytes" (·.compressedBytes) (by simp [limitFields]),
    sent "expandedBytes" (·.expandedBytes) (by simp [limitFields]),
    sent "entryBytes" (·.entryBytes) (by simp [limitFields]), sent "entries" (·.entries) (by simp [limitFields]),
    sent "ratio" (·.ratio) (by simp [limitFields]), sent "sheets" (·.sheets) (by simp [limitFields]),
    sent "rows" (·.rows) (by simp [limitFields]), sent "columns" (·.columns) (by simp [limitFields]),
    sent "cells" (·.cells) (by simp [limitFields]), sent "textBytes" (·.textBytes) (by simp [limitFields]),
    sent "findings" (·.findings) (by simp [limitFields]), sent "durationMs" (·.durationMs) (by simp [limitFields]),
    sent "ioMs" (·.ioMs) (by simp [limitFields]), sent "leaseMs" (·.leaseMs) (by simp [limitFields])]
  rfl

theorem readColumn_json {limits : RunnerLimits} {column : RedactionColumn} (sheet : column.sheetIndex < limits.sheets)
    (inside : 1 ≤ column.column ∧ column.column ≤ limits.columns) :
    readColumn limits (columnJson column) = .ok column := by
  have first := readInteger_number (Nat.zero_le column.sheetIndex) (Nat.le_sub_one_of_lt sheet)
  have second := readInteger_number inside.1 inside.2
  show (orFail (readInteger 0 (limits.sheets - 1) (.number column.sheetIndex)) _ >>= _) = _
  rw [first]
  show (orFail (readInteger 1 limits.columns (.number column.column)) _ >>= _) = _
  rw [second]
  rfl

theorem readSelection_json {limits : RunnerLimits} {options : SanitizationOptions} {json : Json}
    (field : json.field "selection" = some (selectionJson options.selection))
    (admitted : AdmittedSelection limits options) :
    readSelection limits options.categories json = .ok options.selection := by
  have selected := readCategories_json options.selection.categories
  have allowed : options.selection.categories.all options.categories.contains = true := by
    rw [List.all_eq_true]
    intro category mem
    exact List.contains_iff_mem.mpr (admitted.categories mem)
  have columns : (options.selection.columns.map columnJson).mapM (readColumn limits) =
      .ok options.selection.columns :=
    mapM_ok fun column mem => readColumn_json (admitted.column column mem).1 (admitted.column column mem).2
  apply bind_ok_iff.mpr
  refine ⟨_, orFail_ok_iff.mpr field, bind_ok_iff.mpr ⟨_, orFail_ok_iff.mpr selected, ?_⟩⟩
  apply bind_ok_iff.mpr
  refine ⟨(), require_ok_iff.mpr allowed, bind_ok_iff.mpr ⟨_, orFail_ok_iff.mpr rfl, ?_⟩⟩
  apply bind_ok_iff.mpr
  refine ⟨(), require_ok_iff.mpr (by simpa using admitted.columns), bind_ok_iff.mpr ⟨_, columns, rfl⟩⟩

/-- The fields of an object whose second field may be absent. -/
theorem field_sanitization (categories digest selection : Json) (region : Option Json) :
    let json := Json.object (("categories", categories) :: optional "phoneRegion" region ++
      [("findingsDigest", digest), ("selection", selection)])
    json.field "categories" = some categories ∧ json.field "phoneRegion" = region ∧
      json.field "findingsDigest" = some digest ∧ json.field "selection" = some selection := by
  cases region <;> exact ⟨rfl, rfl, rfl, rfl⟩

theorem readText_region (region : Option String) : (region.map Json.string).bind readText = region := by
  cases region <;> rfl

theorem readSanitization_json {limits : RunnerLimits} {options : SanitizationOptions}
    (admitted : AdmittedSelection limits options) :
    readSanitization limits options.categories (sanitizationJson options) = .ok options := by
  rcases field_sanitization (categoriesJson options.categories) (.string (digestText options.findingsDigest))
    (selectionJson options.selection) (options.phoneRegion.map .string) with ⟨categories, region, digest, selection⟩
  have scanned := readCategories_json options.categories
  have findings := readDigest_text admitted.digest
  unfold readSanitization sanitizationJson
  rw [readSelection_json selection admitted, categories, region, digest, readText_region, Option.bind_some,
    Option.bind_some, scanned, findings]
  rfl

/-- The fields of a request. -/
theorem field_request (categories limits : Json) (region sanitization : Option Json) :
    let json := Json.object (("categories", categories) :: optional "phoneRegion" region ++
      ("limits", limits) :: optional "sanitization" sanitization)
    json.field "categories" = some categories ∧ json.field "phoneRegion" = region ∧
      json.field "limits" = some limits ∧ json.field "sanitization" = sanitization := by
  cases region <;> cases sanitization <;> exact ⟨rfl, rfl, rfl, rfl⟩

/-- The child reads what was framed, if the line is short enough. -/
theorem readOptions_frame {limits : RunnerLimits} {task : RunnerTask} {bytes : Bytes}
    (admitted : Admitted limits task bytes) (short : (jsonBytes (requestJson limits task)).length ≤ 16384) :
    readOptions (frame limits task bytes) = .ok ⟨limits, task, bytes⟩ := by
  rcases field_request (categoriesJson task.categories) (limitsJson limits) (task.phoneRegion.map .string)
    (task.sanitization.map sanitizationJson) with ⟨categories, region, limited, sanitization⟩
  have request : (jsonBytes (requestJson limits task) ++ 10 :: bytes).take (jsonBytes (requestJson limits task)).length =
      jsonBytes (requestJson limits task) := List.take_left
  have workbook : (jsonBytes (requestJson limits task) ++ 10 :: bytes).drop
      ((jsonBytes (requestJson limits task)).length + 1) = bytes := by
    rw [← List.drop_drop, List.drop_left]
    rfl
  have scanned := readCategories_json task.categories
  unfold frame
  apply bind_ok_iff.mpr
  refine ⟨_, orFail_ok_iff.mpr (findIdx_jsonBytes _ _), bind_ok_iff.mpr ⟨(), require_ok_iff.mpr (by simpa using short), ?_⟩⟩
  rw [request, workbook, readJson_jsonBytes]
  apply bind_ok_iff.mpr
  refine ⟨requestJson limits task, rfl, bind_ok_iff.mpr ⟨task.categories, ?_, ?_⟩⟩
  · unfold requestJson
    rw [categories]
    exact orFail_ok_iff.mpr scanned
  · apply bind_ok_iff.mpr
    refine ⟨limitsJson limits, orFail_ok_iff.mpr limited, bind_ok_iff.mpr ⟨limits, readLimits_json admitted.within, ?_⟩⟩
    unfold requestJson
    rw [sanitization, region, readText_region]
    cases task with
    | scan asked region => rfl
    | sanitize options =>
        have read := readSanitization_json (admitted.selection options rfl)
        show ((RunnerTask.sanitize <$> readSanitization limits options.categories (sanitizationJson options)) >>= _) = _
        rw [read]
        rfl

/-! ### Answers -/

theorem readFinding_json {limits : RunnerLimits} {categories : List Category} {sheets index : Nat}
    {finding : SafeFinding} (sound : SoundFinding limits.toGuardLimits categories sheets finding)
    (ordinal : finding.ordinal = index) :
    readFinding limits categories sheets index (findingJson finding) = some finding := by
  subst ordinal
  have listed : categories.contains finding.category = true := List.contains_iff_mem.mpr sound.category
  have first := readInteger_number (Nat.le_refl finding.ordinal) (Nat.le_refl finding.ordinal)
  have second := readInteger_number (Nat.zero_le finding.sheetIndex) (Nat.le_sub_one_of_lt sound.sheet)
  have third := readInteger_number sound.row.1 sound.row.2
  have fourth := readInteger_number sound.column.1 sound.column.2
  have fields : (findingJson finding).field "ordinal" = some (.number finding.ordinal) ∧
      (findingJson finding).field "sheetIndex" = some (.number finding.sheetIndex) ∧
      (findingJson finding).field "row" = some (.number finding.row) ∧
      (findingJson finding).field "column" = some (.number finding.column) ∧
      (findingJson finding).field "category" = some (nameJson categoryNames finding.category) ∧
      (findingJson finding).field "evidence" = some (nameJson evidenceNames finding.evidence) ∧
      (findingJson finding).field "hidden" = some (.bool finding.hidden) := ⟨rfl, rfl, rfl, rfl, rfl, rfl, rfl⟩
  rcases fields with ⟨f₁, f₂, f₃, f₄, f₅, f₆, f₇⟩
  simp only [readFinding, f₁, f₂, f₃, f₄, f₅, f₆, f₇, Option.bind_some, first, second, third, fourth,
    readName_category, readName_evidence, readBool, Option.bind_eq_bind, listed, if_true]

/-- The findings are read in order. -/
theorem readFindings_json {limits : RunnerLimits} {categories : List Category} {sheets : Nat} :
    ∀ (findings : List SafeFinding) (start : Nat),
      (∀ finding ∈ findings, SoundFinding limits.toGuardLimits categories sheets finding) →
      findings.map (·.ordinal) = List.range' start findings.length →
      ((findings.map findingJson).zipIdx start).mapM
        (fun entry => readFinding limits categories sheets entry.2 entry.1) = some findings
  | [], _, _, _ => rfl
  | finding :: findings, start, sound, numbered => by
      rw [List.map_cons, List.length_cons, List.range'_succ] at numbered
      rcases List.cons.inj numbered with ⟨here, there⟩
      have rest := readFindings_json findings (start + 1) (fun other mem => sound other (List.mem_cons_of_mem _ mem)) there
      rw [List.map_cons, List.zipIdx_cons, List.mapM_cons, readFinding_json (sound _ List.mem_cons_self) here, rest]
      rfl

theorem readResult_json {limits : RunnerLimits} {categories : List Category} {result : ScanResponse}
    (sound : SoundScan limits.toGuardLimits categories result) :
    readResult limits categories (.object [("result", resultJson result)]) = some result := by
  have cells := readInteger_number (Nat.zero_le result.processedCells) sound.cells
  have sheets := readInteger_number sound.sheets.1 sound.sheets.2
  have flags : (result.compatibilityFlags.map (nameJson flagNames)).mapM (readName flagNames) =
      some result.compatibilityFlags := mapM_some fun flag _ => readName_flag flag
  have findings := readFindings_json result.findings 0 sound.findings.each (by
    rw [sound.findings.numbered, List.range_eq_range'])
  have few : (decide ((result.findings.map findingJson).length ≤ limits.findings) && decide (result.coverage = .limited) &&
      decide ((result.compatibilityFlags.map (nameJson flagNames)).length ≤ flagNames.length)) = true := by
    have nine : flagNames.length = 9 := rfl
    simp only [List.length_map, nine, Bool.and_eq_true, decide_eq_true_eq]
    exact ⟨⟨sound.findings.few, sound.coverage⟩, sound.flags⟩
  have fields : (Json.object [("result", resultJson result)]).field "result" = some (resultJson result) ∧
      (resultJson result).field "findings" = some (.array (result.findings.map findingJson)) ∧
      (resultJson result).field "processedCells" = some (.number result.processedCells) ∧
      (resultJson result).field "sheets" = some (.number result.sheets) ∧
      (resultJson result).field "compatibilityFlags" =
        some (.array (result.compatibilityFlags.map (nameJson flagNames))) ∧
      (resultJson result).field "coverage" = some (nameJson coverageNames result.coverage) :=
    ⟨rfl, rfl, rfl, rfl, rfl, rfl⟩
  rcases fields with ⟨f₁, f₂, f₃, f₄, f₅, f₆⟩
  simp only [readResult, f₁, f₂, f₃, f₄, f₅, f₆, Option.bind_some, Option.bind_eq_bind, readArray, cells, sheets,
    readName_coverage, flags, findings, few, if_true]

theorem readOutput_json {runtime : WorkbookRuntime} {limits : RunnerLimits} {result : SanitizationResult}
    (sound : SoundSanitization runtime limits.toGuardLimits result) :
    readOutput runtime.sha256 limits (.object [("sanitization", outputJson result)]) =
      some (.sanitization result.bytes result.redactedCells (digestText result.outputDigest)) := by
  have cells := readInteger_number sound.cells.1 sound.cells.2
  have text : (String.ofList (Base64.encode result.bytes)).toList = Base64.encode result.bytes := String.toList_ofList
  have accepted : (decide (1 ≤ result.bytes.length) && decide (result.bytes.length ≤ limits.compressedBytes) &&
      decide (digestText (runtime.sha256 result.bytes) = digestText result.outputDigest)) = true := by
    rw [sound.digest]
    simp only [Bool.and_eq_true, decide_eq_true_eq]
    exact ⟨⟨sound.filled, sound.length⟩, trivial⟩
  have fields : (Json.object [("sanitization", outputJson result)]).field "sanitization" = some (outputJson result) ∧
      (outputJson result).field "outputBase64" = some (.string (String.ofList (Base64.encode result.bytes))) ∧
      (outputJson result).field "redactedCells" = some (.number result.redactedCells) ∧
      (outputJson result).field "outputDigest" = some (.string (digestText result.outputDigest)) :=
    ⟨rfl, rfl, rfl, rfl⟩
  rcases fields with ⟨f₁, f₂, f₃, f₄⟩
  simp only [readOutput, f₁, f₂, f₃, f₄, Option.bind_some, Option.bind_eq_bind, readText, text,
    Base64.isBase64_encode, Base64.decode_encode, cells, accepted, if_true]

end DataVault.Runner
