/-
Module: DataVault.Workbook.Detectors
Layer: Model
Purpose: The detectors of the scanner (sensitive-data-guard/detectors.ts): which categories of sensitive data a text
  contains.
Imports: DataVault.Workbook.Runtime
Trusted boundary: human-reviewed spec
Main exports: luhn, ibanPattern, numberPattern, detect
-/
import DataVault.Workbook.Runtime

namespace DataVault.Workbook

open DataVault.Guard DataVault.Text

/-! ### Payment cards -/

/-- The loop of `luhn`, from the last digit on; `double` alternates. -/
def luhnSum : Bool → List Char → Nat
  | _, [] => 0
  | double, c :: rest =>
      let digit := c.toNat - 48
      let value := if double then digit * 2 else digit
      (if value > 9 then value - 9 else value) + luhnSum (!double) rest

def luhn (value : List Char) : Bool :=
  value.all isDigit && 13 ≤ value.length && value.length ≤ 19 && !value.all (fun c => some c = value.head?) &&
    luhnSum false value.reverse % 10 = 0

/-! ### Tokens -/

/-- `[\s,;<>"'()]`. -/
def isSeparator (c : Char) : Bool :=
  isSpace c || c = ',' || c = ';' || c = '<' || c = '>' || c = '"' || c = '\'' || c = '(' || c = ')'

/-- `split` at the runs of separators; `inRun` says that the last character was one. -/
def splitTokens : Bool → List Char → List Char → List (List Char)
  | _, token, [] => [token.reverse]
  | inRun, token, c :: rest =>
      if isSeparator c then
        if inRun then splitTokens true token rest else token.reverse :: splitTokens true [] rest
      else splitTokens false (c :: token) rest

/-- The code units of a string. -/
def utf16Length (text : List Char) : Nat := (text.map fun c => if c.toNat < 65536 then 1 else 2).sum

/-- `token.replace(/^[[{]+|[\]}.!?]+$/g, '')`. -/
def cleanToken (token : List Char) : List Char :=
  let opened := token.dropWhile fun c => c = '[' || c = '{'
  (opened.reverse.dropWhile fun c => c = ']' || c = '}' || c = '.' || c = '!' || c = '?').reverse

/-- The tokens that are tested, cleaned. -/
def tokens (text : List Char) : List String :=
  (((splitTokens false [] text).take 2048).filter fun token => utf16Length token ≤ 254).map fun token =>
    String.ofList (cleanToken token)

/-! ### Candidates -/

/-- `/\b[A-Z]{2}\d{2}(?:[ ]?[A-Z0-9]){11,30}\b/gi`. -/
def ibanPattern : Pattern :=
  .seq .wordBoundary <| .seq (.repeated 2 2 (.char Char.isAlpha)) <| .seq (.repeated 2 2 (.char isDigit)) <|
    .seq (.repeated 11 30 (.seq (.repeated 0 1 (.char (· = ' '))) (.char Char.isAlphanum))) .wordBoundary

/-- The inner loop over a candidate: some beginning of at least 15 characters, up to a blank or the end. -/
def containsIBAN (runtime : WorkbookRuntime) (candidate : List Char) : Bool :=
  (List.range (candidate.length + 1)).any fun stop =>
    15 ≤ stop && (stop = candidate.length || candidate[stop]? = some ' ') &&
      runtime.isIBAN (String.ofList (candidate.take stop))

/-- `/(?:^|[^\p{L}\d])\+?\d(?:[\d ()-]{4,32}\d)(?![\p{L}\d])/gu`. -/
def numberPattern (runtime : WorkbookRuntime) : Pattern :=
  .seq (.alt .start (.char fun c => !(runtime.isLetter c || isDigit c))) <|
    .seq (.repeated 0 1 (.char (· = '+'))) <| .seq (.char isDigit) <|
      .seq (.repeated 4 32 (.char fun c => isDigit c || c = ' ' || c = '(' || c = ')' || c = '-')) <|
        .seq (.char isDigit) (.except fun c => runtime.isLetter c || isDigit c)

/-- `raw.trim().replace(/^[^+\d]+/, '')`. -/
def trimCandidate (raw : List Char) : List Char :=
  let trimmed := ((raw.dropWhile isSpace).reverse.dropWhile isSpace).reverse
  trimmed.dropWhile fun c => !(c = '+' || isDigit c)

def isCard (candidate : List Char) : Bool := candidate.head? ≠ some '+' && luhn (candidate.filter isDigit)

def isPhone (runtime : WorkbookRuntime) (region : Option String) (candidate : List Char) : Bool :=
  let digits := (candidate.filter isDigit).length
  (candidate.head? = some '+' || region.any fun name => !name.isEmpty) && 7 ≤ digits && digits ≤ 15 &&
    runtime.isValidPhone (String.ofList candidate) region

/-! ### Detection -/

/-- The category is found in the text. -/
def detects (runtime : WorkbookRuntime) (text : List Char) (region : Option String) : Category → Bool
  | .email => (tokens text).any runtime.isEmail
  | .ip => (tokens text).any runtime.isIP
  | .iban => ((ibanPattern.search text).take 100).any (containsIBAN runtime)
  | .paymentCard => (((numberPattern runtime).search text).take 100).any fun raw => isCard (trimCandidate raw)
  | .phone => (((numberPattern runtime).search text).take 100).any fun raw => isPhone runtime region (trimCandidate raw)

/-- `detect`: the enabled categories that are found, sorted. -/
def detect (runtime : WorkbookRuntime) (text : String) (categories : List Category) (region : Option String) :
    List Category :=
  sortCategories ([.email, .ip, .iban, .paymentCard, .phone].filter fun category =>
    categories.contains category && detects runtime text.toList region category)

/-! ### The marker -/

/-- `REDACTION_MARKER`. -/
def redactionMarker : String := "[REDACTED]"

theorem tokens_marker : tokens redactionMarker.toList = ["REDACTED"] := by decide

/-- The marker has no digit, hence no candidate. -/
theorem marker_without_digits : ∀ c ∈ redactionMarker.toList, ¬ isDigit c = true := by
  have none : redactionMarker.toList.all (fun c => !isDigit c) = true := by decide
  intro c mem digit
  have other := List.all_eq_true.mp none c mem
  simp [digit] at other

theorem ibanPattern_passes : ibanPattern.Passes fun c => isDigit c = true :=
  .inr (.inr (.inl ⟨by decide, fun _ digit => digit⟩))

theorem numberPattern_passes (runtime : WorkbookRuntime) :
    (numberPattern runtime).Passes fun c => isDigit c = true :=
  .inr (.inr (.inl fun _ digit => digit))

/-- Nothing is detected in the marker, if the validators take its one token for neither an address nor an IP. -/
theorem detect_marker {runtime : WorkbookRuntime} (email : runtime.isEmail "REDACTED" = false)
    (ip : runtime.isIP "REDACTED" = false) (categories : List Category) (region : Option String) :
    detect runtime redactionMarker categories region = [] := by
  have iban := Pattern.search_eq_nil ibanPattern_passes marker_without_digits
  have number := Pattern.search_eq_nil (numberPattern_passes runtime) marker_without_digits
  have none : ∀ category, detects runtime redactionMarker.toList region category = false := by
    intro category
    cases category with
    | email => simp [detects, tokens_marker, email]
    | ip => simp [detects, tokens_marker, ip]
    | iban => simp [detects, iban]
    | paymentCard => simp [detects, number]
    | phone => simp [detects, number]
  simp [detect, none, sortCategories]

end DataVault.Workbook
