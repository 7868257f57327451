/-
Module: DataVault.Workbook.DetectionContext
Layer: Proofs
Purpose: What surrounds a text can hide what it contains, since a candidate takes in the digits or words beside it. A
  number that the search of the context leaves whole is found there; one that it merges with its neighbours is not, and
  then the category is detected only if another candidate of the context passes.
Imports: DataVault.Text.PatternContext, DataVault.Workbook.Detectors, DataVault.Workbook.ZipReader
Trusted boundary: human-reviewed spec
Main exports: Merges, Kept, FoundBeside, DetectedInContext, detection_in_context, detection_suppressed
-/
import DataVault.Text.PatternContext
import DataVault.Workbook.Detectors
import DataVault.Workbook.ZipReader

namespace DataVault.Workbook

open DataVault.Guard DataVault.Text DataVault.Text.Pattern

variable {runtime : WorkbookRuntime}

/-! ### Context

The text stands in its context between two blanks. Both texts end alike, so a place is compared by what is left behind
it: `back` and the blank before it more in the context than in the text. -/

/-- A text between two others. -/
def inContext (front text back : List Char) : List Char := front ++ ' ' :: (text ++ ' ' :: back)

/-- The pattern that finds the candidates of a category. -/
def categoryPattern (runtime : WorkbookRuntime) : Category → Pattern
  | .iban => ibanPattern
  | _ => numberPattern runtime

/-- The check that a candidate has to pass. -/
def passes (runtime : WorkbookRuntime) : Category → List Char → Bool
  | .iban, raw => containsIBAN runtime raw
  | _, raw => isCard (trimCandidate raw)

/-- What the pattern of a category finds in a text. -/
def candidates (runtime : WorkbookRuntime) (category : Category) (text : List Char) : List (List Char) :=
  (categoryPattern runtime category).search text

/-- Where a match of the text begins in the context. A number with which the text begins has no character before it to
take; in the context that is the blank. -/
def beginsAt (back : List Char) (one : Occurrence) : Nat :=
  one.start.rest.length + (back.length + 1) + if one.text.head?.any isDigit then 1 else 0

/-- Where a match of the text ends in the context. -/
def endsAt (back : List Char) (one : Occurrence) : Nat := one.stop.rest.length + (back.length + 1)

/-- A match of the context takes in what stands before a match of the text together with its beginning or, if it is a
number, its end together with what stands behind it. -/
def Merges (category : Category) (back : List Char) (one two : Occurrence) : Prop :=
  two.Covers (beginsAt back one) ∨ category ≠ .iban ∧ two.Covers (endsAt back one)

/-- A match of the context has the place of a match of the text. -/
def StandsFor (category : Category) (back : List Char) (one two : Occurrence) : Prop :=
  two.start.rest.length = beginsAt back one ∧ (category ≠ .iban → two.stop.rest.length = endsAt back one)

instance (category : Category) (back : List Char) (one two : Occurrence) : Decidable (Merges category back one two) :=
  inferInstanceAs (Decidable (_ ∨ _))

instance (category : Category) (back : List Char) (one two : Occurrence) :
    Decidable (StandsFor category back one two) :=
  inferInstanceAs (Decidable (_ ∧ _))

/-- A match of the text passes the check, and no match that the search of the context makes merges it. -/
def Kept (runtime : WorkbookRuntime) (category : Category) (front text back : List Char) : Prop :=
  ∃ one ∈ (categoryPattern runtime category).occurrences text, passes runtime category one.text = true ∧
    ∀ two ∈ (categoryPattern runtime category).occurrences (inContext front text back), ¬Merges category back one two

/-- A match of the context passes the check that has the place of no match of the text which does. -/
def FoundBeside (runtime : WorkbookRuntime) (category : Category) (front text back : List Char) : Prop :=
  ∃ two ∈ (categoryPattern runtime category).occurrences (inContext front text back),
    passes runtime category two.text = true ∧
      ∀ one ∈ (categoryPattern runtime category).occurrences text, passes runtime category one.text = true →
        ¬StandsFor category back one two

instance (runtime : WorkbookRuntime) (category : Category) (front text back : List Char) :
    Decidable (Kept runtime category front text back) :=
  inferInstanceAs (Decidable (∃ one ∈ _, _ ∧ _))

instance (runtime : WorkbookRuntime) (category : Category) (front text back : List Char) :
    Decidable (FoundBeside runtime category front text back) :=
  inferInstanceAs (Decidable (∃ two ∈ _, _ ∧ _))

/-- A match that has its place is merged by no match of the same search. -/
theorem not_merges_of_standsFor {pattern : Pattern} {text back : List Char} {category : Category}
    {one two three : Occurrence} (mem : two ∈ pattern.occurrences text) (stands : StandsFor category back one two)
    (other : three ∈ pattern.occurrences text) : ¬Merges category back one three := by
  have apart := occurrences_apart mem other
  have shrinks := (ends_suffix pattern two.start two.stop
    (List.mem_of_head? (mem_occurrencesFrom mem).1)).length_le
  rcases stands with ⟨begins, ends_⟩
  rintro (⟨before, behind⟩ | ⟨number, before, behind⟩)
  · rw [← begins] at before behind
    rcases apart with same | beyond | within_
    · rw [← same] at behind
      exact Nat.lt_irrefl _ behind
    · omega
    · omega
  · rw [← ends_ number] at before behind
    rcases apart with same | beyond | within_
    · rw [← same] at before
      exact Nat.lt_irrefl _ before
    · omega
    · omega

/-- A match that begins in the context where one of the text does, and that no other reaches into, is made. -/
theorem made_in_context {pattern : Pattern} {category : Category} {front text back front' mid : List Char}
    {one : Occurrence} {stop : Position} (split : inContext front text back = front' ++ mid)
    (begins : mid.length = beginsAt back one)
    (whole : ∀ two ∈ pattern.occurrences (inContext front text back), ¬Merges category back one two)
    (first : (pattern.ends ⟨front'.getLast?, mid⟩).head? = some stop) :
    ⟨⟨front'.getLast?, mid⟩, stop⟩ ∈ pattern.occurrences (inContext front text back) := by
  rw [split] at whole ⊢
  refine mem_occurrences (fun two mem covers => whole two mem (.inl ?_)) first
  rw [← begins]
  exact covers

/-- Behind the text no first match ends that begins where a number of the text does: it would merge its end. -/
theorem not_runs_on {pattern : Pattern} {category : Category} (number : category ≠ .iban)
    {front text back front' mid : List Char} {one : Occurrence} {stop : Position}
    (split : inContext front text back = front' ++ mid) (begins : mid.length = beginsAt back one)
    (shorter : one.stop.rest.length < one.start.rest.length)
    (whole : ∀ two ∈ pattern.occurrences (inContext front text back), ¬Merges category back one two)
    (first : (pattern.ends ⟨front'.getLast?, mid⟩).head? = some stop) : ¬stop.rest.length < (' ' :: back).length := by
  intro runs
  refine whole _ (made_in_context split begins whole first) (.inr ⟨number, ?_, ?_⟩)
  · simp only [endsAt, List.length_cons] at runs ⊢
    omega
  · simp only [endsAt, begins, beginsAt]
    omega

/-- What stands before a place of the text stands before it in the context, or the blank does. -/
theorem before_in_context (front skipped : List Char) :
    (front ++ ' ' :: skipped).getLast? = skipped.getLast?.or (some ' ') := by
  rw [List.getLast?_append, getLast?_cons_or]

/-! ### The patterns -/

/-- The first four characters of an account number, at the beginning of a word. -/
def ibanHead (tail : Pattern) : Pattern :=
  .seq .wordBoundary <| .seq (.repeated 2 2 (.char Char.isAlpha)) <| .seq (.repeated 2 2 (.char isDigit)) tail

/-- One more letter or digit, perhaps behind a blank. -/
def ibanStep : Pattern := .seq (.repeated 0 1 (.char (· = ' '))) (.char Char.isAlphanum)

theorem ibanPattern_eq : ibanPattern = ibanHead (.seq (.repeated 11 30 ibanStep) .wordBoundary) := rfl

/-- A candidate behind the character before it. -/
def numberTail (runtime : WorkbookRuntime) : Pattern :=
  .seq (.repeated 0 1 (.char (· = '+'))) <| .seq (.char isDigit) <|
    .seq (.repeated 4 32 (.char fun c => isDigit c || c = ' ' || c = '(' || c = ')' || c = '-')) <|
      .seq (.char isDigit) (.except fun c => runtime.isLetter c || isDigit c)

theorem numberPattern_eq (runtime : WorkbookRuntime) : numberPattern runtime =
    .seq (.alt .start (.char fun c => !(runtime.isLetter c || isDigit c))) (numberTail runtime) := rfl

/-! ### Numbers in context

A candidate begins with the character before its number, which is neither a letter nor a digit; at the start of a text
it may begin with the number itself. So a number with which the text begins is one character longer in the context, and
every other one is found there as it is in the text. -/

theorem numberTail_blind (blank : runtime.isLetter ' ' = false) : (numberTail runtime).EndsBefore ' ' := by
  have unseen : (runtime.isLetter ' ' || isDigit ' ') = false := by
    rw [blank]
    rfl
  exact ⟨trivial, trivial, trivial, trivial, unseen⟩

theorem numberPattern_blind (blank : runtime.isLetter ' ' = false) : (numberPattern runtime).EndsBefore ' ' :=
  ⟨⟨trivial, trivial⟩, numberTail_blind blank⟩

/-- A candidate does not depend on what stands before its sign. -/
theorem numberTail_before (before before' : Option Char) (rest : List Char) :
    (numberTail runtime).ends ⟨before, rest⟩ = (numberTail runtime).ends ⟨before', rest⟩ := by
  cases rest with
  | nil => rfl
  | cons c rest =>
      by_cases plus : c = '+'
      · subst plus
        rfl
      · simp [numberTail, ends, greedy, plus]

/-- A number begins with its sign or a digit. -/
theorem numberTail_none {before : Option Char} {c : Char} {rest : List Char} (plus : c ≠ '+')
    (digit : isDigit c = false) : (numberTail runtime).ends ⟨before, c :: rest⟩ = [] := by
  simp [numberTail, ends, greedy, plus, digit]

/-- Behind a character a match does not begin with a digit. -/
theorem number_begins {d : Char} {rest : List Char} {stop : Position}
    (mem : stop ∈ (numberPattern runtime).ends ⟨some d, rest⟩) : rest.head?.any isDigit = false := by
  rcases List.mem_flatMap.mp mem with ⟨anchored, begins, _⟩
  rcases List.mem_append.mp begins with start | other
  · cases start
  · rcases mem_char.mp other with ⟨c, text, kind, _⟩
    dsimp only at text
    simp only [Bool.not_eq_true', Bool.or_eq_false_iff] at kind
    rw [text, List.head?_cons, Option.any_some, kind.2]

/-- At the start of a text a candidate may begin with its first character, or behind it as anywhere else. -/
theorem number_at_start (c : Char) (rest : List Char) :
    (numberPattern runtime).ends ⟨none, c :: rest⟩ =
      (numberTail runtime).ends ⟨none, c :: rest⟩ ++ (numberPattern runtime).ends ⟨some ' ', c :: rest⟩ := by
  show (⟨none, c :: rest⟩ :: (Pattern.char fun c => !(runtime.isLetter c || isDigit c)).ends
    ⟨none, c :: rest⟩).flatMap (numberTail runtime).ends = _
  rw [List.flatMap_cons]
  rfl

/-- A blank is a character before a number, also at the start of a text. -/
theorem number_after_blank (blank : runtime.isLetter ' ' = false) (before : Option Char) (rest : List Char) :
    (numberPattern runtime).ends ⟨before, ' ' :: rest⟩ = (numberTail runtime).ends ⟨none, rest⟩ := by
  have anchor : (Pattern.char fun c => !(runtime.isLetter c || isDigit c)).ends ⟨before, ' ' :: rest⟩ =
      [⟨some ' ', rest⟩] := by
    simp [ends, blank, show isDigit ' ' = false from rfl]
  have skipped : (numberTail runtime).ends ⟨before, ' ' :: rest⟩ = [] := numberTail_none (by decide) (by decide)
  have start : (Pattern.start.ends ⟨before, ' ' :: rest⟩).flatMap (numberTail runtime).ends = [] := by
    rw [ends]
    split
    · rw [List.flatMap_singleton, skipped]
    · rfl
  rw [numberPattern_eq, ends, ends, List.flatMap_append, start, anchor, List.nil_append, List.flatMap_singleton]
  exact numberTail_before _ _ _

theorem trimCandidate_blank (raw : List Char) : trimCandidate (' ' :: raw) = trimCandidate raw := by
  have space : isSpace ' ' = true := by decide
  simp [trimCandidate, space]

/-- A candidate that begins with a sign is no card. -/
theorem not_card_plus (raw : List Char) : isCard (trimCandidate ('+' :: raw)) = false := by
  have sign : isSpace '+' = false := by decide
  have kept : ((('+' :: raw).dropWhile isSpace).reverse.dropWhile isSpace).reverse.head? = some '+' := by
    rw [List.dropWhile_cons_of_neg (by simp [sign]), List.reverse_cons, List.dropWhile_append]
    split
    · simp [sign]
    · simp
  have begins : (trimCandidate ('+' :: raw)).head? = some '+' := by
    unfold trimCandidate
    cases trimmed : ((('+' :: raw).dropWhile isSpace).reverse.dropWhile isSpace).reverse with
    | nil =>
        rw [trimmed] at kept
        cases kept
    | cons c rest =>
        rw [trimmed] at kept
        rcases Option.some.inj kept with rfl
        simp
  simp [isCard, begins]

/-- A candidate takes a character at least. -/
theorem number_text {place stop : Position} (first : ((numberPattern runtime).ends place).head? = some stop) :
    place.rest = Occurrence.text ⟨place, stop⟩ ++ stop.rest ∧ stop.rest.length < place.rest.length := by
  have mem := List.mem_of_head? first
  rcases ends_eaten _ _ _ mem with ⟨eaten, taken, _⟩
  refine ⟨by rw [Occurrence.text_eaten taken]; exact taken, ?_⟩
  rcases List.mem_flatMap.mp mem with ⟨anchored, begins, number⟩
  rcases List.mem_flatMap.mp number with ⟨signed, plus, digits⟩
  rcases List.mem_flatMap.mp digits with ⟨begun, digit, rest⟩
  rcases mem_char.mp digit with ⟨c, text, _⟩
  have one := (ends_suffix _ place anchored begins).length_le
  have two := (ends_suffix _ anchored signed plus).length_le
  have three := (ends_suffix _ begun stop rest).length_le
  rw [text, List.length_cons] at two
  omega

/-- A number with which the text begins is found behind the blank before the text. -/
theorem number_kept_first (blank : runtime.isLetter ' ' = false) {category : Category} (number : category ≠ .iban)
    {front back rest : List Char} {c : Char} {stop : Position} (digit : isDigit c = true)
    (first : ((numberPattern runtime).ends ⟨none, c :: rest⟩).head? = some stop)
    (card : isCard (trimCandidate (Occurrence.text ⟨⟨none, c :: rest⟩, stop⟩)) = true)
    (whole : ∀ two ∈ (numberPattern runtime).occurrences (inContext front (c :: rest) back),
      ¬Merges category back ⟨⟨none, c :: rest⟩, stop⟩ two) :
    ∃ two ∈ (numberPattern runtime).occurrences (inContext front (c :: rest) back),
      isCard (trimCandidate two.text) = true := by
  rcases number_text first with ⟨taken, shorter⟩
  have tail : ((numberTail runtime).ends ⟨none, c :: rest⟩).head? = some stop := by
    have silent : (numberPattern runtime).ends ⟨some ' ', c :: rest⟩ = [] := by
      rw [List.eq_nil_iff_forall_not_mem]
      intro stop' there
      have begins := number_begins there
      rw [List.head?_cons, Option.any_some, digit] at begins
      cases begins
    rw [number_at_start, silent, List.append_nil] at first
    exact first
  have begins : (' ' :: (c :: rest ++ ' ' :: back)).length = beginsAt back ⟨⟨none, c :: rest⟩, stop⟩ := by
    have direct : (Occurrence.text ⟨⟨none, c :: rest⟩, stop⟩).head?.any isDigit = true := by
      rw [Occurrence.head?_text shorter, List.head?_cons, Option.any_some, digit]
    rw [beginsAt, direct]
    simp only [List.length_cons, List.length_append, if_true]
  have here : (numberPattern runtime).ends ⟨front.getLast?, ' ' :: (c :: rest ++ ' ' :: back)⟩ =
      (numberTail runtime).ends (Position.extend (' ' :: back) ⟨none, c :: rest⟩) :=
    number_after_blank blank _ _
  rcases head?_extend (numberTail_blind blank) back tail with same | ⟨beyond, longer, runs⟩
  · rw [← here] at same
    have longer : ' ' :: (c :: rest ++ ' ' :: back) =
        (' ' :: Occurrence.text ⟨⟨none, c :: rest⟩, stop⟩) ++ (stop.extend (' ' :: back)).rest := by
      show _ = ' ' :: (Occurrence.text _ ++ (stop.rest ++ ' ' :: back))
      rw [← List.append_assoc, ← taken]
    have text : Occurrence.text ⟨⟨front.getLast?, ' ' :: (c :: rest ++ ' ' :: back)⟩, stop.extend (' ' :: back)⟩ =
        ' ' :: Occurrence.text ⟨⟨none, c :: rest⟩, stop⟩ := Occurrence.text_eaten longer
    refine ⟨_, made_in_context rfl begins whole same, ?_⟩
    rw [text, trimCandidate_blank]
    exact card
  · rw [← here] at longer
    exact (not_runs_on number rfl begins shorter whole longer runs).elim

/-- Every other number is found where it is in the text. -/
theorem number_kept_later (blank : runtime.isLetter ' ' = false) {category : Category} (number : category ≠ .iban)
    {front back rest : List Char} (skipped : List Char) {d : Char} {stop : Position}
    (before : skipped.getLast?.or (some ' ') = some d)
    (first : ((numberPattern runtime).ends ⟨some d, rest⟩).head? = some stop)
    (card : isCard (trimCandidate (Occurrence.text ⟨⟨some d, rest⟩, stop⟩)) = true)
    (whole : ∀ two ∈ (numberPattern runtime).occurrences (inContext front (skipped ++ rest) back),
      ¬Merges category back ⟨⟨some d, rest⟩, stop⟩ two) :
    ∃ two ∈ (numberPattern runtime).occurrences (inContext front (skipped ++ rest) back),
      isCard (trimCandidate two.text) = true := by
  rcases number_text first with ⟨taken, shorter⟩
  have split : inContext front (skipped ++ rest) back = (front ++ ' ' :: skipped) ++ (rest ++ ' ' :: back) := by
    simp [inContext]
  have begins : (rest ++ ' ' :: back).length = beginsAt back ⟨⟨some d, rest⟩, stop⟩ := by
    rw [beginsAt, Occurrence.head?_text shorter, number_begins (List.mem_of_head? first)]
    simp only [List.length_cons, List.length_append, Bool.false_eq_true, if_false, Nat.add_zero]
  have here : (⟨(front ++ ' ' :: skipped).getLast?, rest ++ ' ' :: back⟩ : Position) =
      Position.extend (' ' :: back) ⟨some d, rest⟩ := by
    rw [before_in_context, before]
    rfl
  rcases head?_extend (numberPattern_blind blank) back first with same | ⟨beyond, longer, runs⟩
  · rw [← here] at same
    have longer : rest ++ ' ' :: back =
        Occurrence.text ⟨⟨some d, rest⟩, stop⟩ ++ (stop.extend (' ' :: back)).rest := by
      rw [Position.extend, ← List.append_assoc, ← taken]
    have text : Occurrence.text ⟨⟨(front ++ ' ' :: skipped).getLast?, rest ++ ' ' :: back⟩, stop.extend (' ' :: back)⟩ =
        Occurrence.text ⟨⟨some d, rest⟩, stop⟩ := Occurrence.text_eaten longer
    refine ⟨_, made_in_context split begins whole same, ?_⟩
    rw [text]
    exact card
  · rw [← here] at longer
    exact (not_runs_on number split begins shorter whole longer runs).elim

/-- A number that no match of the context merges is found there. -/
theorem number_kept (blank : runtime.isLetter ' ' = false) {category : Category} (number : category ≠ .iban)
    {front text back : List Char} {one : Occurrence} (mem : one ∈ (numberPattern runtime).occurrences text)
    (card : isCard (trimCandidate one.text) = true)
    (whole : ∀ two ∈ (numberPattern runtime).occurrences (inContext front text back), ¬Merges category back one two) :
    ∃ two ∈ (numberPattern runtime).occurrences (inContext front text back),
      isCard (trimCandidate two.text) = true := by
  rcases one with ⟨⟨before, rest⟩, stop⟩
  rcases mem_occurrencesFrom mem with ⟨first, skipped, parts, place⟩
  rcases number_text first with ⟨taken, shorter⟩
  dsimp only at first parts place taken shorter
  subst parts
  rw [Option.or_none] at place
  cases behind : skipped.getLast? with
  | some d =>
      rw [behind] at place
      subst place
      exact number_kept_later blank number skipped (by rw [behind]; rfl) first card whole
  | none =>
      rw [behind] at place
      subst place
      obtain rfl : skipped = [] := List.getLast?_eq_none_iff.mp behind
      rcases rest with _ | ⟨c, rest⟩
      · cases shorter
      cases digit : isDigit c with
      | true => exact number_kept_first blank number digit first card whole
      | false =>
          have plus : c ≠ '+' := by
            rintro rfl
            have begins : (Occurrence.text ⟨⟨none, '+' :: rest⟩, stop⟩).head? = some '+' :=
              Occurrence.head?_text shorter
            cases raw : Occurrence.text ⟨⟨none, '+' :: rest⟩, stop⟩ with
            | nil =>
                rw [raw] at begins
                cases begins
            | cons c raw' =>
                rw [raw] at begins card
                rcases Option.some.inj begins with rfl
                rw [not_card_plus] at card
                cases card
          rw [number_at_start, numberTail_none plus digit, List.nil_append] at first
          exact number_kept_later blank number [] rfl first card whole

/-! ### Account numbers -/

theorem mem_ibanHead {tail : Pattern} {before : Option Char} {rest : List Char} {place' : Position}
    (mem : place' ∈ (ibanHead tail).ends ⟨before, rest⟩) :
    ∃ a b c d behind, rest = a :: b :: c :: d :: behind ∧ before.any isWord = false ∧ (a.isAlpha = true ∧
      b.isAlpha = true ∧ isDigit c = true ∧ isDigit d = true) ∧ place' ∈ tail.ends ⟨some d, behind⟩ := by
  rcases List.mem_flatMap.mp mem with ⟨bounded, boundary, letter⟩
  rcases List.mem_flatMap.mp letter with ⟨lettered, letters, digit⟩
  rcases List.mem_flatMap.mp digit with ⟨numbered, digits, ended⟩
  rcases mem_greedy.mp letters with ⟨count, least, most, letters⟩
  rcases mem_greedy.mp digits with ⟨count', least', most', digits⟩
  have two : count = 2 := by omega
  have two' : count' = 2 := by omega
  subst two two'
  cases letters with
  | cons first letters =>
  cases letters with
  | cons second letters =>
  cases letters
  cases digits with
  | cons third digits =>
  cases digits with
  | cons fourth digits =>
  cases digits
  rcases mem_char.mp first with ⟨a, aText, aLetter, _⟩
  rcases mem_char.mp second with ⟨b, bText, bLetter, _⟩
  rcases mem_char.mp third with ⟨c, cText, cDigit, _⟩
  rcases mem_char.mp fourth with ⟨d, dText, dDigit, last⟩
  rcases mem_wordBoundary.mp boundary with ⟨rfl, differs⟩
  dsimp only at aText
  have end_ : numbered = ⟨some d, numbered.rest⟩ := by rw [← last]
  refine ⟨a, b, c, d, numbered.rest, ?_, ?_, ⟨aLetter, bLetter, cDigit, dDigit⟩, ?_⟩
  · rw [aText, bText, cText, dText]
  · have word : isWord a = true := by simp [isWord, Char.isAlphanum, aLetter]
    rw [aText, List.head?_cons, Option.any_some, word] at differs
    simpa using differs
  · rw [end_] at ended
    exact ended

/-- Behind its first four characters a candidate has one beginning. -/
theorem ibanHead_ends {tail : Pattern} {before : Option Char} (bounded : before.any isWord = false) {a b c d : Char}
    (kinds : a.isAlpha = true ∧ b.isAlpha = true ∧ isDigit c = true ∧ isDigit d = true) (behind : List Char) :
    (ibanHead tail).ends ⟨before, a :: b :: c :: d :: behind⟩ = tail.ends ⟨some d, behind⟩ := by
  rcases kinds with ⟨aLetter, bLetter, cDigit, dDigit⟩
  have word : isWord a = true := by simp [isWord, Char.isAlphanum, aLetter]
  simp [ibanHead, ends, greedy, bounded, word, aLetter, bLetter, cDigit, dDigit]

/-- At the beginning of a word it does not matter what stands before it. -/
theorem ibanHead_before {tail : Pattern} {before before' : Option Char} (bounded : before.any isWord = false)
    (bounded' : before'.any isWord = false) {c : Char} {rest : List Char} :
    (ibanHead tail).ends ⟨before, c :: rest⟩ = (ibanHead tail).ends ⟨before', c :: rest⟩ := by
  simp only [ibanHead, ends, greedy, bounded, bounded']
  split
  · rfl
  · rfl

theorem mem_ibanStep {place place' : Position} (mem : place' ∈ ibanStep.ends place) :
    ∃ c, c.isAlphanum = true ∧ place'.before = some c ∧
      (place.rest = c :: place'.rest ∨ place.rest = ' ' :: c :: place'.rest) := by
  rcases List.mem_flatMap.mp mem with ⟨middle, blank, mem⟩
  rcases mem_greedy.mp blank with ⟨count, _, few, chain⟩
  rcases chain_char chain with ⟨eaten, taken, length, each⟩
  rcases mem_char.mp mem with ⟨c, text, kind, last⟩
  refine ⟨c, kind, last, ?_⟩
  rw [taken, text]
  cases eaten with
  | nil => exact .inl rfl
  | cons d eaten =>
      have alone : eaten = [] := by
        rw [List.length_cons] at length
        exact List.length_eq_zero_iff.mp (by omega)
      have same : d = ' ' := by simpa using each d List.mem_cons_self
      rw [alone, same]
      exact .inr rfl

theorem ibanStep_plain {c : Char} (kind : c.isAlphanum = true) (before : Option Char) (rest : List Char) :
    ibanStep.ends ⟨before, c :: rest⟩ = [⟨some c, rest⟩] := by
  have filled : c ≠ ' ' := by
    rintro rfl
    cases kind
  simp [ibanStep, ends, greedy, filled, kind]

theorem ibanStep_spaced {c : Char} (kind : c.isAlphanum = true) (before : Option Char) (rest : List Char) :
    ibanStep.ends ⟨before, ' ' :: c :: rest⟩ = [⟨some c, rest⟩] := by
  simp [ibanStep, ends, greedy, kind, show Char.isAlphanum ' ' = false from rfl]

/-- A step goes on in one way at most. -/
theorem ibanStep_single (place : Position) : (ibanStep.ends place).length ≤ 1 := by
  cases parts : ibanStep.ends place with
  | nil => simp
  | cons place' others =>
      rcases mem_ibanStep (parts ▸ List.mem_cons_self : place' ∈ ibanStep.ends place) with ⟨c, kind, _, plain | spaced⟩
      · rcases place with ⟨before, rest⟩
        dsimp only at plain
        rw [plain, ibanStep_plain kind] at parts
        rw [← parts]
        rfl
      · rcases place with ⟨before, rest⟩
        dsimp only at spaced
        rw [spaced, ibanStep_spaced kind] at parts
        rw [← parts]
        rfl

theorem chain_suffix {count : Nat} {place place' : Position} (chain : Chain ibanStep.ends count place place') :
    place'.rest <:+ place.rest :=
  chain.relates (fun _ => List.suffix_refl _) (fun first second => second.trans first) (ends_suffix ibanStep)

theorem ibanStep_end (before : Option Char) : ibanStep.ends ⟨before, []⟩ = [] := rfl

/-- Steps that go over the end of a text come to it on the way, and the next text goes on with a letter or a digit. -/
theorem chain_crosses {count : Nat} {before : Option Char} {front back : List Char} {place' : Position}
    (chain : Chain ibanStep.ends count ⟨before, front ++ ' ' :: back⟩ place')
    (beyond : place'.rest.length ≤ back.length) :
    back.head?.any Char.isAlphanum = true ∧ ∃ fewer before', fewer < count ∧
      Chain ibanStep.ends fewer ⟨before, front⟩ ⟨before', []⟩ ∧ (fewer = 0 ∨ before'.any Char.isAlphanum = true) := by
  induction count generalizing before front with
  | zero =>
      cases chain
      simp only [List.length_append, List.length_cons] at beyond
      omega
  | succ count ih =>
      cases chain with
      | @cons _ _ middle _ here rest =>
          rcases middle with ⟨last, left⟩
          -- one step within the text
          have further : ∀ c front', last = some c → c.isAlphanum = true → left = front' ++ ' ' :: back →
              (⟨some c, front'⟩ : Position) ∈ ibanStep.ends ⟨before, front⟩ →
                back.head?.any Char.isAlphanum = true ∧ ∃ fewer before', fewer < count + 1 ∧
                  Chain ibanStep.ends fewer ⟨before, front⟩ ⟨before', []⟩ ∧
                    (fewer = 0 ∨ before'.any Char.isAlphanum = true) := by
            rintro c front' rfl kind rfl step
            rcases ih rest with ⟨goes, fewer, before', less, chain, ends⟩
            refine ⟨goes, fewer + 1, before', Nat.succ_lt_succ less, .cons step chain, .inr ?_⟩
            rcases ends with rfl | ends
            · cases chain
              simpa using kind
            · exact ends
          rcases mem_ibanStep here with ⟨c, kind, final, plain | spaced⟩
          · cases front with
            | nil =>
                rcases List.cons.inj plain with ⟨rfl, _⟩
                cases kind
            | cons d front =>
                rcases List.cons.inj plain with ⟨rfl, tail⟩
                exact further d front final kind tail.symm (by rw [ibanStep_plain kind]; exact List.mem_cons_self)
          · cases front with
            | nil =>
                rcases List.cons.inj spaced with ⟨_, tail⟩
                refine ⟨by rw [tail]; simpa using kind, 0, before, Nat.succ_pos _, .nil _, .inl rfl⟩
            | cons d front =>
                rcases List.cons.inj spaced with ⟨rfl, tail⟩
                cases front with
                | nil =>
                    rcases List.cons.inj tail with ⟨rfl, _⟩
                    cases kind
                | cons e front =>
                    rcases List.cons.inj tail with ⟨rfl, tail'⟩
                    exact further e front final kind tail'.symm
                      (by rw [ibanStep_spaced kind]; exact List.mem_cons_self)

theorem mem_ibanPattern {before : Option Char} {rest : List Char} {place' : Position}
    (mem : place' ∈ ibanPattern.ends ⟨before, rest⟩) :
    ∃ a b c d behind count, rest = a :: b :: c :: d :: behind ∧ before.any isWord = false ∧ (a.isAlpha = true ∧
      b.isAlpha = true ∧ isDigit c = true ∧ isDigit d = true) ∧ 11 ≤ count ∧ count ≤ 30 ∧
        Chain ibanStep.ends count ⟨some d, behind⟩ place' := by
  rw [ibanPattern_eq] at mem
  rcases mem_ibanHead mem with ⟨a, b, c, d, behind, text, bounded, kinds, ended⟩
  rcases List.mem_flatMap.mp ended with ⟨reached, run, boundary⟩
  rcases mem_greedy.mp run with ⟨count, enough, few, chain⟩
  rw [(mem_wordBoundary.mp boundary).1]
  exact ⟨a, b, c, d, behind, count, text, bounded, kinds, enough, few, chain⟩

theorem letter_blank {c : Char} (letter : c.isAlpha = true) : c ≠ ' ' := by
  rintro rfl
  cases letter

/-- The letters stand behind the digits. -/
theorem digit_of_letter {c : Char} (letter : c.isAlpha = true) : isDigit c = false := by
  have nine : '9'.val.toNat = 57 := rfl
  have upper : 'A'.val.toNat = 65 := rfl
  have lower : 'a'.val.toNat = 97 := rfl
  have range : ('A'.val ≤ c.val ∧ c.val ≤ 'Z'.val) ∨ ('a'.val ≤ c.val ∧ c.val ≤ 'z'.val) := by
    rcases (Bool.or_eq_true c.isUpper c.isLower).mp letter with capital | small
    · exact .inl (of_decide_eq_true capital)
    · exact .inr (Bool.and_eq_true_iff.mp small |>.imp of_decide_eq_true of_decide_eq_true)
  simp only [UInt32.le_iff_toNat_le] at range
  rw [isDigit, Bool.and_eq_false_iff]
  right
  rw [decide_eq_false_iff_not, Char.le_def, UInt32.le_iff_toNat_le]
  omega

theorem digit_blank {c : Char} (digit : isDigit c = true) : c ≠ ' ' := by
  rintro rfl
  cases digit

/-- A candidate that goes over the end of a text has its first four characters in it and comes to its end by steps. -/
theorem iban_crosses {before : Option Char} {front back : List Char} {place' : Position}
    (mem : place' ∈ ibanPattern.ends ⟨before, front ++ ' ' :: back⟩) (beyond : place'.rest.length ≤ back.length) :
    back.head?.any Char.isAlphanum = true ∧ ∃ a b c d behind fewer before', front = a :: b :: c :: d :: behind ∧
      before.any isWord = false ∧ (a.isAlpha = true ∧ b.isAlpha = true ∧ isDigit c = true ∧ isDigit d = true) ∧
        fewer < 30 ∧ Chain ibanStep.ends fewer ⟨some d, behind⟩ ⟨before', []⟩ ∧
          (fewer = 0 ∨ before'.any Char.isAlphanum = true) := by
  rcases mem_ibanPattern mem with ⟨a, b, c, d, behind, count, text, bounded, kinds, _, few, chain⟩
  have first := letter_blank kinds.1
  have second := letter_blank kinds.2.1
  have third := digit_blank kinds.2.2.1
  have fourth := digit_blank kinds.2.2.2
  have parts : ∃ behind', front = a :: b :: c :: d :: behind' ∧ behind = behind' ++ ' ' :: back := by
    rcases front with _ | ⟨a', _ | ⟨b', _ | ⟨c', _ | ⟨d', behind'⟩⟩⟩⟩ <;>
      simp only [List.nil_append, List.cons_append, List.cons.injEq] at text
    · exact absurd text.1.symm first
    · exact absurd text.2.1.symm second
    · exact absurd text.2.2.1.symm third
    · exact absurd text.2.2.2.1.symm fourth
    · rcases text with ⟨rfl, rfl, rfl, rfl, rfl⟩
      exact ⟨behind', rfl, rfl⟩
  rcases parts with ⟨behind', split, rfl⟩
  rcases chain_crosses chain beyond with ⟨goes, fewer, before', less, chain', ends⟩
  exact ⟨goes, a, b, c, d, behind', fewer, before', split, bounded, kinds, by omega, chain', ends⟩

theorem ibanPattern_blind : ibanPattern.EndsBefore ' ' :=
  ⟨rfl, trivial, trivial, ⟨trivial, trivial⟩, rfl⟩

/-- Where the first match of the longer text runs on behind the text, the one in the text takes all that is left. -/
theorem iban_takes_rest {back : List Char} {place stop beyond : Position}
    (first : (ibanPattern.ends place).head? = some stop)
    (longer : (ibanPattern.ends (place.extend (' ' :: back))).head? = some beyond)
    (runs : beyond.rest.length < (' ' :: back).length) : stop.rest = [] := by
  have mem : beyond ∈ ibanPattern.ends ⟨place.before, place.rest ++ ' ' :: back⟩ := List.mem_of_head? longer
  rcases iban_crosses mem (Nat.le_of_lt_succ runs) with
    ⟨_, a, b, c, d, behind, fewer, before', split, bounded, kinds, less, chain, last⟩
  have dead : (11 ≤ fewer → (greedy ibanStep.ends 11 30 ⟨some d, behind⟩).head? = some ⟨before', []⟩) ∧
      (fewer < 11 → greedy ibanStep.ends 11 30 ⟨some d, behind⟩ = []) :=
    greedy_dead_end ibanStep_single chain (ibanStep_end before') (Nat.le_of_lt less)
  have alone : ibanPattern.ends place =
      (greedy ibanStep.ends 11 30 ⟨some d, behind⟩).flatMap Pattern.wordBoundary.ends := by
    have here : place = ⟨place.before, a :: b :: c :: d :: behind⟩ := by rw [← split]
    rw [here, ibanPattern_eq, ibanHead_ends bounded kinds]
    rfl
  rw [alone] at first
  rcases Nat.lt_or_ge fewer 11 with short | many
  · rw [dead.2 short] at first
    cases first
  · have word : before'.any isWord = true := by
      rcases last with none | kind
      · omega
      · cases before' with
        | none => cases kind
        | some c => simpa [isWord] using .inl kind
    have stops : Pattern.wordBoundary.ends ⟨before', []⟩ = [⟨before', []⟩] := by simp [ends, word]
    cases begins : greedy ibanStep.ends 11 30 ⟨some d, behind⟩ with
    | nil =>
        rw [begins] at first
        cases first
    | cons leading others =>
        have same := dead.1 many
        rw [begins] at same
        rw [begins, Option.some.inj same, List.flatMap_cons, stops] at first
        rw [← Option.some.inj first]

theorem containsIBAN_longer {found back : List Char} {taken : Nat} (contained : containsIBAN runtime found = true) :
    containsIBAN runtime (found ++ (' ' :: back).take taken) = true := by
  simp only [containsIBAN, List.any_eq_true, Bool.and_eq_true, Bool.or_eq_true, decide_eq_true_eq] at contained ⊢
  rcases contained with ⟨stop, mem, ⟨least, stops⟩, valid⟩
  have inside : stop ≤ found.length := Nat.le_of_lt_succ (List.mem_range.mp mem)
  have same : (found ++ (' ' :: back).take taken).take stop = found.take stop := List.take_append_of_le_length inside
  refine ⟨stop, ?_, ⟨least, ?_⟩, by rw [same]; exact valid⟩
  · rw [List.mem_range, List.length_append]
    omega
  · rcases stops with last | blank
    · cases taken with
      | zero => exact .inl (by simpa using last)
      | succ taken => exact .inr (by rw [last]; simp)
    · rcases Nat.lt_or_eq_of_le inside with before | last
      · exact .inr (by rw [List.getElem?_append_left before]; exact blank)
      · rw [last, List.getElem?_eq_none (Nat.le_refl _)] at blank
        cases blank

/-- An account number into which no match of the context reaches is found there, perhaps with words behind it. -/
theorem iban_kept {front text back : List Char} {one : Occurrence} (mem : one ∈ ibanPattern.occurrences text)
    (valid : containsIBAN runtime one.text = true)
    (whole : ∀ two ∈ ibanPattern.occurrences (inContext front text back), ¬Merges .iban back one two) :
    ∃ two ∈ ibanPattern.occurrences (inContext front text back), containsIBAN runtime two.text = true := by
  rcases one with ⟨⟨before, rest⟩, stop⟩
  rcases mem_occurrencesFrom mem with ⟨first, skipped, parts, place⟩
  rcases ends_eaten _ _ _ (List.mem_of_head? first) with ⟨eaten, taken, _⟩
  dsimp only at first parts place taken
  subst parts
  rw [Option.or_none] at place
  have text : Occurrence.text ⟨⟨before, rest⟩, stop⟩ = eaten := Occurrence.text_eaten taken
  rw [text] at valid
  rcases mem_ibanPattern (List.mem_of_head? first) with
    ⟨a, b, c, d, behind, _, letters, bounded, kinds, enough, _, chain⟩
  have shorter : stop.rest.length < rest.length := by
    have steps := (chain_suffix chain).length_le
    dsimp only at steps
    rw [letters]
    simp only [List.length_cons]
    omega
  have split : inContext front (skipped ++ rest) back = (front ++ ' ' :: skipped) ++ (rest ++ ' ' :: back) := by
    simp [inContext]
  have begins : (rest ++ ' ' :: back).length = beginsAt back ⟨⟨before, rest⟩, stop⟩ := by
    have letter : isDigit a = false := digit_of_letter kinds.1
    have head : (Occurrence.text ⟨⟨before, rest⟩, stop⟩).head? = rest.head? := Occurrence.head?_text shorter
    rw [beginsAt, head, letters, List.head?_cons, Option.any_some, letter, List.length_append]
    rfl
  -- at the beginning of the text the blank takes the place of the start
  have moved : ibanPattern.ends ⟨(front ++ ' ' :: skipped).getLast?, rest⟩ = ibanPattern.ends ⟨before, rest⟩ := by
    rw [before_in_context, ibanPattern_eq, letters]
    rw [place] at bounded ⊢
    apply ibanHead_before _ bounded
    cases last : skipped.getLast? with
    | none => rfl
    | some e =>
        rw [last] at bounded
        exact bounded
  rw [← moved] at first
  rcases head?_extend ibanPattern_blind back first with same | ⟨beyond, longer, runs⟩
  · have made := made_in_context split begins whole same
    have text' : Occurrence.text ⟨⟨(front ++ ' ' :: skipped).getLast?, rest ++ ' ' :: back⟩,
        stop.extend (' ' :: back)⟩ = eaten := by
      apply Occurrence.text_eaten
      simp only [Position.extend, taken, List.append_assoc]
    refine ⟨_, made, ?_⟩
    rw [text']
    exact valid
  · have made := made_in_context split begins whole longer
    have all : rest = eaten := by rw [taken, iban_takes_rest first longer runs, List.append_nil]
    have text' : Occurrence.text ⟨⟨(front ++ ' ' :: skipped).getLast?, rest ++ ' ' :: back⟩, beyond⟩ =
        eaten ++ (' ' :: back).take ((' ' :: back).length - beyond.rest.length) := by
      rw [Occurrence.text, all, List.length_append, Nat.add_sub_assoc (Nat.le_of_lt runs), List.take_length_add_append]
    refine ⟨_, made, ?_⟩
    rw [text']
    exact containsIBAN_longer valid

/-! ### Detection in context -/

/-- The claim about one text in one context: with at most 100 candidates, what is detected in the text alone is
detected. -/
def DetectedInContext (runtime : WorkbookRuntime) (category : Category) (front text back : String) : Prop :=
  (candidates runtime category (front ++ " " ++ text ++ " " ++ back).toList).length ≤ 100 →
    category ∈ detect runtime text [category] none →
      category ∈ detect runtime (front ++ " " ++ text ++ " " ++ back) [category] none

instance (runtime : WorkbookRuntime) (category : Category) (front text back : String) :
    Decidable (DetectedInContext runtime category front text back) :=
  inferInstanceAs (Decidable (_ → _ → _))

theorem mem_detect {text : String} {category : Category} {region : Option String} :
    category ∈ detect runtime text [category] region ↔ detects runtime text.toList region category = true := by
  rw [detect, sortCategories, List.mem_insertionSort, List.mem_filter]
  cases category <;> simp

theorem toList_context (front text back : String) :
    (front ++ " " ++ text ++ " " ++ back).toList = inContext front.toList text.toList back.toList := by
  simp [inContext, String.toList_append]

/-- The category is detected if one of the first 100 matches passes the check. -/
theorem detects_iff {category : Category} (checked : category = .paymentCard ∨ category = .iban) {text : List Char} :
    detects runtime text none category = true ↔
      ∃ one ∈ ((categoryPattern runtime category).occurrences text).take 100,
        passes runtime category one.text = true := by
  rcases checked with rfl | rfl
  · simp [detects, passes, categoryPattern, search_eq, ← List.map_take]
  · simp [detects, passes, categoryPattern, search_eq, ← List.map_take]

/-- A text keeps in its context what is detected in it if and only if a number of it that passes the check is merged by
no match of the context, or a match of the context passes that is none of these numbers. -/
theorem detection_in_context (blank : runtime.isLetter ' ' = false) {category : Category}
    (checked : category = .paymentCard ∨ category = .iban) {front text back : String} :
    DetectedInContext runtime category front text back ↔
      ((candidates runtime category (front ++ " " ++ text ++ " " ++ back).toList).length ≤ 100 →
        category ∈ detect runtime text [category] none →
          Kept runtime category front.toList text.toList back.toList ∨
            FoundBeside runtime category front.toList text.toList back.toList) := by
  unfold DetectedInContext
  refine forall_congr' fun few => forall_congr' fun detected => ?_
  rw [toList_context, candidates, search_eq, List.length_map] at few
  rw [mem_detect, toList_context, detects_iff checked, List.take_of_length_le few]
  constructor
  · rintro ⟨two, made, passed⟩
    by_cases beside : FoundBeside runtime category front.toList text.toList back.toList
    · exact .inr beside
    · left
      by_contra merged
      refine beside ⟨two, made, passed, fun one mem alone stands => merged ⟨one, mem, alone, fun three other => ?_⟩⟩
      exact not_merges_of_standsFor made stands other
  · rintro (⟨one, mem, passed, whole⟩ | ⟨two, made, passed, _⟩)
    · rcases checked with rfl | rfl
      · exact number_kept blank (by decide) mem passed whole
      · exact iban_kept mem passed whole
    · exact ⟨two, made, passed⟩

/-- A card number behind other numbers, which a match of their own takes up. -/
theorem detection_in_context_numbers :
    .paymentCard ∈ detect archiveRuntime "4111 1111 1111 1111" [.paymentCard] none ∧
      DetectedInContext archiveRuntime .paymentCard "12345678901234567890 1234567890123" "4111 1111 1111 1111" "" :=
  ⟨by decide +kernel, (detection_in_context rfl (.inl rfl)).mpr fun _ _ => .inl (by decide +kernel)⟩

/-- A number behind a card number hides it, a word before an account number hides that. -/
theorem detection_suppressed :
    ¬DetectedInContext archiveRuntime .paymentCard "" "4111 1111 1111 1111" "12" ∧
      ¬DetectedInContext { archiveRuntime with isIBAN := (· = "GB82 WEST 1234 5698 7654 32") } .iban "AB12"
        "GB82 WEST 1234 5698 7654 32" "" := by
  decide +kernel

end DataVault.Workbook
