/-
Module: DataVault.Text.Pattern
Layer: Library
Purpose: Patterns over characters with the leftmost, greedy, backtracking meaning of regular expressions: a pattern
  lists the positions at which a match can end, the preferred one first, and a search goes through a text from
  left to right.
Imports: Mathlib.Data.List.Basic
Trusted boundary: none
Main exports: Position, Pattern, Pattern.ends, Pattern.search, Pattern.literal, Pattern.fullMatch, Pattern.Chain,
  Pattern.mem_greedy, Pattern.ends_eaten, Pattern.Passes, Pattern.ends_of_passes, Pattern.search_eq_nil
-/
import Mathlib.Data.List.Basic

namespace DataVault.Text

/-- A place in a text: the character before it and what follows. -/
structure Position where
  before : Option Char
  rest : List Char
deriving DecidableEq, Repr

/-- The patterns; `repeated` takes as many as it can, `except` looks ahead and consumes nothing. -/
inductive Pattern where
  | char (accepts : Char → Bool)
  | seq (first second : Pattern)
  | alt (first second : Pattern)
  | repeated (least most : Nat) (inner : Pattern)
  | start
  | wordBoundary
  | except (accepts : Char → Bool)

namespace Pattern

/-- `\w` without the flag for Unicode. -/
def isWord (c : Char) : Bool := c.isAlphanum || c = '_'

/-- The ends of `least` to `most` repetitions, longer ones first. -/
def greedy (one : Position → List Position) : Nat → Nat → Position → List Position
  | 0, 0, place => [place]
  | _ + 1, 0, _ => []
  | 0, most + 1, place => (one place).flatMap (greedy one 0 most) ++ [place]
  | least + 1, most + 1, place => (one place).flatMap (greedy one least most)

/-- Where a match that starts at a place can end, in the order of preference. -/
def ends : Pattern → Position → List Position
  | .char accepts, place =>
      match place.rest with
      | [] => []
      | c :: rest => if accepts c then [⟨some c, rest⟩] else []
  | .seq first second, place => (first.ends place).flatMap second.ends
  | .alt first second, place => first.ends place ++ second.ends place
  | .repeated least most inner, place => greedy inner.ends least most place
  | .start, place => if place.before.isNone then [place] else []
  | .wordBoundary, place =>
      if place.before.any isWord = place.rest.head?.any isWord then [] else [place]
  | .except accepts, place => if place.rest.head?.any accepts then [] else [place]

/-- The matches from a place on that do not overlap; an empty match moves the search on by one character. -/
def searchFrom (pattern : Pattern) : Nat → Position → List (List Char)
  | 0, _ => []
  | fuel + 1, place =>
      let next : List (List Char) :=
        match place.rest with
        | [] => []
        | c :: rest => searchFrom pattern fuel ⟨some c, rest⟩
      match pattern.ends place with
      | [] => next
      | place' :: _ =>
          let found := place.rest.take (place.rest.length - place'.rest.length)
          if found.isEmpty then [] :: next else found :: searchFrom pattern fuel place'

/-- All matches in a text. -/
def search (pattern : Pattern) (text : List Char) : List (List Char) :=
  pattern.searchFrom (text.length + 1) ⟨none, text⟩

/-- The characters of a text, one after another. -/
def literal : List Char → Pattern
  | [] => .repeated 0 0 .start
  | c :: rest => .seq (.char (· = c)) (literal rest)

/-- The whole text is a match, as between `^` and `$`. -/
def fullMatch (pattern : Pattern) (text : List Char) : Bool :=
  (pattern.ends ⟨none, text⟩).any fun place => place.rest.isEmpty

/-! ### The ends of a match

What a pattern does between a place and an end of a match, for each of its forms. A repetition is a chain of steps, so a
relation that every step keeps holds between the ends of the repetition. -/

theorem mem_char {accepts : Char → Bool} {place place' : Position} :
    place' ∈ (Pattern.char accepts).ends place ↔
      ∃ c, place.rest = c :: place'.rest ∧ accepts c = true ∧ place'.before = some c := by
  rcases place with ⟨before, rest⟩
  cases rest with
  | nil => simp [ends]
  | cons d rest =>
      simp only [ends]
      split
      case isTrue accepted =>
        rw [List.mem_singleton]
        constructor
        · rintro rfl
          exact ⟨d, rfl, accepted, rfl⟩
        · rintro ⟨c, text, _, last⟩
          rcases List.cons.inj text with ⟨rfl, text⟩
          rcases place' with ⟨before', rest'⟩
          cases text
          cases last
          rfl
      case isFalse refused =>
        constructor
        · intro mem
          cases mem
        · rintro ⟨c, text, accepted, _⟩
          rcases List.cons.inj text with ⟨rfl, _⟩
          exact absurd accepted refused

theorem mem_start {place place' : Position} :
    place' ∈ Pattern.start.ends place ↔ place' = place ∧ place.before = none := by
  simp only [ends, Option.isNone_iff_eq_none]
  split
  case isTrue begins => simp [begins]
  case isFalse later => simp [later]

theorem mem_wordBoundary {place place' : Position} :
    place' ∈ Pattern.wordBoundary.ends place ↔
      place' = place ∧ place.before.any isWord ≠ place.rest.head?.any isWord := by
  simp only [ends]
  split
  case isTrue same => simp [same]
  case isFalse differs => simp [differs]

theorem mem_except {accepts : Char → Bool} {place place' : Position} :
    place' ∈ (Pattern.except accepts).ends place ↔ place' = place ∧ place.rest.head?.any accepts = false := by
  simp only [ends]
  split
  case isTrue refused => simp [refused]
  case isFalse allowed => simp [allowed]

/-- So many repetitions of a step, one after another. -/
inductive Chain (one : Position → List Position) : Nat → Position → Position → Prop where
  | nil (place : Position) : Chain one 0 place place
  | cons {count : Nat} {place middle place' : Position} (here : middle ∈ one place)
      (rest : Chain one count middle place') : Chain one (count + 1) place place'

theorem Chain.relates {one : Position → List Position} {R : Position → Position → Prop} (refl : ∀ place, R place place)
    (trans : ∀ {place middle place'}, R place middle → R middle place' → R place place')
    (inner : ∀ place, ∀ place' ∈ one place, R place place') {count : Nat} {place place' : Position}
    (chain : Chain one count place place') : R place place' := by
  induction chain with
  | nil place => exact refl place
  | cons here _ ih => exact trans (inner _ _ here) ih

theorem mem_greedy {one : Position → List Position} {least most : Nat} {place place' : Position} :
    place' ∈ greedy one least most place ↔ ∃ count, least ≤ count ∧ count ≤ most ∧ Chain one count place place' := by
  induction most generalizing least place with
  | zero =>
      cases least with
      | zero =>
          constructor
          · intro mem
            rcases List.mem_singleton.mp mem with rfl
            exact ⟨0, Nat.le_refl _, Nat.le_refl _, .nil _⟩
          · rintro ⟨count, _, none, chain⟩
            cases chain with
            | nil => exact List.mem_singleton.mpr rfl
            | cons => omega
      | succ least =>
          constructor
          · intro mem
            cases mem
          · rintro ⟨count, some_, none, _⟩
            omega
  | succ most ih =>
      have further : ∀ least, place' ∈ (one place).flatMap (greedy one least most) ↔
          ∃ count, least ≤ count ∧ count ≤ most ∧ Chain one (count + 1) place place' := by
        intro least
        rw [List.mem_flatMap]
        constructor
        · rintro ⟨middle, here, there⟩
          rcases ih.mp there with ⟨count, enough, few, chain⟩
          exact ⟨count, enough, few, .cons here chain⟩
        · rintro ⟨count, enough, few, chain⟩
          cases chain with
          | cons here rest => exact ⟨_, here, ih.mpr ⟨count, enough, few, rest⟩⟩
      cases least with
      | zero =>
          rw [greedy, List.mem_append, further, List.mem_singleton]
          constructor
          · rintro (⟨count, enough, few, chain⟩ | rfl)
            · exact ⟨count + 1, Nat.zero_le _, Nat.succ_le_succ few, chain⟩
            · exact ⟨0, Nat.le_refl _, Nat.zero_le _, .nil _⟩
          · rintro ⟨count, _, few, chain⟩
            cases chain with
            | nil => exact .inr rfl
            | cons here rest => exact .inl ⟨_, Nat.zero_le _, Nat.le_of_succ_le_succ few, .cons here rest⟩
      | succ least =>
          rw [greedy, further]
          constructor
          · rintro ⟨count, enough, few, chain⟩
            exact ⟨count + 1, Nat.succ_le_succ enough, Nat.succ_le_succ few, chain⟩
          · rintro ⟨count, enough, few, chain⟩
            cases chain with
            | nil => omega
            | cons here rest =>
                exact ⟨_, Nat.le_of_succ_le_succ enough, Nat.le_of_succ_le_succ few, .cons here rest⟩

/-- The text between two places, and the character before the second one. -/
def Between (place place' : Position) (text : List Char) : Prop :=
  place.rest = text ++ place'.rest ∧ place'.before = text.getLast?.or place.before

theorem Between.refl (place : Position) : ∃ text, Between place place text := ⟨[], rfl, rfl⟩

theorem Between.trans {place middle place' : Position} (first : ∃ text, Between place middle text)
    (second : ∃ text, Between middle place' text) : ∃ text, Between place place' text := by
  obtain ⟨front, taken, before⟩ := first
  obtain ⟨back, left, after⟩ := second
  refine ⟨front ++ back, ?_, ?_⟩
  · rw [taken, left, List.append_assoc]
  · rw [after, before, List.getLast?_append, Option.or_assoc]

/-- The text that a match takes, and the character before its end. -/
theorem ends_eaten (pattern : Pattern) :
    ∀ place, ∀ place' ∈ pattern.ends place, ∃ eaten, Between place place' eaten := by
  induction pattern with
  | char accepts =>
      intro place place' mem
      obtain ⟨c, taken, _, last⟩ := mem_char.mp mem
      exact ⟨[c], taken, last⟩
  | seq first second ihFirst ihSecond =>
      intro place place' mem
      obtain ⟨middle, here, there⟩ := List.mem_flatMap.mp mem
      exact Between.trans (ihFirst place middle here) (ihSecond middle place' there)
  | alt first second ihFirst ihSecond =>
      intro place place' mem
      rcases List.mem_append.mp mem with mem | mem
      · exact ihFirst place place' mem
      · exact ihSecond place place' mem
  | repeated least most inner ih =>
      intro place place' mem
      obtain ⟨count, _, _, chain⟩ := mem_greedy.mp mem
      exact chain.relates (R := fun place place' => ∃ text, Between place place' text) Between.refl Between.trans ih
  | start =>
      intro place place' mem
      obtain ⟨rfl, _⟩ := mem_start.mp mem
      exact Between.refl _
  | wordBoundary =>
      intro place place' mem
      obtain ⟨rfl, _⟩ := mem_wordBoundary.mp mem
      exact Between.refl _
  | except accepts =>
      intro place place' mem
      obtain ⟨rfl, _⟩ := mem_except.mp mem
      exact Between.refl _

/-- A match ends in what is left of the text. -/
theorem ends_suffix (pattern : Pattern) : ∀ place, ∀ place' ∈ pattern.ends place, place'.rest <:+ place.rest := by
  intro place place' mem
  obtain ⟨eaten, taken, _⟩ := ends_eaten pattern place place' mem
  exact ⟨eaten, taken.symm⟩

theorem greedy_suffix {one : Position → List Position}
    (inner : ∀ place, ∀ place' ∈ one place, place'.rest <:+ place.rest) {least most : Nat} :
    ∀ place, ∀ place' ∈ greedy one least most place, place'.rest <:+ place.rest := by
  intro place place' mem
  obtain ⟨count, _, _, chain⟩ := mem_greedy.mp mem
  exact chain.relates (fun _ => List.suffix_refl _) (fun first second => second.trans first) inner

/-! ### Patterns that must meet a character -/

/-- Every match of the pattern contains a character that satisfies `P`. -/
def Passes (P : Char → Prop) : Pattern → Prop
  | .char accepts => ∀ c, accepts c = true → P c
  | .seq first second => first.Passes P ∨ second.Passes P
  | .alt first second => first.Passes P ∧ second.Passes P
  | .repeated least _ inner => 0 < least ∧ inner.Passes P
  | .start | .wordBoundary | .except _ => False

variable {P : Char → Prop}

/-- A pattern that must pass a character of a kind matches nowhere where there is none. -/
theorem ends_of_passes {pattern : Pattern} (passes : pattern.Passes P) {place : Position}
    (absent : ∀ c ∈ place.rest, ¬ P c) : pattern.ends place = [] := by
  induction pattern generalizing place with
  | char accepts =>
      simp only [ends]
      split
      · rfl
      · rename_i c rest text
        split
        · rename_i accepted
          refine absurd (passes c accepted) (absent c ?_)
          rw [text]
          exact List.mem_cons_self ..
        · rfl
  | seq first second ihFirst ihSecond =>
      rcases passes with passes | passes
      · rw [ends, ihFirst passes absent]
        rfl
      · rw [ends, List.flatMap_eq_nil_iff]
        intro middle mem
        exact ihSecond passes fun c inside => absent c ((ends_suffix first place middle mem).subset inside)
  | alt first second ihFirst ihSecond => rw [ends, ihFirst passes.1 absent, ihSecond passes.2 absent, List.nil_append]
  | repeated least most inner ih =>
      obtain ⟨some_least, passes⟩ := passes
      cases least with
      | zero => cases some_least
      | succ least =>
          cases most with
          | zero => rfl
          | succ most =>
              rw [ends, greedy, ih passes absent]
              rfl
  | start => exact passes.elim
  | wordBoundary => exact passes.elim
  | except accepts => exact passes.elim

theorem searchFrom_eq_nil {pattern : Pattern} (passes : pattern.Passes P) {fuel : Nat} {place : Position}
    (absent : ∀ c ∈ place.rest, ¬ P c) : pattern.searchFrom fuel place = [] := by
  induction fuel generalizing place with
  | zero => rfl
  | succ fuel ih =>
      simp only [searchFrom, ends_of_passes passes absent]
      split
      · rfl
      · rename_i c rest text
        refine ih fun c inside => absent c ?_
        rw [text]
        exact List.mem_cons_of_mem _ inside

theorem search_eq_nil {pattern : Pattern} (passes : pattern.Passes P) {text : List Char} (absent : ∀ c ∈ text, ¬ P c) :
    pattern.search text = [] := searchFrom_eq_nil passes absent

end Pattern

end DataVault.Text
