/-
Module: DataVault.Text.PatternContext
Layer: Library
Purpose: Matches in context. Behind a text whose end no look ahead can tell from the next character, a pattern ends
  within the text where it ends in the text alone. The matches that a search makes have places, none overlaps another,
  and a match that begins where no other one reaches over is made.
Imports: DataVault.Text.Pattern, Mathlib.Data.List.Pairwise
Trusted boundary: none
Main exports: Position.extend, Pattern.EndsBefore, Pattern.ends_inside, Pattern.head?_extend, Pattern.chain_char,
  Pattern.greedy_dead_end, Occurrence, Occurrence.Covers, Pattern.occurrences, Pattern.search_eq,
  Pattern.occurrences_apart, Pattern.mem_occurrences
-/
import DataVault.Text.Pattern
import Mathlib.Data.List.Pairwise

namespace DataVault.Text

/-- The same place with more text behind. -/
def Position.extend (more : List Char) (place : Position) : Position := { place with rest := place.rest ++ more }

/-- The text behind has not been touched. -/
def Position.within (more : List Char) (place : Position) : Bool := more.length ≤ place.rest.length

theorem Position.within_extend (more : List Char) (place : Position) : (place.extend more).within more = true := by
  simp [Position.within, Position.extend]

namespace Pattern

/-! ### Ends within a text -/

/-- No look ahead tells the character from the end of a text. -/
def EndsBefore (c : Char) : Pattern → Prop
  | .seq first second | .alt first second => first.EndsBefore c ∧ second.EndsBefore c
  | .repeated _ _ inner => inner.EndsBefore c
  | .wordBoundary => isWord c = false
  | .except accepts => accepts c = false
  | .char _ | .start => True

theorem flatMap_inside {one : Position → List Position} {more : List Char}
    (shrinks : ∀ place, ∀ place' ∈ one place, place'.rest <:+ place.rest)
    (inner : ∀ place, (one (place.extend more)).filter (Position.within more) =
      (one place).map (Position.extend more)) {places extended : List Position}
    (same : extended.filter (Position.within more) = places.map (Position.extend more)) :
    (extended.flatMap one).filter (Position.within more) = (places.flatMap one).map (Position.extend more) := by
  induction extended generalizing places with
  | nil =>
      cases places with
      | nil => rfl
      | cons => cases same
  | cons place extended ih =>
      rw [List.flatMap_cons, List.filter_append]
      rw [List.filter_cons] at same
      split at same
      case isTrue =>
        cases places with
        | nil => cases same
        | cons first places =>
            rw [List.map_cons] at same
            rcases List.cons.inj same with ⟨rfl, others⟩
            rw [inner, ih others, List.flatMap_cons, List.map_append]
      case isFalse beyond =>
        have nothing : (one place).filter (Position.within more) = [] := by
          rw [List.filter_eq_nil_iff]
          intro place' mem untouched
          have shorter := (shrinks place place' mem).length_le
          simp only [Position.within, decide_eq_true_eq] at beyond untouched
          omega
        rw [nothing, ih same, List.nil_append]

theorem greedy_inside {one : Position → List Position} {more : List Char}
    (shrinks : ∀ place, ∀ place' ∈ one place, place'.rest <:+ place.rest)
    (inner : ∀ place, (one (place.extend more)).filter (Position.within more) =
      (one place).map (Position.extend more)) {least most : Nat} (place : Position) :
    (greedy one least most (place.extend more)).filter (Position.within more) =
      (greedy one least most place).map (Position.extend more) := by
  induction most generalizing least place with
  | zero =>
      cases least with
      | zero => simp [greedy, Position.within_extend]
      | succ least => rfl
  | succ most ih =>
      have further (least : Nat) := flatMap_inside (fun place => greedy_suffix shrinks place)
        (@ih least) (inner place)
      cases least with
      | zero =>
          rw [greedy, greedy, List.filter_append, List.map_append, further 0]
          simp [Position.within_extend]
      | succ least => exact further least

/-- The ends within a text are those in the text alone, in the same order. -/
theorem ends_inside {pattern : Pattern} {c : Char} (blind : pattern.EndsBefore c) (more : List Char)
    (place : Position) :
    (pattern.ends (place.extend (c :: more))).filter (Position.within (c :: more)) =
      (pattern.ends place).map (Position.extend (c :: more)) := by
  induction pattern generalizing place with
  | char accepts =>
      rcases place with ⟨before, rest⟩
      cases rest with
      | nil =>
          simp only [ends, Position.extend, List.nil_append]
          split
          · simp [Position.within]
          · rfl
      | cons d rest =>
          simp only [ends, Position.extend, List.cons_append]
          split
          · simp [Position.within, Position.extend]
          · rfl
  | seq first second ihFirst ihSecond =>
      exact flatMap_inside (ends_suffix second) (ihSecond blind.2) (ihFirst blind.1 place)
  | alt first second ihFirst ihSecond =>
      rw [ends, ends, List.filter_append, List.map_append, ihFirst blind.1, ihSecond blind.2]
  | repeated least most inner ih => exact greedy_inside (ends_suffix inner) (ih blind) place
  | start =>
      rcases place with ⟨before, rest⟩
      cases before with
      | none => simp [ends, Position.extend, Position.within]
      | some before => rfl
  | wordBoundary =>
      rcases place with ⟨before, rest⟩
      have unseen : isWord c = false := blind
      cases rest with
      | nil =>
          by_cases same : before.any isWord = false
          · simp [ends, Position.extend, unseen, same]
          · simp [ends, Position.extend, Position.within, unseen, same]
      | cons d rest =>
          by_cases same : before.any isWord = isWord d
          · simp [ends, Position.extend, same]
          · have room : more.length ≤ rest.length + (more.length + 1) := by omega
            simp [ends, Position.extend, Position.within, same, room]
  | except accepts =>
      rcases place with ⟨before, rest⟩
      have unseen : accepts c = false := blind
      cases rest with
      | nil => simp [ends, Position.extend, Position.within, unseen]
      | cons d rest =>
          by_cases refused : accepts d = true
          · simp [ends, Position.extend, refused]
          · have room : more.length ≤ rest.length + (more.length + 1) := by omega
            simp [ends, Position.extend, Position.within, refused, room]

/-! ### Repetitions -/

/-- Repeated characters of a kind. -/
theorem chain_char {accepts : Char → Bool} {count : Nat} {place place' : Position}
    (chain : Chain (Pattern.char accepts).ends count place place') :
    ∃ eaten, place.rest = eaten ++ place'.rest ∧ eaten.length = count ∧ ∀ c ∈ eaten, accepts c = true := by
  induction chain with
  | nil place => exact ⟨[], rfl, rfl, by simp⟩
  | cons here _ ih =>
      rcases mem_char.mp here with ⟨c, taken, accepted, _⟩
      rcases ih with ⟨eaten, left, length, each⟩
      refine ⟨c :: eaten, ?_, ?_, ?_⟩
      · rw [taken, left, List.cons_append]
      · rw [List.length_cons, length]
      · intro d mem
        rcases List.mem_cons.mp mem with rfl | mem
        · exact accepted
        · exact each d mem

/-- Repetitions that come to a dead end in one way only: that is the first end, if there have been enough of them. -/
theorem greedy_dead_end {one : Position → List Position} (single : ∀ place, (one place).length ≤ 1) {count : Nat}
    {place last : Position} (chain : Chain one count place last) (dead : one last = []) {least most : Nat}
    (few : count ≤ most) :
    (least ≤ count → (greedy one least most place).head? = some last) ∧
      (count < least → greedy one least most place = []) := by
  induction chain generalizing least most with
  | nil place =>
      cases most with
      | zero => cases least <;> simp [greedy]
      | succ most => cases least <;> simp [greedy, dead]
  | @cons count place middle last here rest ih =>
      have alone : one place = [middle] := by
        have few := single place
        rcases List.mem_iff_append.mp here with ⟨front, back, parts⟩
        rw [parts, List.length_append, List.length_cons] at few
        have first := List.length_eq_zero_iff.mp (show front.length = 0 by omega)
        have last := List.length_eq_zero_iff.mp (show back.length = 0 by omega)
        rw [parts, first, last]
        rfl
      cases most with
      | zero => omega
      | succ most =>
          cases least with
          | zero =>
              have further : (greedy one 0 most middle).head? = some last :=
                (ih dead (Nat.le_of_succ_le_succ few)).1 (Nat.zero_le _)
              simp [greedy, alone, further]
          | succ least =>
              have further : (least ≤ count → (greedy one least most middle).head? = some last) ∧
                  (count < least → greedy one least most middle = []) := ih dead (Nat.le_of_succ_le_succ few)
              simp only [greedy, alone, List.flatMap_cons, List.flatMap_nil, List.append_nil]
              exact ⟨fun enough => further.1 (Nat.le_of_succ_le_succ enough),
                fun short => further.2 (Nat.lt_of_succ_lt_succ short)⟩

/-- Where a text has a first match, the text with more behind has it as well, or one that runs on behind the text. -/
theorem head?_extend {pattern : Pattern} {c : Char} (blind : pattern.EndsBefore c) (more : List Char)
    {place stop : Position} (first : (pattern.ends place).head? = some stop) :
    (pattern.ends (place.extend (c :: more))).head? = some (stop.extend (c :: more)) ∨
      ∃ beyond, (pattern.ends (place.extend (c :: more))).head? = some beyond ∧
        beyond.rest.length < (c :: more).length := by
  have inside := ends_inside blind more place
  cases longer : pattern.ends (place.extend (c :: more)) with
  | nil =>
      rw [longer, List.filter_nil, eq_comm, List.map_eq_nil_iff] at inside
      rw [inside] at first
      cases first
  | cons leading others =>
      rw [longer, List.filter_cons] at inside
      split at inside
      case isTrue =>
        left
        have same := congrArg List.head? inside
        rw [List.head?_cons, List.head?_map, first] at same
        exact same
      case isFalse beyond =>
        right
        simp only [Position.within, decide_eq_true_eq, Nat.not_le] at beyond
        exact ⟨leading, rfl, beyond⟩

end Pattern

/-! ### The matches of a search

A search makes its matches from left to right, and where one ends the next can begin. To tell which matches of a text
a context leaves alone, one has to know where they are: a place is given by what is left of the text behind it, which
is the same place in a longer text that ends alike. -/

/-- A match that a search makes. -/
structure Occurrence where
  start : Position
  stop : Position
deriving DecidableEq, Repr

namespace Occurrence

/-- The text of a match. -/
def text (one : Occurrence) : List Char := one.start.rest.take (one.start.rest.length - one.stop.rest.length)

/-- The place behind which so many characters are left lies between the beginning and the end of the match. -/
def Covers (one : Occurrence) (left : Nat) : Prop := one.stop.rest.length < left ∧ left < one.start.rest.length

instance (one : Occurrence) (left : Nat) : Decidable (one.Covers left) := inferInstanceAs (Decidable (_ ∧ _))

/-- One match lies behind the other, or they are the same. -/
def Apart (one two : Occurrence) : Prop :=
  one = two ∨ two.start.rest.length ≤ one.stop.rest.length ∨ one.start.rest.length ≤ two.stop.rest.length

theorem text_eaten {one : Occurrence} {eaten : List Char} (taken : one.start.rest = eaten ++ one.stop.rest) :
    one.text = eaten := by
  rw [text, taken, List.length_append, Nat.add_sub_cancel, List.take_left]

theorem head?_text {one : Occurrence} (shorter : one.stop.rest.length < one.start.rest.length) :
    one.text.head? = one.start.rest.head? := by
  rw [text, List.head?_take, if_neg (by omega)]

end Occurrence

namespace Pattern

/-- `searchFrom`, with the places of the matches. -/
def occurrencesFrom (pattern : Pattern) : Nat → Position → List Occurrence
  | 0, _ => []
  | fuel + 1, place =>
      let next : List Occurrence :=
        match place.rest with
        | [] => []
        | c :: rest => occurrencesFrom pattern fuel ⟨some c, rest⟩
      match pattern.ends place with
      | [] => next
      | stop :: _ =>
          let one : Occurrence := ⟨place, stop⟩
          if one.text.isEmpty then one :: next else one :: occurrencesFrom pattern fuel stop

/-- The matches that `search` makes, with their places. -/
def occurrences (pattern : Pattern) (text : List Char) : List Occurrence :=
  pattern.occurrencesFrom (text.length + 1) ⟨none, text⟩

theorem searchFrom_eq (pattern : Pattern) (fuel : Nat) (place : Position) :
    pattern.searchFrom fuel place = (pattern.occurrencesFrom fuel place).map Occurrence.text := by
  induction fuel generalizing place with
  | zero => rfl
  | succ fuel ih =>
      rcases place with ⟨before, rest⟩
      have next : (match rest with
          | [] => []
          | c :: rest => pattern.searchFrom fuel ⟨some c, rest⟩) =
          (match rest with
          | [] => []
          | c :: rest => pattern.occurrencesFrom fuel ⟨some c, rest⟩ : List Occurrence).map Occurrence.text := by
        cases rest with
        | nil => rfl
        | cons c rest => exact ih _
      rw [searchFrom, occurrencesFrom]
      cases pattern.ends ⟨before, rest⟩ with
      | nil => exact next
      | cons stop others =>
          have text : Occurrence.text ⟨⟨before, rest⟩, stop⟩ = rest.take (rest.length - stop.rest.length) := rfl
          dsimp only
          rw [text]
          split
          case isTrue empty =>
            rw [List.map_cons, text, List.isEmpty_iff.mp empty]
            exact congrArg _ next
          case isFalse => rw [List.map_cons, text, ih stop]

theorem search_eq (pattern : Pattern) (text : List Char) :
    pattern.search text = (pattern.occurrences text).map Occurrence.text :=
  searchFrom_eq pattern _ _

theorem occurrencesFrom_cons (pattern : Pattern) (fuel : Nat) (before : Option Char) (c : Char) (rest : List Char) :
    pattern.occurrencesFrom (fuel + 1) ⟨before, c :: rest⟩ =
      match (pattern.ends ⟨before, c :: rest⟩).head? with
      | none => pattern.occurrencesFrom fuel ⟨some c, rest⟩
      | some stop =>
          if (Occurrence.text ⟨⟨before, c :: rest⟩, stop⟩).isEmpty then
            ⟨⟨before, c :: rest⟩, stop⟩ :: pattern.occurrencesFrom fuel ⟨some c, rest⟩
          else ⟨⟨before, c :: rest⟩, stop⟩ :: pattern.occurrencesFrom fuel stop := by
  rw [occurrencesFrom]
  cases pattern.ends ⟨before, c :: rest⟩ <;> rfl

theorem getLast?_cons_or (c : Char) (eaten : List Char) (before : Option Char) :
    (c :: eaten).getLast?.or before = eaten.getLast?.or (some c) := by
  rw [List.getLast?_cons]
  cases eaten.getLast? <;> rfl

/-- A match begins somewhere in the text that is searched, behind the character before it, and ends at the first end. -/
theorem mem_occurrencesFrom {pattern : Pattern} {fuel : Nat} {place : Position} {one : Occurrence}
    (mem : one ∈ pattern.occurrencesFrom fuel place) :
    (pattern.ends one.start).head? = some one.stop ∧
      ∃ skipped, place.rest = skipped ++ one.start.rest ∧ one.start.before = skipped.getLast?.or place.before := by
  induction fuel generalizing place with
  | zero => cases mem
  | succ fuel ih =>
      have further : ∀ c rest, place.rest = c :: rest → one ∈ pattern.occurrencesFrom fuel ⟨some c, rest⟩ →
          (pattern.ends one.start).head? = some one.stop ∧
            ∃ skipped, place.rest = skipped ++ one.start.rest ∧
              one.start.before = skipped.getLast?.or place.before := by
        intro c rest text mem
        rcases ih mem with ⟨first, skipped, parts, before⟩
        refine ⟨first, c :: skipped, ?_, ?_⟩
        · rw [text, List.cons_append, ← parts]
        · rw [before, getLast?_cons_or]
      have next : (one ∈ match place.rest with
          | [] => []
          | c :: rest => pattern.occurrencesFrom fuel ⟨some c, rest⟩) →
          (pattern.ends one.start).head? = some one.stop ∧
            ∃ skipped, place.rest = skipped ++ one.start.rest ∧
              one.start.before = skipped.getLast?.or place.before := by
        intro mem
        split at mem
        · cases mem
        · rename_i c rest text
          exact further c rest text mem
      rw [occurrencesFrom] at mem
      split at mem
      · exact next mem
      · rename_i stop others ends_
        have here : (pattern.ends place).head? = some stop := by rw [ends_]; rfl
        dsimp only at mem
        split at mem
        · rcases List.mem_cons.mp mem with rfl | mem
          · exact ⟨here, [], rfl, rfl⟩
          · exact next mem
        · rcases List.mem_cons.mp mem with rfl | mem
          · exact ⟨here, [], rfl, rfl⟩
          · rcases ends_eaten pattern place stop (List.mem_of_head? here) with ⟨eaten, taken, last⟩
            rcases ih mem with ⟨first, skipped, parts, before⟩
            refine ⟨first, eaten ++ skipped, ?_, ?_⟩
            · rw [taken, parts, List.append_assoc]
            · rw [before, last, List.getLast?_append, Option.or_assoc]

theorem start_le {pattern : Pattern} {fuel : Nat} {place : Position} {one : Occurrence}
    (mem : one ∈ pattern.occurrencesFrom fuel place) : one.start.rest.length ≤ place.rest.length := by
  rcases mem_occurrencesFrom mem with ⟨_, skipped, parts, _⟩
  rw [parts, List.length_append]
  exact Nat.le_add_left _ _

/-- No match begins before the end of an earlier one. -/
theorem occurrencesFrom_pairwise (pattern : Pattern) (fuel : Nat) (place : Position) :
    (pattern.occurrencesFrom fuel place).Pairwise fun one two => two.start.rest.length ≤ one.stop.rest.length := by
  induction fuel generalizing place with
  | zero => exact .nil
  | succ fuel ih =>
      have next : (match place.rest with
          | [] => []
          | c :: rest => pattern.occurrencesFrom fuel ⟨some c, rest⟩).Pairwise fun one two : Occurrence =>
            two.start.rest.length ≤ one.stop.rest.length := by
        split
        · exact .nil
        · exact ih _
      rw [occurrencesFrom]
      split
      · exact next
      · rename_i stop others ends_
        dsimp only
        split
        case isTrue empty =>
          refine List.pairwise_cons.mpr ⟨fun two mem => ?_, next⟩
          rcases ends_eaten pattern place stop (by rw [ends_]; exact List.mem_cons_self) with ⟨eaten, taken, _⟩
          have text : Occurrence.text ⟨place, stop⟩ = eaten := Occurrence.text_eaten taken
          have nothing : eaten = [] := text.symm.trans (List.isEmpty_iff.mp empty)
          rw [nothing, List.nil_append] at taken
          dsimp only
          rw [← taken]
          split at mem
          · cases mem
          · rename_i c rest text
            have behind := start_le mem
            rw [text, List.length_cons]
            exact Nat.le_succ_of_le behind
        case isFalse => exact List.pairwise_cons.mpr ⟨fun two mem => start_le mem, ih stop⟩

theorem occurrences_apart {pattern : Pattern} {text : List Char} {one two : Occurrence}
    (oneMem : one ∈ pattern.occurrences text) (twoMem : two ∈ pattern.occurrences text) : one.Apart two := by
  have symm : Std.Symm Occurrence.Apart := by
    constructor
    rintro one two (same | behind | before)
    · exact .inl same.symm
    · exact .inr (.inr behind)
    · exact .inr (.inl before)
  have pairwise : (pattern.occurrences text).Pairwise Occurrence.Apart :=
    (occurrencesFrom_pairwise pattern _ _).imp fun behind => .inr (.inl behind)
  exact pairwise.forall_of_forall (fun _ _ => .inl rfl) oneMem twoMem

/-- A search that no match carries over a place comes to that place. -/
theorem occurrencesFrom_visits {pattern : Pattern} {mid : List Char} {fuel : Nat} {before : Option Char}
    {front : List Char}
    (uncovered : ∀ one ∈ pattern.occurrencesFrom fuel ⟨before, front ++ mid⟩, ¬one.Covers mid.length)
    (enough : (front ++ mid).length < fuel) :
    ∃ earlier fuel', pattern.occurrencesFrom fuel ⟨before, front ++ mid⟩ =
      earlier ++ pattern.occurrencesFrom fuel' ⟨front.getLast?.or before, mid⟩ ∧ mid.length < fuel' := by
  induction fuel generalizing before front with
  | zero => omega
  | succ fuel ih =>
      cases front with
      | nil => exact ⟨[], fuel + 1, rfl, enough⟩
      | cons c front =>
          rw [List.cons_append, List.length_cons] at enough
          rw [List.cons_append, occurrencesFrom_cons] at uncovered ⊢
          have further (later : ∀ one ∈ pattern.occurrencesFrom fuel ⟨some c, front ++ mid⟩, ¬one.Covers mid.length) :=
            @ih (some c) front later (by omega)
          rw [← getLast?_cons_or] at further
          cases first : (pattern.ends ⟨before, c :: (front ++ mid)⟩).head? with
          | none =>
              rw [first] at uncovered
              exact further uncovered
          | some stop =>
              rw [first] at uncovered
              dsimp only at uncovered ⊢
              rcases ends_eaten pattern _ stop (List.mem_of_head? first) with ⟨eaten, taken, last⟩
              have text : (Occurrence.text ⟨⟨before, c :: (front ++ mid)⟩, stop⟩) = eaten :=
                Occurrence.text_eaten taken
              dsimp only at taken last
              rw [text] at uncovered ⊢
              cases eaten with
              | nil =>
                  rcases further fun one mem => uncovered one (List.mem_cons_of_mem _ mem) with
                    ⟨earlier, fuel', search, left⟩
                  refine ⟨⟨⟨before, c :: (front ++ mid)⟩, stop⟩ :: earlier, fuel', ?_, left⟩
                  rw [List.isEmpty_nil, if_pos rfl, search, List.cons_append]
              | cons d eaten =>
                  rw [List.cons_append] at taken
                  rcases List.cons.inj taken with ⟨rfl, split⟩
                  -- the match ends before the place, or it would cover it
                  have inside : mid.length ≤ stop.rest.length := by
                    by_contra beyond
                    refine uncovered _ List.mem_cons_self ⟨Nat.lt_of_not_le beyond, ?_⟩
                    simp only [List.length_cons, List.length_append]
                    omega
                  rcases List.suffix_of_suffix_length_le ⟨front, rfl⟩ ⟨eaten, split.symm⟩ inside with ⟨rest, left⟩
                  have tail : front = eaten ++ rest := by
                    rw [← left, ← List.append_assoc] at split
                    exact List.append_cancel_right split
                  have place_ : stop = ⟨stop.before, rest ++ mid⟩ := by rw [left]
                  rw [List.isEmpty_cons] at uncovered
                  have behind := @ih stop.before rest
                    (fun one mem => uncovered one (List.mem_cons_of_mem _ (by rwa [← place_] at mem))) (by
                      have sizes := congrArg List.length tail
                      simp only [List.length_append] at sizes enough ⊢
                      omega)
                  rcases behind with ⟨earlier, fuel', search, enough'⟩
                  refine ⟨⟨⟨before, c :: (front ++ mid)⟩, stop⟩ :: earlier, fuel', ?_, enough'⟩
                  rw [List.isEmpty_cons, if_neg Bool.false_ne_true, List.cons_append]
                  have same : (c :: front).getLast?.or before = rest.getLast?.or stop.before := by
                    rw [tail, ← List.cons_append, List.getLast?_append, Option.or_assoc, last]
                  rw [same, ← search, ← place_]

/-- A match that begins where no match of the search reaches over is made. -/
theorem mem_occurrences {pattern : Pattern} {front mid : List Char}
    (uncovered : ∀ one ∈ pattern.occurrences (front ++ mid), ¬one.Covers mid.length) {stop : Position}
    (first : (pattern.ends ⟨front.getLast?, mid⟩).head? = some stop) :
    ⟨⟨front.getLast?, mid⟩, stop⟩ ∈ pattern.occurrences (front ++ mid) := by
  rcases occurrencesFrom_visits uncovered (Nat.lt_succ_self _) with ⟨earlier, fuel, search, enough⟩
  rw [occurrences, search, Option.or_none]
  apply List.mem_append_right
  cases fuel with
  | zero => omega
  | succ fuel =>
      rw [occurrencesFrom]
      cases ends_ : pattern.ends ⟨front.getLast?, mid⟩ with
      | nil =>
          rw [ends_] at first
          cases first
      | cons stop' others =>
          rw [ends_, List.head?_cons] at first
          rcases Option.some.inj first with rfl
          dsimp only
          split
          · exact List.mem_cons_self
          · exact List.mem_cons_self

end Pattern

end DataVault.Text
