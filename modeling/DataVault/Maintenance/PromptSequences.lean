/-
Module: DataVault.Maintenance.PromptSequences
Layer: Proofs
Purpose: What a hidden prompt makes of control sequences between printable characters. It drops the start of a sequence
  up to the first character in which it differs from the marker of a paste, and takes the rest for input.
Imports: DataVault.Maintenance.HiddenPrompt
Trusted boundary: none
Main exports: ControlSequence, Piece, leftover, hidden_prompt_sequences
-/
import DataVault.Maintenance.HiddenPrompt

namespace DataVault.Maintenance

open DataVault.Text.Utf8

/-! ### Input -/

/-- A character that a credential may have. -/
def Printable (c : Char) : Prop := 0x20 ≤ c.toNat ∧ c ≠ '\x7f'

instance (c : Char) : Decidable (Printable c) := inferInstanceAs (Decidable (_ ∧ _))

/-- A complete control sequence, but neither marker of a bracketed paste: parameter bytes, intermediate bytes and a
final byte behind `ESC [`. -/
structure ControlSequence where
  parameters : List Char
  intermediates : List Char
  final : Char
  parameters_range : ∀ c ∈ parameters, 0x30 ≤ c.toNat ∧ c.toNat ≤ 0x3F
  intermediates_range : ∀ c ∈ intermediates, 0x20 ≤ c.toNat ∧ c.toNat ≤ 0x2F
  final_range : 0x40 ≤ final.toNat ∧ final.toNat ≤ 0x7E
  no_marker : '\x1b' :: '[' :: (parameters ++ intermediates ++ [final]) ∉ [pasteBegins, pasteEnds]

namespace ControlSequence

variable (sequence : ControlSequence)

/-- The bytes between `ESC [` and the final byte. -/
def body : List Char := sequence.parameters ++ sequence.intermediates

def text : List Char := '\x1b' :: '[' :: (sequence.body ++ [sequence.final])

end ControlSequence

/-- What is typed or sent by a key. -/
inductive Piece where
  | character (c : Char) (printable : Printable c)
  | control (sequence : ControlSequence)

def Piece.text : Piece → List Char
  | .character c _ => [c]
  | .control sequence => sequence.text

/-- The printable characters outside the sequences. -/
def typed (pieces : List Piece) : List Char :=
  pieces.flatMap fun
    | .character c _ => [c]
    | .control _ => []

/-- What is left of a list behind the first character that differs from those expected. -/
def leftover : List Char → List Char → List Char
  | expected :: more, c :: rest => if c = expected then leftover more rest else rest
  | _, rest => rest

/-- What a piece adds to the answer. -/
def Piece.shown : Piece → List Char
  | .character c _ => [c]
  | .control sequence => leftover ['2', '0', '0', '~'] (sequence.body ++ [sequence.final])

/-! ### Printable characters -/

variable {invalidCategory : PromptFailure} {prompt : Prompt}

theorem receiveCharacters_append (invalidCategory : PromptFailure) (first second : List Char) :
    ∀ prompt : Prompt, prompt.receiveCharacters invalidCategory (first ++ second) =
      match prompt.receiveCharacters invalidCategory first with
      | .waiting prompt => prompt.receiveCharacters invalidCategory second
      | .settled result terminal => .settled result terminal := by
  induction first with
  | nil =>
      intro prompt
      rfl
  | cons c rest ih =>
      intro prompt
      simp only [List.cons_append, Prompt.receiveCharacters]
      cases prompt.receiveCharacter invalidCategory c with
      | settled result terminal => rfl
      | waiting next => exact ih next

theorem receiveCharacter_printable {c : Char} (printable : Printable c) (idle : prompt.terminalSequence = []) :
    prompt.receiveCharacter invalidCategory c =
      if utf16Length (prompt.answer ++ [c]) > 4096 then
        Prompt.cancelled { prompt with answer := prompt.answer ++ [c] }
      else .waiting { prompt with answer := prompt.answer ++ [c] } := by
  have ordinary : c ≠ '\x1b' ∧ c ≠ '\x03' ∧ c ≠ '\x04' ∧ c ≠ '\r' ∧ c ≠ '\n' ∧ c ≠ '\x08' := by
    rcases printable with ⟨visible, _⟩
    refine ⟨?_, ?_, ?_, ?_, ?_, ?_⟩
    all_goals
      rintro rfl
      exact absurd visible (by decide)
  rcases ordinary with ⟨escape, etx, eot, cr, lf, backspace⟩
  simp [Prompt.receiveCharacter, idle, escape, etx, eot, cr, lf, backspace, printable.2, Prompt.append, printable.1]

/-- The prompt has room for an answer, or it is cancelled on the way. -/
theorem receiveCharacters_printable {text : List Char} :
    ∀ {prompt : Prompt}, (∀ c ∈ text, Printable c) → prompt.terminalSequence = [] →
      utf16Length prompt.answer ≤ 4096 →
      (utf16Length (prompt.answer ++ text) ≤ 4096 →
        prompt.receiveCharacters invalidCategory text = .waiting { prompt with answer := prompt.answer ++ text }) ∧
      (4096 < utf16Length (prompt.answer ++ text) →
        (prompt.receiveCharacters invalidCategory text).Settles (.error .operatorCancelled)) := by
  induction text with
  | nil =>
      intro prompt _ _ room
      constructor
      · intro _
        simp [Prompt.receiveCharacters]
      · intro beyond
        rw [List.append_nil] at beyond
        omega
  | cons c rest ih =>
      intro prompt printable idle room
      have here := @receiveCharacter_printable invalidCategory prompt c (printable c List.mem_cons_self) idle
      have split : prompt.answer ++ c :: rest = prompt.answer ++ [c] ++ rest := by simp
      simp only [Prompt.receiveCharacters]
      rw [here, split]
      by_cases full : utf16Length (prompt.answer ++ [c]) > 4096
      · rw [if_pos full]
        constructor
        · intro within
          rw [utf16Length_append] at within
          omega
        · intro _
          exact ⟨_, rfl⟩
      · rw [if_neg full]
        exact @ih { prompt with answer := prompt.answer ++ [c] }
          (fun other mem => printable other (List.mem_cons_of_mem _ mem)) idle (Nat.le_of_not_gt full)

/-! ### Control sequences

A sequence is read one character at a time against the marker of a paste. Up to the first character that differs it
is dropped; from there on its characters are taken for input. Everything below follows from where that first
difference lies. -/

theorem continueSequence_further {c : Char} {expected : List Char} (unpasted : prompt.bracketedPaste = false)
    (marker : prompt.terminalSequence ++ c :: expected = pasteBegins) (more : expected ≠ []) :
    prompt.continueSequence invalidCategory c =
      .waiting { prompt with terminalSequence := prompt.terminalSequence ++ [c] } := by
  have opens : (if prompt.bracketedPaste then pasteEnds else pasteBegins) = prompt.terminalSequence ++ c :: expected := by
    rw [unpasted, marker]
    rfl
  have unfinished : prompt.terminalSequence ++ [c] ≠ prompt.terminalSequence ++ c :: expected := by
    intro equal
    have tails := List.append_cancel_left equal
    exact more (List.cons.inj tails).2.symm
  have begins : (prompt.terminalSequence ++ [c]).isPrefixOf (prompt.terminalSequence ++ c :: expected) = true := by
    rw [List.isPrefixOf_iff_prefix]
    exact ⟨expected, by simp⟩
  unfold Prompt.continueSequence
  dsimp only
  rw [opens, if_neg unfinished, if_pos begins]

theorem continueSequence_differs {c e : Char} {expected : List Char} (unpasted : prompt.bracketedPaste = false)
    (marker : prompt.terminalSequence ++ e :: expected = pasteBegins) (differs : c ≠ e) :
    prompt.continueSequence invalidCategory c = .waiting { prompt with terminalSequence := [] } := by
  have opens : (if prompt.bracketedPaste then pasteEnds else pasteBegins) = prompt.terminalSequence ++ e :: expected := by
    rw [unpasted, marker]
    rfl
  have unfinished : prompt.terminalSequence ++ [c] ≠ prompt.terminalSequence ++ e :: expected := by
    intro equal
    have tails := List.append_cancel_left equal
    exact differs (List.cons.inj tails).1
  have strays : ¬(prompt.terminalSequence ++ [c]).isPrefixOf (prompt.terminalSequence ++ e :: expected) = true := by
    rw [List.isPrefixOf_iff_prefix, List.prefix_append_right_inj, List.cons_prefix_cons]
    exact fun starts => differs starts.1
  unfold Prompt.continueSequence
  dsimp only
  rw [opens, if_neg unfinished, if_neg strays]

/-- Behind a start of the marker of a paste, the first character that differs ends the sequence for the prompt. -/
theorem receiveCharacters_sequence :
    ∀ (expected rest : List Char) (prompt : Prompt), prompt.bracketedPaste = false → prompt.terminalSequence ≠ [] →
      prompt.terminalSequence ++ expected = pasteBegins → ¬expected <+: rest → ¬rest <+: expected →
      prompt.receiveCharacters invalidCategory rest =
        Prompt.receiveCharacters invalidCategory { prompt with terminalSequence := [] } (leftover expected rest)
  | [], rest, prompt, _, _, _, apart, _ => absurd List.nil_prefix apart
  | e :: expected, [], prompt, _, _, _, _, apart => absurd List.nil_prefix apart
  | e :: expected, c :: rest, prompt, unpasted, started, marker, apart, apart' => by
      simp only [Prompt.receiveCharacters, Prompt.receiveCharacter]
      rw [if_pos started]
      by_cases same : c = e
      · subst same
        rw [List.cons_prefix_cons] at apart apart'
        have more : expected ≠ [] := by
          rintro rfl
          exact apart ⟨rfl, List.nil_prefix⟩
        have tail := receiveCharacters_sequence expected rest
          { prompt with terminalSequence := prompt.terminalSequence ++ [c] } unpasted (by simp)
          (by simpa using marker) (fun starts => apart ⟨rfl, starts⟩) (fun starts => apart' ⟨rfl, starts⟩)
        rw [continueSequence_further unpasted marker more]
        simp only [leftover, if_true]
        exact tail
      · rw [continueSequence_differs unpasted marker same]
        simp only [leftover, same, if_false]

theorem leftover_suffix : ∀ expected rest : List Char, leftover expected rest <:+ rest
  | [], rest => by
      unfold leftover
      exact List.suffix_refl rest
  | e :: expected, [] => List.suffix_refl []
  | e :: expected, c :: rest => by
      unfold leftover
      split
      case isTrue => exact (leftover_suffix expected rest).trans (List.suffix_cons c rest)
      case isFalse => exact List.suffix_cons c rest

theorem leftover_eq_nil {mark final : Char} (known : List Char) :
    ∀ {body : List Char}, mark ∉ body →
      (leftover (known ++ [mark]) (body ++ [final]) = [] ↔ body <+: known) := by
  induction known with
  | nil =>
      intro body unmarked
      cases body with
      | nil => by_cases same : final = mark <;> simp [leftover, same]
      | cons c rest =>
          have differs : c ≠ mark := by
            rintro rfl
            exact unmarked List.mem_cons_self
          simp [leftover, differs]
  | cons k known ih =>
      intro body unmarked
      cases body with
      | nil => by_cases same : final = k <;> simp [leftover, same]
      | cons c rest =>
          by_cases same : c = k
          · subst same
            have tail := @ih rest (fun mem => unmarked (List.mem_cons_of_mem _ mem))
            simpa [leftover, List.cons_prefix_cons] using tail
          · simp [leftover, same, List.cons_prefix_cons]

namespace ControlSequence

variable (sequence : ControlSequence)

theorem body_range : ∀ c ∈ sequence.body, 0x20 ≤ c.toNat ∧ c.toNat ≤ 0x3F := by
  intro c mem
  rcases List.mem_append.mp mem with parameter | intermediate
  · have range := sequence.parameters_range c parameter
    omega
  · have range := sequence.intermediates_range c intermediate
    omega

theorem tail_ne_marker : sequence.body ++ [sequence.final] ≠ ['2', '0', '0', '~'] := by
  intro equal
  apply sequence.no_marker
  have begins : '\x1b' :: '[' :: (sequence.body ++ [sequence.final]) = pasteBegins := by
    rw [equal]
    rfl
  exact List.mem_cons.mpr (.inl begins)

/-- The last byte of a sequence is its final byte, so no sequence but the marker begins with the marker. -/
theorem tail_apart : ¬['2', '0', '0', '~'] <+: sequence.body ++ [sequence.final] ∧
    ¬sequence.body ++ [sequence.final] <+: ['2', '0', '0', '~'] := by
  have range := sequence.body_range
  have final := sequence.final_range
  have differs := sequence.tail_ne_marker
  generalize sequence.body = body at range differs
  generalize sequence.final = last at final differs
  have tilde : '~' ∉ body := fun mem => absurd (range _ mem).2 (by decide)
  have early : last ≠ '2' ∧ last ≠ '0' := by
    constructor <;>
    · rintro rfl
      exact absurd final.1 (by decide)
  match body with
  | [] | [a] | [a, b] => simp_all
  | [a, b, c] =>
      constructor
      · rintro ⟨rest, equal⟩
        simp only [List.cons_append, List.nil_append, List.cons.injEq] at equal
        rcases equal with ⟨rfl, rfl, rfl, rfl, _⟩
        exact differs rfl
      · rintro ⟨rest, equal⟩
        simp_all
  | a :: b :: c :: d :: rest => simp_all

end ControlSequence

theorem Piece.shown_printable (piece : Piece) : ∀ c ∈ piece.shown, Printable c := by
  intro c mem
  cases piece with
  | character typed printable =>
      rw [List.mem_singleton.mp mem]
      exact printable
  | control sequence =>
      have part : c ∈ sequence.body ++ [sequence.final] := by
        have suffix := leftover_suffix ['2', '0', '0', '~'] (sequence.body ++ [sequence.final])
        exact suffix.subset mem
      rcases List.mem_append.mp part with between | last
      · have range := sequence.body_range c between
        constructor
        · omega
        · rintro rfl
          exact absurd range.2 (by decide)
      · rw [List.mem_singleton.mp last]
        have range := sequence.final_range
        constructor
        · omega
        · intro delete
          rw [delete] at range
          exact absurd range.2 (by decide)

/-- To an idle prompt a piece is what it shows. -/
theorem receiveCharacters_piece (piece : Piece) (idle : prompt.terminalSequence = [])
    (unpasted : prompt.bracketedPaste = false) (rest : List Char) :
    prompt.receiveCharacters invalidCategory (piece.text ++ rest) =
      prompt.receiveCharacters invalidCategory (piece.shown ++ rest) := by
  cases piece with
  | character c printable => rfl
  | control sequence =>
      rcases sequence.tail_apart with ⟨apart, apart'⟩
      have opened : prompt.receiveCharacters invalidCategory sequence.text =
          Prompt.receiveCharacters invalidCategory { prompt with terminalSequence := ['\x1b', '['] }
            (sequence.body ++ [sequence.final]) := by
        have escape : prompt.receiveCharacter invalidCategory '\x1b' =
            .waiting { prompt with terminalSequence := ['\x1b'] } := by
          simp [Prompt.receiveCharacter, idle]
        have bracket : Prompt.receiveCharacter { prompt with terminalSequence := ['\x1b'] } invalidCategory '[' =
            .waiting { prompt with terminalSequence := ['\x1b', '['] } :=
          @continueSequence_further invalidCategory { prompt with terminalSequence := ['\x1b'] } '['
            ['2', '0', '0', '~'] unpasted rfl (by simp)
        simp only [ControlSequence.text, Prompt.receiveCharacters]
        rw [escape]
        dsimp only
        rw [bracket]
      have shown := @receiveCharacters_sequence invalidCategory ['2', '0', '0', '~']
        (sequence.body ++ [sequence.final]) { prompt with terminalSequence := ['\x1b', '['] } unpasted (by simp) rfl
        apart apart'
      have reset : { prompt with terminalSequence := [] } = prompt := by rw [← idle]
      rw [receiveCharacters_append, receiveCharacters_append, Piece.text, opened, shown]
      dsimp only
      rw [reset]
      rfl

/-- To an idle prompt an input is what its pieces show. -/
theorem receiveCharacters_pieces (pieces : List Piece) (rest : List Char) :
    ∀ {prompt : Prompt}, prompt.terminalSequence = [] → prompt.bracketedPaste = false →
      utf16Length prompt.answer ≤ 4096 →
      prompt.receiveCharacters invalidCategory (pieces.flatMap Piece.text ++ rest) =
        prompt.receiveCharacters invalidCategory (pieces.flatMap Piece.shown ++ rest) := by
  induction pieces with
  | nil =>
      intro prompt _ _ _
      rfl
  | cons piece pieces ih =>
      intro prompt idle unpasted room
      rw [List.flatMap_cons, List.flatMap_cons, List.append_assoc, List.append_assoc,
        receiveCharacters_piece piece idle unpasted, receiveCharacters_append, receiveCharacters_append]
      rcases @receiveCharacters_printable invalidCategory _ _ piece.shown_printable idle room with
        ⟨waits, settles⟩
      by_cases within : utf16Length (prompt.answer ++ piece.shown) ≤ 4096
      · rw [waits within]
        exact ih idle unpasted within
      · rcases settles (by omega) with ⟨terminal, settled⟩
        rw [settled]

/-- What an idle prompt makes of an input that Enter ends. -/
theorem receiveCharacters_enter {pieces : List Piece} {enter : Char} (ends : enter = '\r' ∨ enter = '\n')
    (idle : prompt.terminalSequence = []) (unpasted : prompt.bracketedPaste = false) (empty : prompt.answer = []) :
    (prompt.receiveCharacters invalidCategory (pieces.flatMap Piece.text ++ [enter])).Settles
      (if utf16Length (pieces.flatMap Piece.shown) ≤ 4096 then .ok (String.ofList (pieces.flatMap Piece.shown))
        else .error .operatorCancelled) := by
  have printable : ∀ c ∈ pieces.flatMap Piece.shown, Printable c := by
    intro c mem
    rcases List.mem_flatMap.mp mem with ⟨piece, _, shown⟩
    exact piece.shown_printable c shown
  have room : utf16Length prompt.answer ≤ 4096 := by
    rw [empty]
    decide
  rcases @receiveCharacters_printable invalidCategory _ _ printable idle room with ⟨waits, settles⟩
  rw [empty, List.nil_append] at waits settles
  rw [receiveCharacters_pieces pieces [enter] idle unpasted room, receiveCharacters_append]
  by_cases within : utf16Length (pieces.flatMap Piece.shown) ≤ 4096
  · rw [waits within, if_pos within]
    rcases ends with rfl | rfl
    · simp [Prompt.receiveCharacters, Prompt.receiveCharacter, idle, unpasted, Prompt.finish, PromptState.Settles]
    · simp [Prompt.receiveCharacters, Prompt.receiveCharacter, idle, unpasted, Prompt.finish, PromptState.Settles]
  · rcases settles (by omega) with ⟨terminal, settled⟩
    rw [settled, if_neg within]
    exact ⟨terminal, rfl⟩

/-! ### Chunks -/

/-- The prompt goes on with another decoder. -/
def PromptState.withDecoder (decoder : StringDecoder) : PromptState → PromptState
  | .waiting prompt => .waiting { prompt with decoder := decoder }
  | .settled result terminal => .settled result terminal

/-- The loop never looks at the decoder. -/
theorem receiveCharacter_withDecoder (decoder : StringDecoder) (c : Char) :
    Prompt.receiveCharacter { prompt with decoder := decoder } invalidCategory c =
      (prompt.receiveCharacter invalidCategory c).withDecoder decoder := by
  unfold Prompt.receiveCharacter Prompt.continueSequence Prompt.append Prompt.cancelled Prompt.finish
  dsimp only
  repeat' split
  all_goals rfl

theorem receiveCharacters_withDecoder (decoder : StringDecoder) (text : List Char) :
    ∀ prompt : Prompt, Prompt.receiveCharacters invalidCategory { prompt with decoder := decoder } text =
      (prompt.receiveCharacters invalidCategory text).withDecoder decoder := by
  induction text with
  | nil =>
      intro prompt
      rfl
  | cons c rest ih =>
      intro prompt
      simp only [Prompt.receiveCharacters]
      rw [receiveCharacter_withDecoder]
      cases prompt.receiveCharacter invalidCategory c with
      | settled result terminal => rfl
      | waiting next => exact ih next

theorem foldl_settled (events : List PromptEvent) (result : Except PromptFailure String) (terminal : Terminal) :
    events.foldl (PromptState.on invalidCategory) (.settled result terminal) = .settled result terminal := by
  induction events with
  | nil => rfl
  | cons event rest ih => exact ih

/-- However the bytes are cut into chunks, the prompt settles as on their characters at once. -/
theorem foldl_data {result : Except PromptFailure String} (chunks : List (List UInt8)) :
    ∀ {prompt : Prompt},
      (prompt.receiveCharacters invalidCategory (prompt.decoder.write chunks.flatten).1).Settles result →
      ((chunks.map PromptEvent.data).foldl (PromptState.on invalidCategory) (.waiting prompt)).Settles result := by
  induction chunks with
  | nil =>
      rintro prompt ⟨terminal, settled⟩
      cases settled
  | cons chunk chunks ih =>
      rintro prompt ⟨terminal, settled⟩
      rw [List.flatten_cons, StringDecoder.write_append, receiveCharacters_append] at settled
      rw [List.map_cons, List.foldl_cons]
      have received : PromptState.on invalidCategory (.waiting prompt) (.data chunk) =
          (prompt.receiveCharacters invalidCategory (prompt.decoder.write chunk).1).withDecoder
            (prompt.decoder.write chunk).2 := receiveCharacters_withDecoder _ _ prompt
      rw [received]
      cases first : prompt.receiveCharacters invalidCategory (prompt.decoder.write chunk).1 with
      | settled early streams =>
          rw [first] at settled
          cases settled
          exact ⟨terminal, foldl_settled _ _ _⟩
      | waiting next =>
          rw [first] at settled
          apply ih
          have later := @receiveCharacters_withDecoder invalidCategory
            (prompt.decoder.write chunk).2 ((prompt.decoder.write chunk).2.write chunks.flatten).1 next
          dsimp only at settled
          rw [settled] at later
          exact ⟨terminal, later⟩

/-! ### The prompt -/

/-- A sequence is ignored as a whole if what stands before its final byte begins the marker of a paste. -/
def ControlSequence.Ignored (sequence : ControlSequence) : Prop := sequence.body <+: ['2', '0', '0']

theorem shown_eq_nil (sequence : ControlSequence) : (Piece.control sequence).shown = [] ↔ sequence.Ignored := by
  apply @leftover_eq_nil '~' _ ['2', '0', '0']
  intro tilde
  exact absurd (sequence.body_range _ tilde).2 (by decide)

theorem length_typed_le (pieces : List Piece) :
    (typed pieces).length ≤ (pieces.flatMap Piece.shown).length := by
  induction pieces with
  | nil => exact Nat.le_refl 0
  | cons piece pieces ih =>
      cases piece with
      | character c printable =>
          simp only [typed, List.flatMap_cons, Piece.shown, List.length_append] at ih ⊢
          omega
      | control sequence =>
          simp only [typed, List.flatMap_cons, List.nil_append, List.length_append] at ih ⊢
          omega

/-- Nothing but the printable characters is shown if and only if every sequence is ignored. -/
theorem shown_eq_typed (pieces : List Piece) :
    pieces.flatMap Piece.shown = typed pieces ↔
      ∀ sequence, Piece.control sequence ∈ pieces → sequence.Ignored := by
  induction pieces with
  | nil => simp [typed]
  | cons piece pieces ih =>
      cases piece with
      | character c printable =>
          simpa [typed, Piece.shown] using ih
      | control sequence =>
          have others : typed (.control sequence :: pieces) = typed pieces := rfl
          rw [List.flatMap_cons, others]
          constructor
          · intro same
            have lengths := congrArg List.length same
            have few := length_typed_le pieces
            rw [List.length_append] at lengths
            have nothing : (Piece.control sequence).shown = [] := List.eq_nil_of_length_eq_zero (by omega)
            rw [nothing, List.nil_append, ih] at same
            intro other mem
            rcases List.mem_cons.mp mem with here | there
            · cases here
              exact (shown_eq_nil sequence).mp nothing
            · exact same other there
          · intro ignored
            have nothing := (shown_eq_nil sequence).mpr (ignored sequence List.mem_cons_self)
            rw [nothing, List.nil_append, ih]
            intro other mem
            exact ignored other (List.mem_cons_of_mem _ mem)

theorem PromptState.Settles.unique {state : PromptState} {result other : Except PromptFailure String}
    (first : state.Settles result) (second : state.Settles other) : result = other := by
  rcases first with ⟨terminal, rfl⟩
  rcases second with ⟨terminal', same⟩
  cases same
  rfl

/-- For every input of printable characters and control sequences that Enter ends, cut into chunks anywhere: the prompt
resolves to the printable characters if and only if it ignores every sequence, and they fit. -/
theorem hidden_prompt_sequences {pieces : List Piece} {enter : Char} {chunks : List (List UInt8)} {terminal : Terminal}
    (text : String) (invalidCategory : PromptFailure) (interactive : (terminal.inputIsTTY && terminal.outputIsTTY) = true)
    (ends : enter = '\r' ∨ enter = '\n')
    (split : chunks.flatten = encode (pieces.flatMap Piece.text ++ [enter])) :
    (hiddenPrompt text terminal invalidCategory (chunks.map .data)).Settles (.ok (String.ofList (typed pieces))) ↔
      (∀ sequence, Piece.control sequence ∈ pieces → sequence.Ignored) ∧ utf16Length (typed pieces) ≤ 4096 := by
  have refused : (!terminal.inputIsTTY || !terminal.outputIsTTY) = false := by
    rw [← Bool.not_and, interactive]
    rfl
  have settles : (hiddenPrompt text terminal invalidCategory (chunks.map .data)).Settles
      (if utf16Length (pieces.flatMap Piece.shown) ≤ 4096 then .ok (String.ofList (pieces.flatMap Piece.shown))
        else .error .operatorCancelled) := by
    unfold hiddenPrompt
    rw [refused]
    apply foldl_data
    rw [split, StringDecoder.write_encode]
    exact receiveCharacters_enter ends rfl rfl rfl
  constructor
  · intro resolves
    have same := settles.unique resolves
    by_cases within : utf16Length (pieces.flatMap Piece.shown) ≤ 4096
    · rw [if_pos within] at same
      have shown : pieces.flatMap Piece.shown = typed pieces := String.ofList_injective (Except.ok.inj same)
      exact ⟨(shown_eq_typed pieces).mp shown, shown ▸ within⟩
    · rw [if_neg within] at same
      cases same
  · rintro ⟨ignored, within⟩
    have shown := (shown_eq_typed pieces).mpr ignored
    rw [shown, if_pos within] at settles
    exact settles

/-- The arrow up. -/
def arrowUp : ControlSequence where
  parameters := []
  intermediates := []
  final := 'A'
  parameters_range := by simp
  intermediates_range := by simp
  final_range := by decide
  no_marker := by decide

/-- The Delete key. -/
def deleteKey : ControlSequence where
  parameters := ['3']
  intermediates := []
  final := '~'
  parameters_range := by simp
  intermediates_range := by simp
  final_range := by decide
  no_marker := by decide

/-- The arrow up between two characters, cut in the middle of it and of a character, leaves no trace. -/
theorem hidden_prompt_arrow :
    (hiddenPrompt "Platform password (hidden): " {} .invalidSmokeConfiguration
      [.data [0xC3], .data [0xA9, 0x1B], .data [0x5B, 0x41, 0x62], .data [0x0D]]).Settles (.ok "éb") :=
  (@hidden_prompt_sequences [.character 'é' (by decide), .control arrowUp, .character 'b' (by decide)] '\r'
    [[0xC3], [0xA9, 0x1B], [0x5B, 0x41, 0x62], [0x0D]] {} "Platform password (hidden): " .invalidSmokeConfiguration rfl (.inl rfl) (by decide +kernel)).mpr
    ⟨by
      intro sequence mem
      simp only [List.mem_cons, reduceCtorEq, Piece.control.injEq, List.not_mem_nil, or_false, false_or] at mem
      rw [mem]
      exact List.nil_prefix, by decide⟩

/-- The Delete key between two characters adds its last character to the credential. -/
theorem hidden_prompt_delete :
    ¬∀ (pieces : List Piece) (chunks : List (List UInt8)) (terminal : Terminal) (text : String)
      (invalidCategory : PromptFailure), (terminal.inputIsTTY && terminal.outputIsTTY) = true →
      chunks.flatten = encode (pieces.flatMap Piece.text ++ ['\r']) → (typed pieces).length ≤ 4096 →
      (hiddenPrompt text terminal invalidCategory (chunks.map .data)).Settles (.ok (String.ofList (typed pieces))) := by
  intro claimed
  have resolves := claimed [.character 'a' (by decide), .control deleteKey, .character 'b' (by decide)]
    [[0x61, 0x1B, 0x5B, 0x33, 0x7E, 0x62, 0x0D]] {} "Platform password (hidden): " .invalidSmokeConfiguration rfl
    (by decide +kernel) (by decide)
  have shows : (hiddenPrompt "Platform password (hidden): " {} .invalidSmokeConfiguration
      [.data [0x61, 0x1B, 0x5B, 0x33, 0x7E, 0x62, 0x0D]]).Settles (.ok "a~b") :=
    ⟨{ written := ["Platform password (hidden): ", "\n"] }, by decide +kernel⟩
  have same := shows.unique resolves
  exact absurd (Except.ok.inj same) (by decide +kernel)

end DataVault.Maintenance
