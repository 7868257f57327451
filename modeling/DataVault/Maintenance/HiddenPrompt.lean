/-
Module: DataVault.Maintenance.HiddenPrompt
Layer: Model
Purpose: `hiddenPrompt` of maintenance/hidden-prompt.ts: a prompt without echo as a machine over what the terminal
  sends, chunk by chunk.
Imports: DataVault.Text.Utf8
Trusted boundary: human-reviewed spec
Main exports: Terminal, Prompt, Prompt.receiveCharacter, PromptState, hiddenPrompt
-/
import DataVault.Text.Utf8

namespace DataVault.Maintenance

open DataVault.Text.Utf8

/-- The categories of `CliFailureCategory` that a prompt fails with. -/
inductive PromptFailure where
  | invalidSmokeConfiguration
  | invalidAdminPasswordResetConfiguration
  | operatorCancelled
deriving DecidableEq, Repr

/-- The two streams of a terminal. -/
structure Terminal where
  inputIsTTY : Bool := true
  outputIsTTY : Bool := true
  isRaw : Bool := false
  flowing : Bool := false
  written : List String := []
deriving DecidableEq, Repr

/-- The variables of the listeners while they wait. -/
structure Prompt where
  terminal : Terminal
  wasRaw : Bool
  answer : List Char := []
  terminalSequence : List Char := []
  bracketedPaste : Bool := false
  invalidPastedLineBreak : Bool := false
  decoder : StringDecoder := []
deriving DecidableEq, Repr

/-- The promise is pending, or it has settled and the listeners are gone. -/
inductive PromptState where
  | waiting (prompt : Prompt)
  | settled (result : Except PromptFailure String) (terminal : Terminal)
deriving DecidableEq

/-- What begins and what ends a bracketed paste. -/
def pasteBegins : List Char := ['\x1b', '[', '2', '0', '0', '~']

def pasteEnds : List Char := ['\x1b', '[', '2', '0', '1', '~']

namespace Prompt

variable (prompt : Prompt)

def finish (result : Except PromptFailure String) : PromptState :=
  .settled result { prompt.terminal with
    isRaw := prompt.wasRaw
    flowing := false
    written := prompt.terminal.written ++ ["\n"] }

def cancelled : PromptState := prompt.finish (.error .operatorCancelled)

/-- The first branch of the loop: one more character of a terminal sequence. -/
def continueSequence (invalidCategory : PromptFailure) (character : Char) : PromptState :=
  let terminalSequence := prompt.terminalSequence ++ [character]
  let expected := if prompt.bracketedPaste then pasteEnds else pasteBegins
  if terminalSequence = expected then
    if prompt.bracketedPaste && prompt.invalidPastedLineBreak then prompt.finish (.error invalidCategory)
    else .waiting { prompt with terminalSequence := [], bracketedPaste := !prompt.bracketedPaste }
  else if terminalSequence.isPrefixOf expected then .waiting { prompt with terminalSequence := terminalSequence }
  else .waiting { prompt with terminalSequence := [] }

/-- The end of the loop: a character of the answer, or a control character without effect. -/
def append (character : Char) : PromptState :=
  let answer :=
    if 0x20 ≤ character.toNat ∧ character ≠ '\x7f' then prompt.answer ++ [character] else prompt.answer
  if utf16Length answer > 4096 then cancelled { prompt with answer := answer }
  else .waiting { prompt with answer := answer }

/-- The loop of `receive`, for one character. -/
def receiveCharacter (invalidCategory : PromptFailure) (character : Char) : PromptState :=
  if prompt.terminalSequence ≠ [] then prompt.continueSequence invalidCategory character
  else if character = '\x1b' then .waiting { prompt with terminalSequence := [character] }
  else if character = '\x03' ∨ character = '\x04' then prompt.cancelled
  else if character = '\r' ∨ character = '\n' then
    if prompt.bracketedPaste then .waiting { prompt with invalidPastedLineBreak := true }
    else prompt.finish (.ok (String.ofList prompt.answer))
  else if character = '\x7f' ∨ character = '\x08' then .waiting { prompt with answer := prompt.answer.dropLast }
  else prompt.append character

/-- The loop of `receive`. -/
def receiveCharacters (invalidCategory : PromptFailure) : Prompt → List Char → PromptState
  | prompt, [] => .waiting prompt
  | prompt, character :: rest =>
      match prompt.receiveCharacter invalidCategory character with
      | .waiting prompt => receiveCharacters invalidCategory prompt rest
      | .settled result terminal => .settled result terminal

/-- `receive`. -/
def receive (invalidCategory : PromptFailure) (buffer : List UInt8) : PromptState :=
  let (characters, decoder) := prompt.decoder.write buffer
  receiveCharacters invalidCategory { prompt with decoder := decoder } characters

end Prompt

/-- What the input emits. -/
inductive PromptEvent where
  | data (buffer : List UInt8)
  | ended
  | failed
deriving DecidableEq, Repr

/-- The listener of an event; a settled promise has none. -/
def PromptState.on (invalidCategory : PromptFailure) : PromptState → PromptEvent → PromptState
  | .settled result terminal, _ => .settled result terminal
  | .waiting prompt, .data buffer => prompt.receive invalidCategory buffer
  | .waiting prompt, .ended | .waiting prompt, .failed => prompt.cancelled

/-- `hiddenPrompt`, and what the terminal sends it. -/
def hiddenPrompt (text : String) (terminal : Terminal) (invalidCategory : PromptFailure) (events : List PromptEvent) :
    PromptState :=
  if !terminal.inputIsTTY || !terminal.outputIsTTY then .settled (.error invalidCategory) terminal
  else
    let opened := { terminal with isRaw := true, flowing := true, written := terminal.written ++ [text] }
    events.foldl (PromptState.on invalidCategory) (.waiting { terminal := opened, wasRaw := terminal.isRaw })

/-- The promise has settled with this result. -/
def PromptState.Settles (state : PromptState) (result : Except PromptFailure String) : Prop :=
  ∃ terminal, state = .settled result terminal

end DataVault.Maintenance
