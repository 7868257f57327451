/-
Module: DataVault.Interleaving.Process
Layer: Library
Purpose: Request handlers as resumable processes, and the interleaving of any number of them over one
  shared world. A process stops at every await; between two awaits of one process the other processes and
  the environment take any number of steps. The module fixes no action and no world.
Imports: Mathlib.Data.List.Basic
Trusted boundary: none
Main exports: Process, Process.call, Machine, System, Event, Machine.apply, Machine.play, Machine.Run,
  Machine.playIf
-/
import Mathlib.Data.List.Basic
import Mathlib.Tactic.Common

namespace DataVault.Interleaving

/-- A handler cut at its awaits: it has returned, or it waits for the answer to one action and resumes
with it. Code between two awaits is the pure part of `resume`. -/
inductive Process (Act : Type) (Res : Act → Type) (α : Type) where
  | done (value : α)
  | await (act : Act) (resume : Res act → Process Act Res α)

namespace Process

variable {Act : Type} {Res : Act → Type} {α β γ : Type}

/-- Sequential composition: the second process starts in the step in which the first one returns. -/
protected def bind : Process Act Res α → (α → Process Act Res β) → Process Act Res β
  | .done value, next => next value
  | .await act resume, next => .await act fun answer => (resume answer).bind next

instance : Monad (Process Act Res) where
  pure := .done
  bind := Process.bind

/-- The process that awaits one action and returns its answer. -/
def call (act : Act) : Process Act Res (Res act) := .await act .done

@[simp] theorem pure_eq_done (value : α) : (pure value : Process Act Res α) = .done value := rfl

@[simp] theorem done_bind (value : α) (next : α → Process Act Res β) :
    (Process.done value >>= next) = next value := rfl

@[simp] theorem await_bind (act : Act) (resume : Res act → Process Act Res α)
    (next : α → Process Act Res β) :
    (Process.await act resume >>= next) = .await act fun answer => resume answer >>= next := rfl

@[simp] theorem call_bind (act : Act) (next : Res act → Process Act Res β) :
    (call act >>= next) = .await act next := rfl

theorem bind_done : ∀ process : Process Act Res α, (process >>= Process.done) = process
  | .done _ => rfl
  | .await act resume => by
      rw [await_bind]
      exact congrArg (Process.await act) (funext fun answer => bind_done (resume answer))

theorem bind_assoc (first : α → Process Act Res β) (second : β → Process Act Res γ) :
    ∀ process : Process Act Res α,
      (process >>= first >>= second) = process >>= fun value => first value >>= second
  | .done _ => rfl
  | .await act resume => by
      simp only [await_bind]
      exact congrArg (Process.await act)
        (funext fun answer => bind_assoc first second (resume answer))

instance : LawfulMonad (Process Act Res) :=
  LawfulMonad.mk' _ bind_done (fun _ _ => rfl)
    (fun process first second => bind_assoc first second process)

/-- A process that may fail, followed by a cleanup that runs whether or not it failed. A failure of the
cleanup replaces the outcome, as in a `finally` block. -/
def withCleanup {ε : Type} (body : ExceptT ε (Process Act Res) α)
    (cleanup : ExceptT ε (Process Act Res) Unit) : ExceptT ε (Process Act Res) α :=
  ExceptT.mk do
    let outcome ← body.run
    match ← cleanup.run with
    | .ok () => pure outcome
    | .error failure => pure (.error failure)

/-- A process that may fail, with a handler for its failures, as in `try`/`catch`. -/
def recover {ε ε' : Type} (body : ExceptT ε (Process Act Res) α)
    (handler : ε → ExceptT ε' (Process Act Res) α) : ExceptT ε' (Process Act Res) α :=
  ExceptT.mk do
    match ← body.run with
    | .ok value => pure (.ok value)
    | .error failure => (handler failure).run

end Process

/-- What the processes of a system run on: the handler started for each kind of request, the atomic
effect of each action of run `i` (`none` when the environment's choice does not fit), and the steps the
world takes on its own. -/
structure Machine (Act : Type) (Res : Act → Type) (World Choice Drift Job Out : Type) where
  handler : Job → Process Act Res Out
  exec : Nat → Choice → (act : Act) → World → Option (Res act × World)
  drift : Drift → World → Option World

/-- A world together with every run started in it, in order of arrival. A run that never takes another
step models a stall without end as well as a crashed process. -/
structure System (Act : Type) (Res : Act → Type) (World Out : Type) where
  world : World
  runs : List (Process Act Res Out)

/-- One event of an interleaving. -/
inductive Event (Choice Drift Job : Type) where
  | arrive (job : Job)
  | step (run : Nat) (choice : Choice)
  | drift (change : Drift)

namespace Machine

variable {Act : Type} {Res : Act → Type} {World Choice Drift Job Out : Type}
variable (m : Machine Act Res World Choice Drift Job Out)

/-- The effect of one event; `none` when the named run is not waiting or the choice does not fit. -/
def apply (s : System Act Res World Out) : Event Choice Drift Job → Option (System Act Res World Out)
  | .arrive job => some { s with runs := s.runs ++ [m.handler job] }
  | .step run choice =>
      match s.runs[run]? with
      | some (.await act resume) =>
          (m.exec run choice act s.world).map fun answer =>
            { world := answer.2, runs := s.runs.set run (resume answer.1) }
      | _ => none
  | .drift change => (m.drift change s.world).map fun world => { s with world := world }

/-- A whole schedule, event by event. -/
def play : List (Event Choice Drift Job) → System Act Res World Out → Option (System Act Res World Out)
  | [], s => some s
  | event :: rest, s => (m.apply s event).bind (play rest)

/-- A run of the system whose events all satisfy `ok` in the state they are taken in. -/
inductive Run (ok : System Act Res World Out → Event Choice Drift Job → Prop) :
    System Act Res World Out → List (Event Choice Drift Job) → System Act Res World Out → Prop where
  | nil (s : System Act Res World Out) : Run ok s [] s
  | cons {s middle s' : System Act Res World Out} {event : Event Choice Drift Job}
      {rest : List (Event Choice Drift Job)}
      (permitted : ok s event) (applied : m.apply s event = some middle)
      (tail : Run ok middle rest s') : Run ok s (event :: rest) s'

variable {m}

/-- Every schedule that plays is a run. -/
theorem run_of_play {events : List (Event Choice Drift Job)} :
    ∀ {s s' : System Act Res World Out}, m.play events s = some s' →
      m.Run (fun _ _ => True) s events s' := by
  induction events with
  | nil =>
      intro s s' played
      cases played
      exact .nil s
  | cons event rest ih =>
      intro s s' played
      obtain ⟨middle, applied, tail⟩ := Option.bind_eq_some_iff.mp played
      exact .cons trivial applied (ih tail)

/-- A schedule in which every event is checked before it is taken. -/
def playIf (ok : System Act Res World Out → Event Choice Drift Job → Prop)
    [∀ s event, Decidable (ok s event)] :
    List (Event Choice Drift Job) → System Act Res World Out → Option (System Act Res World Out)
  | [], s => some s
  | event :: rest, s => if ok s event then (m.apply s event).bind (playIf ok rest) else none

/-- Every schedule whose events pass the check is a run under that condition. -/
theorem run_of_playIf {ok : System Act Res World Out → Event Choice Drift Job → Prop}
    [∀ s event, Decidable (ok s event)] {events : List (Event Choice Drift Job)} :
    ∀ {s s' : System Act Res World Out}, m.playIf ok events s = some s' → m.Run ok s events s' := by
  induction events with
  | nil =>
      intro s s' played
      cases played
      exact .nil s
  | cons event rest ih =>
      intro s s' played
      simp only [playIf] at played
      split at played
      · rename_i permitted
        obtain ⟨middle, applied, tail⟩ := Option.bind_eq_some_iff.mp played
        exact .cons permitted applied (ih tail)
      · cases played

namespace Run

variable {ok ok' : System Act Res World Out → Event Choice Drift Job → Prop}
variable {s middle s' : System Act Res World Out} {first second : List (Event Choice Drift Job)}

/-- Runs compose. -/
theorem trans (one : m.Run ok s first middle) (two : m.Run ok middle second s') :
    m.Run ok s (first ++ second) s' := by
  induction one with
  | nil => exact two
  | cons permitted applied _ ih => exact .cons permitted applied (ih two)

/-- A run stays a run under a weaker condition on its events. -/
theorem mono (weaker : ∀ s event, ok s event → ok' s event) (run : m.Run ok s first s') :
    m.Run ok' s first s' := by
  induction run with
  | nil => exact .nil _
  | cons permitted applied _ ih => exact .cons (weaker _ _ permitted) applied ih

/-- Every event of a run is taken in a state that the events before it lead to. -/
theorem taken {events : List (Event Choice Drift Job)} (run : m.Run ok s events s') :
    m.Run (fun t event => ok t event ∧ ∃ before after, events = before ++ event :: after ∧ m.Run ok s before t)
      s events s' := by
  induction run with
  | nil => exact .nil _
  | cons permitted applied _ ih =>
      refine .cons ⟨permitted, [], _, rfl, .nil _⟩ applied (ih.mono ?_)
      rintro t event ⟨allowed, before, after, rfl, reaches⟩
      exact ⟨allowed, _ :: before, after, rfl, .cons permitted applied reaches⟩

end Run

/-- A property that every permitted event keeps holds at the end of every run. -/
theorem Run.keeps {ok : System Act Res World Out → Event Choice Drift Job → Prop}
    {P : System Act Res World Out → Prop}
    (kept : ∀ s event s', P s → ok s event → m.apply s event = some s' → P s')
    {s s' : System Act Res World Out} {events : List (Event Choice Drift Job)}
    (run : m.Run ok s events s') (start : P s) : P s' := by
  induction run with
  | nil => exact start
  | cons permitted applied _ ih => exact ih (kept _ _ _ start permitted applied)

end Machine

end DataVault.Interleaving
