/-
Module: DataVault.Interleaving.Guided
Layer: Library
Purpose: One run whose answers are restricted. Where the world only ever gives some of the answers that a type
  allows, a process takes only some of its paths; a property of the actions and of the result on these paths holds
  along every run that keeps the restriction. A machine can be restricted as a whole.
Imports: DataVault.Interleaving.Following
Trusted boundary: none
Main exports: Process.Guided, Process.Guided.mono, Process.Guided.bind, guided_bind, guided_liftExcept,
  guided_recover, Machine.Run.guided, Machine.restrict, Machine.Run.restrict
-/
import DataVault.Interleaving.Following

namespace DataVault.Interleaving

variable {Act : Type} {Res : Act → Type} {World Choice Drift Job Out : Type} {α β ε ε' : Type}

namespace Process

/-- As long as every answer is a possible one, all actions satisfy `P` and what is returned satisfies `Q`. -/
def Guided (possible : (act : Act) → Res act → Prop) (P : Act → Prop) (Q : α → Prop) : Process Act Res α → Prop
  | .done value => Q value
  | .await act resume => P act ∧ ∀ answer, possible act answer → Guided possible P Q (resume answer)

variable {possible : (act : Act) → Res act → Prop} {P : Act → Prop} {Q : α → Prop} {R : β → Prop}

theorem Guided.mono {Q' : α → Prop} (weaker : ∀ value, Q value → Q' value) :
    ∀ {process : Process Act Res α}, Guided possible P Q process → Guided possible P Q' process
  | .done _, guided => weaker _ guided
  | .await _ _, guided => ⟨guided.1, fun answer given => Guided.mono weaker (guided.2 answer given)⟩

theorem Guided.bind {next : α → Process Act Res β} (later : ∀ value, Q value → Guided possible P R (next value)) :
    ∀ {process : Process Act Res α}, Guided possible P Q process → Guided possible P R (process >>= next)
  | .done _, guided => later _ guided
  | .await _ _, guided => ⟨guided.1, fun answer given => Guided.bind later (guided.2 answer given)⟩

/-- One awaited action. -/
theorem guided_call {act : Act} {Q : Res act → Prop} (allowed : P act) (known : ∀ answer, possible act answer → Q answer) :
    Guided possible P Q (call act) :=
  ⟨allowed, known⟩

/-! ### Processes that may fail -/

/-- The result condition of a process that may fail: `Q` of its value, `E` of its failure. -/
def Outcome (Q : α → Prop) (E : ε → Prop) : Except ε α → Prop
  | .ok value => Q value
  | .error failure => E failure

section Fallible

variable {E : ε → Prop} {E' : ε' → Prop}

theorem guided_pure {value : α} (holds : Q value) :
    Guided possible P (Outcome Q E) (pure value : ExceptT ε (Process Act Res) α).run :=
  holds

theorem guided_throw {failure : ε} (holds : E failure) :
    Guided possible P (Outcome Q E) (throw failure : ExceptT ε (Process Act Res) α).run :=
  holds

theorem guided_bind {first : ExceptT ε (Process Act Res) α} {next : α → ExceptT ε (Process Act Res) β}
    (guided : Guided possible P (Outcome Q E) first.run)
    (later : ∀ value, Q value → Guided possible P (Outcome R E) (next value).run) :
    Guided possible P (Outcome R E) (first >>= next).run := by
  refine Guided.bind (fun outcome holds => ?_) guided
  cases outcome with
  | ok value => exact later value holds
  | error failure => exact holds

/-- A check between two awaits. -/
theorem guided_liftExcept {outcome : Except ε α} (passes : ∀ value, outcome = .ok value → Q value)
    (fails : ∀ failure, outcome = .error failure → E failure) :
    Guided possible P (Outcome Q E) (liftExcept outcome : ExceptT ε (Process Act Res) α).run := by
  cases outcome with
  | ok value => exact passes value rfl
  | error failure => exact fails failure rfl

theorem guided_recover {body : ExceptT ε (Process Act Res) α} {handler : ε → ExceptT ε' (Process Act Res) α}
    (guided : Guided possible P (Outcome Q E) body.run)
    (handles : ∀ failure, E failure → Guided possible P (Outcome Q E') (handler failure).run) :
    Guided possible P (Outcome Q E') (recover body handler).run := by
  refine Guided.bind (fun outcome holds => ?_) guided
  cases outcome with
  | ok value => exact holds
  | error failure => exact handles failure holds

end Fallible

end Process

namespace Machine

variable {m : Machine Act Res World Choice Drift Job Out} {s s' : System Act Res World Out}

/-- Along a run that keeps an invariant of the worlds under which only possible answers are given to run `k`, the
process of `k` stays guided. -/
theorem Run.guided {ok : System Act Res World Out → Event Choice Drift Job → Prop} {k : Nat}
    {possible : (act : Act) → Res act → Prop} {P : Act → Prop} {Q : Out → Prop}
    (I : System Act Res World Out → Prop)
    (kept : ∀ s event s', I s → ok s event → m.apply s event = some s' → I s')
    (answers : ∀ s choice act answer w', I s → ok s (.step k choice) → P act →
      m.exec k choice act s.world = some (answer, w') → possible act answer)
    {events : List (Event Choice Drift Job)} (run : m.Run ok s events s') (start : I s)
    {process : Process Act Res Out} (present : s.runs[k]? = some process) (guided : process.Guided possible P Q) :
    I s' ∧ ∃ process', s'.runs[k]? = some process' ∧ process'.Guided possible P Q := by
  refine Run.keeps (P := fun s => I s ∧ ∃ process, s.runs[k]? = some process ∧ process.Guided possible P Q) ?_ run
    ⟨start, process, present, guided⟩
  rintro s event s' ⟨holds, process, present, guided⟩ permitted applied
  refine ⟨kept s event s' holds permitted applied, ?_⟩
  rcases apply_run present applied with ⟨stays, _⟩ | ⟨choice, act, resume, answer, rfl, rfl, executed, next⟩
  · exact ⟨process, stays, guided⟩
  · exact ⟨resume answer, next, guided.2 answer (answers s choice act answer s'.world holds permitted guided.1 executed)⟩

/-! ### Restricted machines -/

open Classical in
/-- The machine whose actions are carried out only under a condition. -/
noncomputable def restrict (m : Machine Act Res World Choice Drift Job Out)
    (action : Nat → Choice → Act → World → Prop) : Machine Act Res World Choice Drift Job Out :=
  { m with exec := fun run choice act w => if action run choice act w then m.exec run choice act w else none }

variable {action : Nat → Choice → Act → World → Prop} {drifts : Drift → World → Prop}

theorem restrict_exec {run : Nat} {choice : Choice} {act : Act} {w : World} {done : Res act × World} :
    (m.restrict action).exec run choice act w = some done ↔
      action run choice act w ∧ m.exec run choice act w = some done := by
  by_cases allowed : action run choice act w <;> simp [restrict, allowed]

theorem restrict_apply {event : Event Choice Drift Job} (permitted : Contract.Permits action drifts s event) :
    (m.restrict action).apply s event = m.apply s event := by
  cases event with
  | arrive job => rfl
  | drift change => rfl
  | step run choice =>
      simp only [apply]
      split
      · rename_i act resume waiting
        have allowed : action run choice act s.world := permitted act resume waiting
        simp only [restrict, allowed, if_true]
      · rfl

/-- A run that keeps to the condition is one of the restricted machine. -/
theorem Run.restrict {events : List (Event Choice Drift Job)}
    (run : m.Run (Contract.Permits action drifts) s events s') :
    (m.restrict action).Run (Contract.Permits action drifts) s events s' := by
  induction run with
  | nil => exact .nil _
  | cons permitted applied _ ih => exact .cons permitted ((restrict_apply permitted).trans applied) ih

end Machine

end DataVault.Interleaving
