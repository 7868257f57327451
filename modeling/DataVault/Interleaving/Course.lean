/-
Module: DataVault.Interleaving.Course
Layer: Library
Purpose: One process and an environment that answers it. The environment is a relation: an action may have several
  answers and leave several states, a request that fails may have taken effect or not. What a process ensures is read
  off its own text and holds at every point of every course it can take.
Imports: DataVault.Interleaving.Monitor
Trusted boundary: none
Main exports: Environment, Process.Course, Process.serve, course_of_serve, Process.Ensures, Ensures.bind, Ensures.course, Course.invariant
-/
import DataVault.Interleaving.Monitor

namespace DataVault.Interleaving

variable {Act : Type} {Res : Act → Type} {W : Type} {α β ε ε' : Type}

/-- The answers and the states that an action can meet in a state. -/
abbrev Environment (Act : Type) (Res : Act → Type) (W : Type) := W → (act : Act) → Res act → W → Prop

namespace Process

/-- A process takes these steps in an environment, from one state to another, and becomes another process. -/
inductive Course (env : Environment Act Res W) :
    Process Act Res α → W → List (Step Act Res) → Process Act Res α → W → Prop where
  | nil (process : Process Act Res α) (w : W) : Course env process w [] process w
  | cons {act : Act} {resume : Res act → Process Act Res α} {answer : Res act} {steps : List (Step Act Res)}
      {process : Process Act Res α} {w w' w'' : W} (leaves : env w act answer w')
      (tail : Course env (resume answer) w' steps process w'') :
      Course env (.await act resume) w (⟨act, answer⟩ :: steps) process w''

/-- Whatever it is answered, a process takes only actions that are due, and ends in `post`. -/
def Ensures (env : Environment Act Res W) (due : W → Act → Prop) (post : α → W → Prop) : Process Act Res α → W → Prop
  | .done value, w => post value w
  | .await act resume, w => due w act ∧ ∀ answer w', env w act answer w' → Ensures env due post (resume answer) w'

variable {env : Environment Act Res W} {due : W → Act → Prop} {process process' : Process Act Res α}
variable {steps : List (Step Act Res)} {w w' : W}

/-! ### Courses -/

/-- What every step of a course keeps holds at its end. -/
theorem Course.invariant {inv : W → Prop} (course : process.Course env w steps process' w')
    (kept : ∀ w act answer w', ⟨act, answer⟩ ∈ steps → inv w → env w act answer w' → inv w') (holds : inv w) :
    inv w' := by
  induction course with
  | nil => exact holds
  | cons leaves _ ih =>
      apply ih
      · intro w act answer w' mem
        exact kept w act answer w' (List.mem_cons_of_mem _ mem)
      · exact kept _ _ _ _ List.mem_cons_self holds leaves

/-- What one step establishes and every step of the course keeps holds at its end. -/
theorem Course.since {inv : W → Prop} {step : Step Act Res} (course : process.Course env w steps process' w')
    (starts : ∀ w w', env w step.1 step.2 w' → inv w')
    (kept : ∀ w act answer w', ⟨act, answer⟩ ∈ steps → inv w → env w act answer w' → inv w') (mem : step ∈ steps) :
    inv w' := by
  induction course with
  | nil => cases mem
  | cons leaves tail ih =>
      have keptTail := fun w act answer w' there => kept w act answer w' (List.mem_cons_of_mem _ there)
      rcases List.mem_cons.mp mem with rfl | later
      · exact tail.invariant keptTail (starts _ _ leaves)
      · exact ih keptTail later

/-- The course of at most `n` steps that a process takes with a server that answers in one way. -/
def serve (server : W → (act : Act) → Res act × W) :
    Nat → Process Act Res α → W → Process Act Res α × List (Step Act Res) × W
  | n + 1, .await act resume, w =>
      let answered := server w act
      let rest := serve server n (resume answered.1) answered.2
      (rest.1, ⟨act, answered.1⟩ :: rest.2.1, rest.2.2)
  | _, process, w => (process, [], w)

theorem course_of_serve {server : W → (act : Act) → Res act × W}
    (permits : ∀ w act, env w act (server w act).1 (server w act).2) :
    ∀ (n : Nat) (process : Process Act Res α) (w : W),
      process.Course env w (serve server n process w).2.1 (serve server n process w).1 (serve server n process w).2.2
  | 0, process, w => .nil process w
  | _ + 1, .done value, w => .nil (.done value) w
  | n + 1, .await act _, w => .cons (permits w act) (course_of_serve permits n _ _)

/-! ### What a process ensures -/

theorem Ensures.mono {post post' : α → W → Prop} (weaker : ∀ value w, post value w → post' value w) :
    ∀ {process : Process Act Res α} {w : W}, process.Ensures env due post w → process.Ensures env due post' w
  | .done _, _, ensures => weaker _ _ ensures
  | .await _ _, _, ensures => ⟨ensures.1, fun answer w' leaves => (ensures.2 answer w' leaves).mono weaker⟩

/-- The sequencing rule. -/
theorem Ensures.bind {mid : α → W → Prop} {post : β → W → Prop} {next : α → Process Act Res β}
    (continues : ∀ value w, mid value w → (next value).Ensures env due post w) :
    ∀ {process : Process Act Res α} {w : W},
      process.Ensures env due mid w → (process >>= next).Ensures env due post w
  | .done _, _, ensures => continues _ _ ensures
  | .await _ _, _, ensures => ⟨ensures.1, fun answer w' leaves => Ensures.bind continues (ensures.2 answer w' leaves)⟩

/-- What a process ensures it ensures at every point of its course. -/
theorem Ensures.course {post : α → W → Prop} (ensures : process.Ensures env due post w)
    (course : process.Course env w steps process' w') : process'.Ensures env due post w' := by
  induction course with
  | nil => exact ensures
  | cons leaves _ ih => exact ih (ensures.2 _ _ leaves)

theorem Ensures.isDue {post : α → W → Prop} {act : Act} (ensures : process.Ensures env due post w)
    (awaits : process.awaited = some act) : due w act := by
  obtain ⟨resume, rfl⟩ := awaited_eq_some.mp awaits
  exact ensures.1

section Fallible

variable {Q : α → W → Prop} {R : β → W → Prop} {E : ε → W → Prop}

theorem ensures_bind {first : ExceptT ε (Process Act Res) α} {next : α → ExceptT ε (Process Act Res) β}
    (ensures : first.run.Ensures env due (Ends Q E) w)
    (continues : ∀ value w, Q value w → (next value).run.Ensures env due (Ends R E) w) :
    (first >>= next).run.Ensures env due (Ends R E) w := by
  refine Ensures.bind (fun outcome w ended => ?_) ensures
  cases outcome with
  | ok value => exact continues value w ended
  | error failure => exact ended

/-- One awaited action. -/
theorem ensures_lift {act : Act} {next : Res act → ExceptT ε (Process Act Res) β} (isDue : due w act)
    (continues : ∀ answer w', env w act answer w' → (next answer).run.Ensures env due (Ends R E) w') :
    ((liftM (Process.call act) : ExceptT ε (Process Act Res) _) >>= next).run.Ensures env due (Ends R E) w :=
  ⟨isDue, continues⟩

/-- A check between two awaits. -/
theorem ensures_liftExcept {outcome : Except ε α} {next : α → ExceptT ε (Process Act Res) β}
    (passes : ∀ value, outcome = .ok value → (next value).run.Ensures env due (Ends R E) w)
    (fails : ∀ failure, outcome = .error failure → E failure w) :
    ((liftExcept outcome : ExceptT ε (Process Act Res) α) >>= next).run.Ensures env due (Ends R E) w := by
  cases outcome with
  | ok value => exact passes value rfl
  | error failure => exact fails failure rfl

/-- A body whose failures are handled. -/
theorem ensures_recover {body : ExceptT ε (Process Act Res) α} {handler : ε → ExceptT ε' (Process Act Res) α}
    {F : ε' → W → Prop} (ensures : body.run.Ensures env due (Ends Q E) w)
    (handles : ∀ failure w, E failure w → (handler failure).run.Ensures env due (Ends Q F) w) :
    (Process.recover body handler).run.Ensures env due (Ends Q F) w := by
  refine Ensures.bind (fun outcome w ended => ?_) ensures
  cases outcome with
  | ok value => exact ended
  | error failure => exact handles failure w ended

end Fallible

end Process

end DataVault.Interleaving
