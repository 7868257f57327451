/-
Module: DataVault.Interleaving.Monitor
Layer: Library
Purpose: The steps of one run, and monitors that watch them. A monitor carries a state along the steps of a run and
  says which action it allows next. A process that obeys a monitor whatever it is answered is accepted by it in every
  interleaving.
Imports: DataVault.Interleaving.Following
Trusted boundary: none
Main exports: Machine.steps, Machine.actions, Monitor, Monitor.Accepts, Monitor.Obeys, Machine.Run.accepted
-/
import DataVault.Interleaving.Following

namespace DataVault.Interleaving

variable {Act : Type} {Res : Act → Type} {World Choice Drift Job Out S : Type} {α β ε ε' : Type}

/-! ### The steps of a run -/

/-- An action with its answer. -/
abbrev Step (Act : Type) (Res : Act → Type) := (act : Act) × Res act

namespace Machine

variable (m : Machine Act Res World Choice Drift Job Out)

/-- The step that an event lets run `k` take. -/
def stepOf (k : Nat) (s : System Act Res World Out) : Event Choice Drift Job → Option (Step Act Res)
  | .step run choice =>
      if run = k then
        match s.runs[k]? with
        | some (.await act _) => (m.exec k choice act s.world).map fun done => ⟨act, done.1⟩
        | _ => none
      else none
  | _ => none

/-- What run `k` does in a schedule, step by step. -/
def steps (k : Nat) : List (Event Choice Drift Job) → System Act Res World Out → List (Step Act Res)
  | [], _ => []
  | event :: rest, s =>
      match m.apply s event with
      | none => []
      | some s' => (m.stepOf k s event).toList ++ steps k rest s'

/-- What run `k` does, action by action. -/
def actions (k : Nat) (events : List (Event Choice Drift Job)) (s : System Act Res World Out) : List Act :=
  (m.steps k events s).map (·.1)

end Machine

/-! ### Monitors -/

/-- What a monitor allows in each of its states, and the state after each step. -/
structure Monitor (Act : Type) (Res : Act → Type) (S : Type) where
  allowed : S → Act → Prop
  after : S → (act : Act) → Res act → S

namespace Monitor

variable (M : Monitor Act Res S)

/-- The state after some steps. -/
def final (state : S) (steps : List (Step Act Res)) : S := steps.foldl (fun state step => M.after state step.1 step.2) state

/-- Every action is allowed in the state that the steps before it lead to. -/
def Accepts : S → List (Step Act Res) → Prop
  | _, [] => True
  | state, step :: rest => M.allowed state step.1 ∧ Accepts (M.after state step.1 step.2) rest

variable {M}

/-- What every allowed step keeps holds after accepted steps. -/
theorem Accepts.keeps {inv : S → Prop}
    (kept : ∀ state act answer, inv state → M.allowed state act → inv (M.after state act answer))
    {steps : List (Step Act Res)} {state : S} (accepts : M.Accepts state steps) (holds : inv state) :
    inv (M.final state steps) := by
  induction steps generalizing state with
  | nil => exact holds
  | cons step rest ih => exact ih accepts.2 (kept state step.1 step.2 holds accepts.1)

variable (M)

/-- From this state on a process does what the monitor allows, whatever possible answers it gets, and ends in `post`. -/
def Obeys (possible : (act : Act) → Res act → Prop) (post : α → S → Prop) : Process Act Res α → S → Prop
  | .done value, state => post value state
  | .await act resume, state => M.allowed state act ∧
      ∀ answer, possible act answer → Obeys possible post (resume answer) (M.after state act answer)

variable {M} {possible : (act : Act) → Res act → Prop}

theorem Obeys.mono {post post' : α → S → Prop} (weaker : ∀ value state, post value state → post' value state) :
    ∀ {process : Process Act Res α} {state : S},
      M.Obeys possible post process state → M.Obeys possible post' process state
  | .done _, _, obeys => weaker _ _ obeys
  | .await _ _, _, obeys => ⟨obeys.1, fun answer may => (obeys.2 answer may).mono weaker⟩

theorem Obeys.bind {mid : α → S → Prop} {post : β → S → Prop} {next : α → Process Act Res β}
    (continues : ∀ value state, mid value state → M.Obeys possible post (next value) state) :
    ∀ {process : Process Act Res α} {state : S},
      M.Obeys possible mid process state → M.Obeys possible post (process >>= next) state
  | .done _, _, obeys => continues _ _ obeys
  | .await _ _, _, obeys => ⟨obeys.1, fun answer may => Obeys.bind continues (obeys.2 answer may)⟩

/-- Actions that are always allowed and lead nowhere. -/
theorem Obeys.of_every {P : Act → Prop}
    (neutral : ∀ state act, P act → M.allowed state act ∧ ∀ answer, M.after state act answer = state) :
    ∀ {process : Process Act Res α} {state : S}, process.Every P →
      M.Obeys possible (fun _ state' => state' = state) process state
  | .done _, _, _ => rfl
  | .await act _, state, every => by
      obtain ⟨allowed, stays⟩ := neutral state act every.1
      refine ⟨allowed, fun answer _ => ?_⟩
      rw [stays]
      exact Obeys.of_every neutral (every.2 answer)

section Fallible

variable {Q : α → S → Prop} {R : β → S → Prop} {E : ε → S → Prop} {state : S}

theorem obeys_bind {first : ExceptT ε (Process Act Res) α} {next : α → ExceptT ε (Process Act Res) β}
    (obeys : M.Obeys possible (Ends Q E) first.run state)
    (continues : ∀ value state, Q value state → M.Obeys possible (Ends R E) (next value).run state) :
    M.Obeys possible (Ends R E) (first >>= next).run state := by
  refine Obeys.bind (fun outcome state ended => ?_) obeys
  cases outcome with
  | ok value => exact continues value state ended
  | error failure => exact ended

/-- One awaited action inside a process that may fail. -/
theorem obeys_lift {act : Act} {next : Res act → ExceptT ε (Process Act Res) β} (allowed : M.allowed state act)
    (continues : ∀ answer, possible act answer →
      M.Obeys possible (Ends R E) (next answer).run (M.after state act answer)) :
    M.Obeys possible (Ends R E) ((liftM (Process.call act) : ExceptT ε (Process Act Res) _) >>= next).run state :=
  ⟨allowed, continues⟩

/-- A check between two awaits. -/
theorem obeys_liftExcept {outcome : Except ε α} {next : α → ExceptT ε (Process Act Res) β}
    (passes : ∀ value, outcome = .ok value → M.Obeys possible (Ends R E) (next value).run state)
    (fails : ∀ failure, outcome = .error failure → E failure state) :
    M.Obeys possible (Ends R E) ((liftExcept outcome : ExceptT ε (Process Act Res) α) >>= next).run state := by
  cases outcome with
  | ok value => exact passes value rfl
  | error failure => exact fails failure rfl

/-- A body whose failures are handled. -/
theorem obeys_recover {body : ExceptT ε (Process Act Res) α} {handler : ε → ExceptT ε' (Process Act Res) α}
    {F : ε' → S → Prop} (obeys : M.Obeys possible (Ends Q E) body.run state)
    (handles : ∀ failure state, E failure state → M.Obeys possible (Ends Q F) (handler failure).run state) :
    M.Obeys possible (Ends Q F) (Process.recover body handler).run state := by
  refine Obeys.bind (fun outcome state ended => ?_) obeys
  cases outcome with
  | ok value => exact ended
  | error failure => exact handles failure state ended

/-- A body with a cleanup that is allowed in every state. -/
theorem obeys_withCleanup {post : Except ε α → S → Prop} {body : ExceptT ε (Process Act Res) α}
    {cleanup : ExceptT ε (Process Act Res) Unit} (obeys : M.Obeys possible post body.run state)
    (cleans : ∀ state, M.Obeys possible Any cleanup.run state) :
    M.Obeys possible Any (Process.withCleanup body cleanup).run state := by
  refine Obeys.bind (fun outcome state _ => ?_) obeys
  refine Obeys.bind (fun cleaned state _ => ?_) (cleans state)
  cases cleaned <;> trivial

end Fallible

end Monitor

namespace Machine

variable {m : Machine Act Res World Choice Drift Job Out} {s s' : System Act Res World Out}
variable {M : Monitor Act Res S} {possible : (act : Act) → Res act → Prop}

/-- A run that has not arrived is new to the monitor; one that has goes on as the monitor allows. -/
def Watched (M : Monitor Act Res S) (possible : (act : Act) → Res act → Prop) (start state : S) :
    Option (Process Act Res Out) → Prop
  | none => state = start
  | some process => M.Obeys possible Any process state

/-- Where every handler obeys a monitor, the monitor accepts what each run does in every interleaving. -/
theorem Run.accepted {ok : System Act Res World Out → Event Choice Drift Job → Prop} {start state : S} {k : Nat}
    (handler : ∀ job, M.Obeys possible Any (m.handler job) start)
    (answers : ∀ run choice act w answer w', m.exec run choice act w = some (answer, w') → possible act answer)
    {events : List (Event Choice Drift Job)} (run : m.Run ok s events s')
    (watched : Watched M possible start state s.runs[k]?) : M.Accepts state (m.steps k events s) := by
  induction run generalizing state with
  | nil => trivial
  | @cons s middle s' event rest permitted applied _ ih =>
      simp only [steps, applied]
      cases present : s.runs[k]? with
      | none =>
          rw [present] at watched
          obtain rfl : state = start := watched
          have nothing : m.stepOf k s event = none := by
            cases event <;> simp [stepOf, present]
          rw [nothing]
          refine ih ?_
          cases there : middle.runs[k]? with
          | none => rfl
          | some process =>
              rcases apply_origin there applied with before | ⟨job, rfl⟩ | ⟨_, _, _, _, _, before, _⟩
              · cases present.symm.trans before
              · exact handler job
              · cases present.symm.trans before
      | some process =>
          rw [present] at watched
          rcases apply_run present applied with ⟨kept, foreign⟩ | ⟨choice, act, resume, answer, rfl, rfl, executed, next⟩
          · have nothing : m.stepOf k s event = none := by
              cases event with
              | step run choice =>
                  have other : run ≠ k := fun same => foreign choice (same ▸ rfl)
                  simp [stepOf, other]
              | arrive | drift => rfl
            rw [nothing]
            apply ih
            rw [kept]
            exact watched
          · have done : m.stepOf k s (.step k choice : Event Choice Drift Job) = some ⟨act, answer⟩ := by
              simp [stepOf, present, executed]
            rw [done]
            refine ⟨watched.1, ih ?_⟩
            rw [next]
            exact watched.2 answer (answers _ _ _ _ _ _ executed)

end Machine

end DataVault.Interleaving
