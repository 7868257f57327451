/-
Module: DataVault.Interleaving.Following
Layer: Library
Purpose: One run among the others. A property of a run and the world that its own steps and the steps of the
  others keep holds as long as the run exists, and processes are classified by the actions they can still take.
  In contrast to a contract, the property may look at the process itself.
Imports: DataVault.Interleaving.Contract
Trusted boundary: none
Main exports: Machine.Moves, Machine.apply_moves, Machine.Performs, Machine.apply_related, Machine.Run.follows,
  Machine.PerformedIn, Machine.Run.follows_performed, Machine.countP_set, Process.returned, Process.Yields,
  Process.Every, Process.Once, Process.Chained, Process.Continues, Contract.Meets.of_every
-/
import DataVault.Interleaving.Contract

namespace DataVault.Interleaving

variable {Act : Type} {Res : Act → Type} {World Choice Drift Job Out : Type} {α β ε ε' : Type}

namespace Machine

variable {m : Machine Act Res World Choice Drift Job Out} {s s' : System Act Res World Out}
variable {event : Event Choice Drift Job}

/-- What an event does to the world: nothing on an arrival, an action of a run, or a drift. -/
inductive Moves (m : Machine Act Res World Choice Drift Job Out) (s : System Act Res World Out) (w' : World) :
    Event Choice Drift Job → Prop where
  | arrival (job : Job) (same : w' = s.world) : Moves m s w' (.arrive job)
  | action {run : Nat} {choice : Choice} {act : Act} {resume : Res act → Process Act Res Out}
      {answer : Res act} (waiting : s.runs[run]? = some (.await act resume))
      (executed : m.exec run choice act s.world = some (answer, w')) : Moves m s w' (.step run choice)
  | drifted {change : Drift} (happened : m.drift change s.world = some w') : Moves m s w' (.drift change)

theorem apply_moves (applied : m.apply s event = some s') : Moves m s s'.world event := by
  cases event with
  | arrive job =>
      cases applied
      exact .arrival job rfl
  | step run choice =>
      simp only [apply] at applied
      split at applied
      · rename_i act resume waiting
        obtain ⟨⟨answer, world⟩, executed, rfl⟩ := Option.map_eq_some_iff.mp applied
        exact .action waiting executed
      · cases applied
  | drift change =>
      obtain ⟨world, happened, rfl⟩ := Option.map_eq_some_iff.mp applied
      exact .drifted happened

/-- An event takes one run a step further or leaves its process as it is. -/
theorem apply_run {k : Nat} {process : Process Act Res Out} (present : s.runs[k]? = some process)
    (applied : m.apply s event = some s') :
    (s'.runs[k]? = some process ∧ ∀ choice, event ≠ .step k choice) ∨
      ∃ choice act resume answer, event = .step k choice ∧ process = .await act resume ∧
        m.exec k choice act s.world = some (answer, s'.world) ∧ s'.runs[k]? = some (resume answer) := by
  obtain ⟨inside, _⟩ := List.getElem?_eq_some_iff.mp present
  cases event with
  | arrive job =>
      cases applied
      refine .inl ⟨by simpa [List.getElem?_append_left inside] using present, ?_⟩
      intro choice equal
      cases equal
  | step run choice =>
      simp only [apply] at applied
      split at applied
      · rename_i act resume waiting
        obtain ⟨⟨answer, world⟩, executed, rfl⟩ := Option.map_eq_some_iff.mp applied
        by_cases same : run = k
        · subst same
          cases present.symm.trans waiting
          exact .inr ⟨choice, act, resume, answer, rfl, rfl, executed, by simp [inside]⟩
        · refine .inl ⟨by simpa [List.getElem?_set_ne same] using present, ?_⟩
          intro other equal
          cases equal
          exact same rfl
      · cases applied
  | drift change =>
      obtain ⟨world, happened, rfl⟩ := Option.map_eq_some_iff.mp applied
      refine .inl ⟨present, ?_⟩
      intro choice equal
      cases equal

/-- The event lets this run carry out this action. -/
def Performs (run : Nat) (act : Act) (s : System Act Res World Out) (event : Event Choice Drift Job) : Prop :=
  ∃ choice resume, event = .step run choice ∧ s.runs[run]? = some (.await act resume)

theorem Performs.unique {run run' : Nat} {act act' : Act} (first : Performs run act s event)
    (second : Performs run' act' s event) : run = run' ∧ act = act' := by
  obtain ⟨choice, resume, rfl, waiting⟩ := first
  obtain ⟨_, _, same, there⟩ := second
  cases same
  cases waiting.symm.trans there
  exact ⟨rfl, rfl⟩

/-- A relation that relates the world to itself by no action, to what an action makes of it by that action and to what
a drift makes of it by none, relates the worlds before and after every event by the action which the event carries
out. -/
theorem apply_related {R : World → World → Option (Nat × Act) → Prop} (same : ∀ w, R w w none)
    (action : ∀ run choice act w answer w', m.exec run choice act w = some (answer, w') → R w w' (some (run, act)))
    (drifts : ∀ change w w', m.drift change w = some w' → R w w' none) (applied : m.apply s event = some s') :
    ∃ carried, R s.world s'.world carried ∧ ∀ run act, carried = some (run, act) ↔ Performs run act s event := by
  cases apply_moves applied with
  | arrival job unchanged =>
      refine ⟨none, unchanged ▸ same _, fun run act => ⟨nofun, fun performs => ?_⟩⟩
      obtain ⟨_, _, other, _⟩ := performs
      cases other
  | @action run choice act resume answer waiting executed =>
      refine ⟨some (run, act), action run choice act _ answer _ executed, fun other performed => ⟨fun equal => ?_, ?_⟩⟩
      · cases equal
        exact ⟨choice, resume, rfl, waiting⟩
      · intro performs
        obtain ⟨rfl, rfl⟩ := Performs.unique performs ⟨choice, resume, rfl, waiting⟩
        rfl
  | drifted happened =>
      refine ⟨none, drifts _ _ _ happened, fun run act => ⟨nofun, fun performs => ?_⟩⟩
      obtain ⟨_, _, other, _⟩ := performs
      cases other

/-- The run that an arrival starts. -/
theorem apply_arrive {job : Job} (applied : m.apply s (.arrive job) = some s') :
    s'.runs[s.runs.length]? = some (m.handler job) ∧ s'.world = s.world := by
  cases applied
  simp

/-- Following one run: what its own steps keep, and every step of the others keeps for a process that does not
move, holds as long as the run exists. -/
theorem Run.follows {ok : System Act Res World Out → Event Choice Drift Job → Prop} {k : Nat}
    (P : Process Act Res Out → World → Prop)
    (own : ∀ s choice act resume answer w', ok s (.step k choice) →
      s.runs[k]? = some (.await act resume) → P (.await act resume) s.world →
      m.exec k choice act s.world = some (answer, w') → P (resume answer) w')
    (others : ∀ s event process w', ok s event → s.runs[k]? = some process →
      (∀ choice, event ≠ .step k choice) → Moves m s w' event → P process s.world → P process w')
    {events : List (Event Choice Drift Job)} (run : m.Run ok s events s')
    {process : Process Act Res Out} (present : s.runs[k]? = some process) (start : P process s.world) :
    ∃ process', s'.runs[k]? = some process' ∧ P process' s'.world := by
  refine Run.keeps (P := fun s => ∃ process, s.runs[k]? = some process ∧ P process s.world) ?_ run
    ⟨process, present, start⟩
  rintro s event s' ⟨process, present, holds⟩ permitted applied
  rcases apply_run present applied with ⟨kept, foreign⟩ | ⟨choice, act, resume, answer, rfl, rfl, executed, next⟩
  · exact ⟨process, kept, others s event process s'.world permitted present foreign (apply_moves applied) holds⟩
  · exact ⟨resume answer, next, own s choice act resume answer s'.world permitted present holds executed⟩

/-- Somewhere in the schedule the run carries out the action, in a system with this world. -/
def PerformedIn (m : Machine Act Res World Choice Drift Job Out) (run : Nat) (s : System Act Res World Out)
    (events : List (Event Choice Drift Job)) (act : Act) (w : World) : Prop :=
  ∃ before event after middle, events = before ++ event :: after ∧ m.Run (fun _ _ => True) s before middle ∧
    Performs run act middle event ∧ middle.world = w

/-- Following one run, knowing of each of its steps which action in which world of the schedule it is. -/
theorem Run.follows_performed {k : Nat} {events : List (Event Choice Drift Job)} (P : Process Act Res Out → Prop)
    (own : ∀ choice act resume w answer w', P (.await act resume) → m.PerformedIn k s events act w →
      m.exec k choice act w = some (answer, w') → P (resume answer))
    (run : m.Run (fun _ _ => True) s events s') {process : Process Act Res Out}
    (present : s.runs[k]? = some process) (start : P process) :
    ∃ process', s'.runs[k]? = some process' ∧ P process' := by
  refine run.taken.follows (fun process _ => P process) ?_ (fun _ _ _ _ _ _ _ _ holds => holds) present start
  rintro t choice act resume answer w' ⟨_, before, after, split, reaches⟩ waiting holds executed
  have performed : m.PerformedIn k s events act t.world :=
    ⟨before, _, after, t, split, reaches, ⟨choice, resume, rfl, waiting⟩, rfl⟩
  exact own choice act resume t.world answer w' holds performed executed

/-- A step changes the number of runs of a kind by what it makes of the run that takes it. -/
theorem countP_set {runs : List (Process Act Res Out)} {k : Nat} {process next : Process Act Res Out}
    (kind : Process Act Res Out → Bool) (present : runs[k]? = some process) :
    (runs.set k next).countP kind + (if kind process then 1 else 0) =
      runs.countP kind + (if kind next then 1 else 0) := by
  obtain ⟨inside, rfl⟩ := List.getElem?_eq_some_iff.mp present
  have counted := List.boole_getElem_le_countP (p := kind) inside
  rw [List.countP_set inside]
  omega

/-- Where a process comes from: it was there, it has just arrived, or it has taken this step. -/
theorem apply_origin {k : Nat} {process : Process Act Res Out} (present : s'.runs[k]? = some process)
    (applied : m.apply s event = some s') :
    s.runs[k]? = some process ∨ (∃ job, process = m.handler job) ∨
      ∃ choice act resume answer, event = .step k choice ∧ s.runs[k]? = some (.await act resume) ∧
        m.exec k choice act s.world = some (answer, s'.world) ∧ process = resume answer := by
  rcases Nat.lt_or_ge k s.runs.length with old | new
  · obtain ⟨before, there⟩ : ∃ before, s.runs[k]? = some before := ⟨_, List.getElem?_eq_getElem old⟩
    rcases apply_run there applied with ⟨kept, _⟩ | ⟨choice, act, resume, answer, same, rfl, executed, next⟩
    · exact .inl (there.trans (kept.symm.trans present))
    · cases next.symm.trans present
      exact .inr (.inr ⟨choice, act, resume, answer, same, there, executed, rfl⟩)
  · cases event with
    | arrive job =>
        cases applied
        rw [List.getElem?_append_right new] at present
        obtain ⟨_, rfl⟩ := List.getElem?_eq_some_iff.mp present
        exact .inr (.inl ⟨job, by simp⟩)
    | step run choice =>
        simp only [apply] at applied
        split at applied
        · obtain ⟨_, _, rfl⟩ := Option.map_eq_some_iff.mp applied
          simp [new] at present
        · cases applied
    | drift change =>
        obtain ⟨_, _, rfl⟩ := Option.map_eq_some_iff.mp applied
        simp [new] at present

/-- What every handler has and every answer keeps, every process has. -/
theorem Run.processes {ok : System Act Res World Out → Event Choice Drift Job → Prop}
    (P : Process Act Res Out → Prop) (handler : ∀ job, P (m.handler job))
    (resumes : ∀ act resume, P (.await act resume) → ∀ answer, P (resume answer))
    {events : List (Event Choice Drift Job)} (run : m.Run ok s events s')
    (start : ∀ (k : Nat) process, s.runs[k]? = some process → P process) :
    ∀ (k : Nat) process, s'.runs[k]? = some process → P process := by
  refine Run.keeps (P := fun s => ∀ (k : Nat) process, s.runs[k]? = some process → P process) ?_ run start
  rintro s event s' all _ applied k process present
  rcases apply_origin present applied with before | ⟨job, rfl⟩ | ⟨_, act, resume, answer, _, there, _, rfl⟩
  · exact all k process before
  · exact handler job
  · exact resumes act resume (all k _ there) answer

end Machine

/-! ### The actions a process can still take

A property of the actions of a process, whatever it is answered, is a property of its tree. `Process.Every` is that
property; it is closed under the constructs of handlers, so that a handler is checked part by part and not run by
run. -/

namespace Process

/-- What a process has returned. -/
def returned : Process Act Res α → Option α
  | .done value => some value
  | .await _ _ => none

theorem returned_eq_some {process : Process Act Res α} {value : α} :
    process.returned = some value ↔ process = .done value := by
  cases process <;> simp [returned]

/-- The action a process waits for. -/
def awaited : Process Act Res α → Option Act
  | .done _ => none
  | .await act _ => some act

theorem awaited_eq_some {process : Process Act Res α} {act : Act} :
    process.awaited = some act ↔ ∃ resume, process = .await act resume := by
  constructor
  · intro awaits
    cases process with
    | done value => cases awaits
    | await act resume =>
        cases awaits
        exact ⟨resume, rfl⟩
  · rintro ⟨resume, rfl⟩
    rfl

/-- Whatever the answers, what a process returns satisfies `Q`. -/
def Yields (Q : α → Prop) : Process Act Res α → Prop
  | .done value => Q value
  | .await _ resume => ∀ answer, Yields Q (resume answer)

theorem Yields.any : ∀ process : Process Act Res α, Yields (fun _ => True) process
  | .done _ => trivial
  | .await _ resume => fun answer => Yields.any (resume answer)

theorem Yields.bind {Q : α → Prop} {R : β → Prop} {next : α → Process Act Res β}
    (later : ∀ value, Q value → Yields R (next value)) :
    ∀ {process : Process Act Res α}, Yields Q process → Yields R (process >>= next)
  | .done _, yields => later _ yields
  | .await _ _, yields => fun answer => Yields.bind later (yields answer)

/-- Every action that a process can reach, whatever the answers, satisfies `P`. -/
def Every (P : Act → Prop) : Process Act Res α → Prop
  | .done _ => True
  | .await act resume => P act ∧ ∀ answer, Every P (resume answer)

/-- On every path at most one action satisfies `P`. -/
def Once (P : Act → Prop) : Process Act Res α → Prop
  | .done _ => True
  | .await act resume => (∀ answer, Once P (resume answer)) ∧
      (P act → ∀ answer, Every (fun act => ¬ P act) (resume answer))

variable {P : Act → Prop}

theorem Every.mono {P' : Act → Prop} (weaker : ∀ act, P act → P' act) :
    ∀ {process : Process Act Res α}, Every P process → Every P' process
  | .done _, _ => trivial
  | .await act _, every => ⟨weaker act every.1, fun answer => Every.mono weaker (every.2 answer)⟩

theorem Once.of_every : ∀ {process : Process Act Res α}, Every (fun act => ¬ P act) process → Once P process
  | .done _, _ => trivial
  | .await _ _, every =>
      ⟨fun answer => Once.of_every (every.2 answer), fun holds => absurd holds every.1⟩

theorem Every.bind {next : α → Process Act Res β} (later : ∀ value, Every P (next value)) :
    ∀ {process : Process Act Res α}, Every P process → Every P (process >>= next)
  | .done _, _ => later _
  | .await _ _, every => ⟨every.1, fun answer => Every.bind later (every.2 answer)⟩

theorem Once.bind {next : α → Process Act Res β}
    (later : ∀ value, Every (fun act => ¬ P act) (next value)) :
    ∀ {process : Process Act Res α}, Once P process → Once P (process >>= next)
  | .done _, _ => .of_every (later _)
  | .await _ _, once =>
      ⟨fun answer => Once.bind later (once.1 answer),
        fun holds answer => Every.bind later (once.2 holds answer)⟩

/-- The single action may also lie in the second process. -/
theorem Once.bind_after {next : α → Process Act Res β} (later : ∀ value, Once P (next value)) :
    ∀ {process : Process Act Res α}, Every (fun act => ¬ P act) process → Once P (process >>= next)
  | .done _, _ => later _
  | .await _ _, every =>
      ⟨fun answer => Once.bind_after later (every.2 answer), fun holds => absurd holds every.1⟩

section Fallible

variable {body : ExceptT ε (Process Act Res) α}

theorem every_bind {next : α → ExceptT ε (Process Act Res) β} (first : Every P body.run)
    (later : ∀ value, Every P (next value).run) : Every P (body >>= next).run := by
  refine Every.bind (fun outcome => ?_) first
  cases outcome with
  | ok value => exact later value
  | error failure => trivial

theorem every_liftExcept {outcome : Except ε α} :
    Every P (liftExcept outcome : ExceptT ε (Process Act Res) α).run := by
  cases outcome <;> trivial

theorem every_recover {handler : ε → ExceptT ε' (Process Act Res) α} (first : Every P body.run)
    (later : ∀ failure, Every P (handler failure).run) : Every P (recover body handler).run := by
  refine Every.bind (fun outcome => ?_) first
  cases outcome with
  | ok value => trivial
  | error failure => exact later failure

theorem every_withCleanup {cleanup : ExceptT ε (Process Act Res) Unit} (first : Every P body.run)
    (later : Every P cleanup.run) : Every P (withCleanup body cleanup).run := by
  refine Every.bind (fun outcome => Every.bind (fun cleaned => ?_) later) first
  cases cleaned <;> trivial

theorem once_bind {next : α → ExceptT ε (Process Act Res) β} (first : Once P body.run)
    (later : ∀ value, Every (fun act => ¬ P act) (next value).run) : Once P (body >>= next).run := by
  refine Once.bind (fun outcome => ?_) first
  cases outcome with
  | ok value => exact later value
  | error failure => trivial

theorem once_bind_after {next : α → ExceptT ε (Process Act Res) β}
    (first : Every (fun act => ¬ P act) body.run) (later : ∀ value, Once P (next value).run) :
    Once P (body >>= next).run := by
  refine Once.bind_after (fun outcome => ?_) first
  cases outcome with
  | ok value => exact later value
  | error failure => trivial

theorem once_recover {handler : ε → ExceptT ε' (Process Act Res) α} (first : Once P body.run)
    (later : ∀ failure, Every (fun act => ¬ P act) (handler failure).run) :
    Once P (recover body handler).run := by
  refine Once.bind (fun outcome => ?_) first
  cases outcome with
  | ok value => trivial
  | error failure => exact later failure

end Fallible

end Process

/-! ### What follows on an answer

Some facts are about neighbours: what a process does next after an answer. `Chained` says that each action stands in
a relation to the answer before it, and the rules keep this across sequencing and the handling of failures. -/

namespace Process

variable {R : (act : Act) → Res act → Act → Prop} {P : Act → Prop}

/-- Every action but the first stands in `R` to the action before it and the answer to that one. -/
def Chained (R : (act : Act) → Res act → Act → Prop) : Process Act Res α → Prop
  | .done _ => True
  | .await act resume => ∀ answer,
      (∀ next, (resume answer).awaited = some next → R act answer next) ∧ Chained R (resume answer)

/-- The action that a process waits for, if it does, satisfies `P`. -/
def Starts (P : Act → Prop) (process : Process Act Res α) : Prop := ∀ act, process.awaited = some act → P act

theorem Starts.of_every {process : Process Act Res α} (every : Every P process) : Starts P process := by
  intro act awaits
  obtain ⟨resume, rfl⟩ := awaited_eq_some.mp awaits
  exact every.1

/-- Actions that may follow on every answer. -/
theorem Chained.of_every (free : ∀ act answer next, P next → R act answer next) :
    ∀ {process : Process Act Res α}, Every P process → Chained R process
  | .done _, _ => trivial
  | .await act _, every => fun answer =>
      ⟨fun next awaits => free act answer next (Starts.of_every (every.2 answer) next awaits),
        Chained.of_every free (every.2 answer)⟩

/-- A chained process that starts with an action which may follow on every answer. -/
def Continues (P : Act → Prop) (R : (act : Act) → Res act → Act → Prop) (process : Process Act Res α) : Prop :=
  Starts P process ∧ Chained R process

/-- One awaited action inside a process that may fail. -/
theorem continues_lift (free : ∀ act answer next, P next → R act answer next) {act : Act}
    {next : Res act → ExceptT ε (Process Act Res) β} (allowed : P act)
    (later : ∀ answer, Continues P R (next answer).run) :
    Continues P R ((liftM (call act) : ExceptT ε (Process Act Res) _) >>= next).run := by
  constructor
  · intro first awaits
    cases awaits
    exact allowed
  · intro answer
    exact ⟨fun following awaits => free act answer following ((later answer).1 following awaits), (later answer).2⟩

/-- A check between two awaits. -/
theorem continues_liftExcept {outcome : Except ε α} {next : α → ExceptT ε (Process Act Res) β}
    (later : ∀ value, outcome = .ok value → Continues P R (next value).run) :
    Continues P R ((liftExcept outcome : ExceptT ε (Process Act Res) α) >>= next).run := by
  cases outcome with
  | ok value => exact later value rfl
  | error failure =>
      refine ⟨fun act awaits => ?_, trivial⟩
      cases awaits

/-- A chained process, followed by one that may follow on every answer. -/
theorem Chained.bind (free : ∀ act answer next, P next → R act answer next) {next : α → Process Act Res β}
    (later : ∀ value, Continues P R (next value)) :
    ∀ {process : Process Act Res α}, Chained R process → Chained R (process >>= next)
  | .done value, _ => (later value).2
  | .await act resume, chained => fun answer => by
      refine ⟨fun following awaits => ?_, Chained.bind free later (chained answer).2⟩
      obtain ⟨allowed, _⟩ := chained answer
      change (resume answer >>= next).awaited = some following at awaits
      cases resumed : resume answer with
      | done value =>
          rw [resumed] at awaits
          exact free act answer following ((later value).1 following awaits)
      | await act' resume' =>
          rw [resumed] at allowed awaits
          exact allowed following awaits

theorem Continues.bind (free : ∀ act answer next, P next → R act answer next) {next : α → Process Act Res β}
    (later : ∀ value, Continues P R (next value)) :
    ∀ {process : Process Act Res α}, Continues P R process → Continues P R (process >>= next)
  | .done value, _ => later value
  | .await _ _, continues => ⟨fun first awaits => continues.1 first awaits, Chained.bind free later continues.2⟩

theorem Continues.of_every (free : ∀ act answer next, P next → R act answer next) {process : Process Act Res α}
    (every : Every P process) : Continues P R process :=
  ⟨Starts.of_every every, Chained.of_every free every⟩

/-- A part that may fail, before the rest. -/
theorem continues_bind (free : ∀ act answer next, P next → R act answer next) {body : ExceptT ε (Process Act Res) α}
    {next : α → ExceptT ε (Process Act Res) β} (first : Continues P R body.run)
    (later : ∀ value, Continues P R (next value).run) : Continues P R (body >>= next).run := by
  refine Continues.bind free (fun outcome => ?_) first
  cases outcome with
  | ok value => exact later value
  | error failure => exact Continues.of_every free trivial

/-- A part whose failures are handled. -/
theorem continues_recover (free : ∀ act answer next, P next → R act answer next)
    {body : ExceptT ε (Process Act Res) α} {handler : ε → ExceptT ε' (Process Act Res) α}
    (first : Continues P R body.run) (later : ∀ failure, Continues P R (handler failure).run) :
    Continues P R (recover body handler).run := by
  refine Continues.bind free (fun outcome => ?_) first
  cases outcome with
  | ok value => exact Continues.of_every free trivial
  | error failure => exact later failure

end Process

namespace Machine

variable {m : Machine Act Res World Choice Drift Job Out} {s s' : System Act Res World Out}

/-- In a system whose processes are chained, the next action of a run stands in `R` to its answer. -/
theorem Run.chained {ok : System Act Res World Out → Event Choice Drift Job → Prop}
    {R : (act : Act) → Res act → Act → Prop} (handler : ∀ job, (m.handler job).Chained R)
    {events : List (Event Choice Drift Job)} (run : m.Run ok s events s') (idle : s.runs = []) :
    ∀ (k : Nat) process, s'.runs[k]? = some process → process.Chained R := by
  refine run.processes _ handler (fun act resume chained answer => (chained answer).2) ?_
  intro k process present
  rw [idle] at present
  cases present

end Machine

/-! ### Processes that disturb nobody -/

/-- A process whose actions need nothing and leave the run what it may rely on keeps everything that is stable. -/
theorem Contract.Meets.of_every {m : Machine Act Res World Choice Drift Job Out} {C : Contract m} {run : Nat}
    {P : Act → Prop} {K : World → Prop} (stable : ∀ w w', C.rely run w w' → K w → K w')
    (free : ∀ act w, P act → C.inv w → C.needs run act w ∧
      ∀ choice answer w', m.exec run choice act w = some (answer, w') → C.rely run w w') :
    ∀ {process : Process Act Res α} {w : World}, Process.Every P process → K w →
      C.Meets run (fun _ => K) process w
  | .done _, _, _, known => known
  | .await act _, _, every, known => fun w₁ relied holds =>
      ⟨(free act w₁ every.1 holds).1, fun choice answer w₂ executed =>
        Contract.Meets.of_every stable free (every.2 answer)
          (stable w₁ w₂ ((free act w₁ every.1 holds).2 choice answer w₂ executed) (stable _ w₁ relied known))⟩

/-- A process whose actions need nothing meets a contract that asks nothing of its end. -/
theorem Contract.meets_any_of_every {m : Machine Act Res World Choice Drift Job Out} {C : Contract m} {run : Nat}
    {P : Act → Prop} (free : ∀ act w, P act → C.needs run act w) :
    ∀ {process : Process Act Res α} {w : World}, Process.Every P process → C.Meets run Any process w
  | .done _, _, _ => trivial
  | .await act _, _, every => fun w₁ _ _ =>
      ⟨free act w₁ every.1, fun _ answer _ _ => Contract.meets_any_of_every free (every.2 answer)⟩

end DataVault.Interleaving
