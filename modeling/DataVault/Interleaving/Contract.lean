/-
Module: DataVault.Interleaving.Contract
Layer: Library
Purpose: Rely-style reasoning about the processes of a machine. A contract says what every step of the
  others leaves true for a run (`rely`), what holds in every world (`inv`), what a run must know when it
  executes an action (`needs`) and what it has established when it has returned (`ends`).
  `Contract.Meets` reads a process as a tree of proof obligations under that contract. Once every handler
  meets the contract, a property of the worlds is an invariant of all interleavings as soon as each single
  action keeps it, and that proof may use the `needs` of the action; the programs are not looked at again.
Imports: DataVault.Interleaving.Process
Trusted boundary: none
Main exports: Contract, Contract.Meets, Contract.Sound, Contract.Sound.invariant, Ends, Contract.both,
  Contract.Sound.both
-/
import DataVault.Interleaving.Process

namespace DataVault.Interleaving

variable {Act : Type} {Res : Act → Type} {World Choice Drift Job Out : Type}
variable {α β ε ε' : Type}

/-- What a run may rely on between two of its steps, what it may rely on in every world, what it has to know
at each of its steps and what it leaves behind. -/
structure Contract (m : Machine Act Res World Choice Drift Job Out) where
  rely : Nat → World → World → Prop
  inv : World → Prop
  needs : Nat → Act → World → Prop
  ends : Nat → Out → World → Prop

namespace Contract

variable {m : Machine Act Res World Choice Drift Job Out} (C : Contract m) (run : Nat)

/-- `process`, executed by `run` from `w` on, has what it needs at every action it can reach, whatever
the others do in between, and ends in `post`. The recursion is on the process: no fuel, no fixed point. -/
def Meets (post : α → World → Prop) : Process Act Res α → World → Prop
  | .done value, w => post value w
  | .await act resume, w => ∀ w₁, C.rely run w w₁ → C.inv w₁ → C.needs run act w₁ ∧
      ∀ choice answer w₂, m.exec run choice act w₁ = some (answer, w₂) →
        Meets post (resume answer) w₂

variable {C run}

@[simp] theorem meets_done {post : α → World → Prop} {value : α} {w : World} :
    C.Meets run post (.done value) w ↔ post value w := Iff.rfl

theorem Meets.mono {post post' : α → World → Prop} (weaker : ∀ value w, post value w → post' value w) :
    ∀ {process : Process Act Res α} {w : World},
      C.Meets run post process w → C.Meets run post' process w
  | .done _, _, meets => weaker _ _ meets
  | .await _ _, _, meets => fun w₁ relied holds =>
      ⟨(meets w₁ relied holds).1, fun choice answer w₂ executed =>
        ((meets w₁ relied holds).2 choice answer w₂ executed).mono weaker⟩

/-- The sequencing rule: what the first process ends in is what the second one starts from. -/
theorem Meets.bind {mid : α → World → Prop} {post : β → World → Prop} {next : α → Process Act Res β}
    (continues : ∀ value w, mid value w → C.Meets run post (next value) w) :
    ∀ {process : Process Act Res α} {w : World},
      C.Meets run mid process w → C.Meets run post (process >>= next) w
  | .done _, _, meets => continues _ _ meets
  | .await _ _, _, meets => fun w₁ relied holds =>
      ⟨(meets w₁ relied holds).1, fun choice answer w₂ executed =>
        Meets.bind continues ((meets w₁ relied holds).2 choice answer w₂ executed)⟩

/-- One awaited action. -/
theorem meets_call {act : Act} {post : Res act → World → Prop} {w : World}
    (step : ∀ w₁, C.rely run w w₁ → C.inv w₁ → C.needs run act w₁ ∧
      ∀ choice answer w₂, m.exec run choice act w₁ = some (answer, w₂) → post answer w₂) :
    C.Meets run post (Process.call act) w := step

end Contract

/-- The postcondition of a process that may fail: `Q` of its result, `E` of its failure. -/
def Ends (Q : α → World → Prop) (E : ε → World → Prop) : Except ε α → World → Prop
  | .ok value, w => Q value w
  | .error failure, w => E failure w

/-- The postcondition that asks nothing. -/
def Any : α → World → Prop := fun _ _ => True

namespace Contract

variable {m : Machine Act Res World Choice Drift Job Out} {C : Contract m} {run : Nat}

section Fallible

variable {Q : α → World → Prop} {R : β → World → Prop} {E : ε → World → Prop} {w : World}

@[simp] theorem meets_pure {value : α} :
    C.Meets run (Ends Q E) (pure value : ExceptT ε (Process Act Res) α).run w ↔ Q value w := Iff.rfl

@[simp] theorem meets_throw {failure : ε} :
    C.Meets run (Ends Q E) (throw failure : ExceptT ε (Process Act Res) α).run w ↔ E failure w :=
  Iff.rfl

/-- The sequencing rule for processes that may fail: a failure skips the continuation. -/
theorem meets_bind {first : ExceptT ε (Process Act Res) α} {next : α → ExceptT ε (Process Act Res) β}
    (meets : C.Meets run (Ends Q E) first.run w)
    (continues : ∀ value w', Q value w' → C.Meets run (Ends R E) (next value).run w') :
    C.Meets run (Ends R E) (first >>= next).run w := by
  refine Meets.bind (fun outcome w' ended => ?_) meets
  cases outcome with
  | ok value => exact continues value w' ended
  | error failure => exact ended

/-- One awaited action inside a process that may fail. -/
theorem meets_lift {act : Act} {next : Res act → ExceptT ε (Process Act Res) β}
    (step : ∀ w₁, C.rely run w w₁ → C.inv w₁ → C.needs run act w₁ ∧
      ∀ choice answer w₂, m.exec run choice act w₁ = some (answer, w₂) →
        C.Meets run (Ends R E) (next answer).run w₂) :
    C.Meets run (Ends R E) ((liftM (Process.call act) : ExceptT ε (Process Act Res) _) >>= next).run w :=
  step

/-- A check between two awaits: the continuation starts where it passed. -/
theorem meets_liftExcept {outcome : Except ε α} {next : α → ExceptT ε (Process Act Res) β}
    (passes : ∀ value, outcome = .ok value → C.Meets run (Ends R E) (next value).run w)
    (fails : ∀ failure, outcome = .error failure → E failure w) :
    C.Meets run (Ends R E) ((liftExcept outcome : ExceptT ε (Process Act Res) α) >>= next).run w := by
  cases outcome with
  | ok value => exact passes value rfl
  | error failure => exact fails failure rfl

/-- A body with a cleanup: the cleanup runs from whatever the body ends in. -/
theorem meets_withCleanup {body : ExceptT ε (Process Act Res) α}
    {cleanup : ExceptT ε (Process Act Res) Unit} {F : ε → World → Prop}
    (meets : C.Meets run (Ends Q E) body.run w)
    (cleans : ∀ outcome w', Ends Q E outcome w' →
      C.Meets run (Ends (fun _ => Ends Q F outcome) F) cleanup.run w') :
    C.Meets run (Ends Q F) (Process.withCleanup body cleanup).run w := by
  refine Meets.bind (fun outcome w' ended => ?_) meets
  refine Meets.bind (fun cleaned w'' cleanedUp => ?_) (cleans outcome w' ended)
  cases cleaned with
  | error failure => exact cleanedUp
  | ok _ =>
      cases outcome with
      | ok value => exact cleanedUp
      | error failure => exact cleanedUp

/-- A body whose failures are handled. -/
theorem meets_recover {body : ExceptT ε (Process Act Res) α}
    {handler : ε → ExceptT ε' (Process Act Res) α} {F : ε' → World → Prop}
    (meets : C.Meets run (Ends Q E) body.run w)
    (handles : ∀ failure w', E failure w' → C.Meets run (Ends Q F) (handler failure).run w') :
    C.Meets run (Ends Q F) (Process.recover body handler).run w := by
  refine Meets.bind (fun outcome w' ended => ?_) meets
  cases outcome with
  | ok value => exact ended
  | error failure => exact handles failure w' ended

end Fallible

/-- A contract is sound for its machine, as far as the actions and drifts of a run meet two conditions: the
relied-on relation is a preorder that every step of another run and of the environment satisfies, the
invariant is kept, and every handler meets the contract from any world. -/
structure Sound (C : Contract m) (action : Nat → Choice → Act → World → Prop)
    (drifts : Drift → World → Prop) : Prop where
  refl : ∀ run w, C.rely run w w
  trans : ∀ {run w₁ w₂ w₃}, C.rely run w₁ w₂ → C.rely run w₂ w₃ → C.rely run w₁ w₃
  step : ∀ {run choice act w answer w'}, C.inv w → C.needs run act w → action run choice act w →
    m.exec run choice act w = some (answer, w') → ∀ other, other ≠ run → C.rely other w w'
  keeps : ∀ {run choice act w answer w'}, C.inv w → C.needs run act w → action run choice act w →
    m.exec run choice act w = some (answer, w') → C.inv w'
  drift : ∀ {change w w'}, C.inv w → drifts change w → m.drift change w = some w' → ∀ run, C.rely run w w'
  driftKeeps : ∀ {change w w'}, C.inv w → drifts change w → m.drift change w = some w' → C.inv w'
  handler : ∀ job run w, C.Meets run (C.ends run) (m.handler job) w
  ended : ∀ {run out w w'}, C.ends run out w → C.rely run w w' → C.ends run out w'

/-- A sound contract stays sound under stronger conditions on the actions and the drifts. -/
theorem Sound.restrict {action action' : Nat → Choice → Act → World → Prop}
    {drifts drifts' : Drift → World → Prop} (sound : C.Sound action drifts)
    (stronger : ∀ run choice act w, action' run choice act w → action run choice act w)
    (fewer : ∀ change w, drifts' change w → drifts change w) : C.Sound action' drifts' where
  refl := sound.refl
  trans := sound.trans
  step inv needs allowed := sound.step inv needs (stronger _ _ _ _ allowed)
  keeps inv needs allowed := sound.keeps inv needs (stronger _ _ _ _ allowed)
  drift inv allowed := sound.drift inv (fewer _ _ allowed)
  driftKeeps inv allowed := sound.driftKeeps inv (fewer _ _ allowed)
  handler := sound.handler
  ended := sound.ended

/-- The condition on events that a condition on executed actions and one on drifts induce. -/
def Permits (action : Nat → Choice → Act → World → Prop) (drifts : Drift → World → Prop) :
    System Act Res World Out → Event Choice Drift Job → Prop
  | _, .arrive _ => True
  | s, .step run choice =>
      ∀ act resume, s.runs[run]? = some (.await act resume) → action run choice act s.world
  | s, .drift change => drifts change s.world

instance {action : Nat → Choice → Act → World → Prop} {drifts : Drift → World → Prop}
    [∀ run choice act w, Decidable (action run choice act w)] [∀ change w, Decidable (drifts change w)]
    (s : System Act Res World Out) (event : Event Choice Drift Job) :
    Decidable (Permits action drifts s event) :=
  match event with
  | .arrive _ => .isTrue trivial
  | .drift change => inferInstanceAs (Decidable (drifts change s.world))
  | .step run choice =>
      match waiting : s.runs[run]? with
      | some (.await act _) =>
          if allowed : action run choice act s.world then
            .isTrue fun _ _ same => by
              rw [waiting] at same
              cases same
              exact allowed
          else .isFalse fun permitted => allowed (permitted _ _ waiting)
      | some (.done _) => .isTrue fun _ _ same => by
          rw [waiting] at same
          cases same
      | none => .isTrue fun _ _ same => by
          rw [waiting] at same
          cases same

/-- The invariant holds and every run of the system still meets the contract. -/
structure AllMeet (C : Contract m) (s : System Act Res World Out) : Prop where
  inv : C.inv s.world
  meets : ∀ run process, s.runs[run]? = some process → C.Meets run (C.ends run) process s.world

/-- A system in which nothing has started meets every contract whose invariant holds. -/
theorem AllMeet.idle {s : System Act Res World Out} (inv : C.inv s.world) (idle : s.runs = []) :
    AllMeet C s where
  inv := inv
  meets run process started := by
    rw [idle] at started
    cases started

namespace Sound

variable {action : Nat → Choice → Act → World → Prop} {drifts : Drift → World → Prop}
variable (sound : C.Sound action drifts)
include sound

/-- Meeting a contract survives the steps of the others. -/
theorem meets_of_rely {process : Process Act Res Out} {w w' : World}
    (meets : C.Meets run (C.ends run) process w) (relied : C.rely run w w') :
    C.Meets run (C.ends run) process w' := by
  cases process with
  | done value => exact sound.ended meets relied
  | await act resume => exact fun w₁ further => meets w₁ (sound.trans relied further)

theorem allMeet_apply {s s' : System Act Res World Out} {event : Event Choice Drift Job}
    (all : AllMeet C s) (permitted : Permits action drifts s event) (applied : m.apply s event = some s') :
    AllMeet C s' := by
  cases event with
  | arrive job =>
      cases applied
      refine ⟨all.inv, fun run process started => ?_⟩
      rcases Nat.lt_or_ge run s.runs.length with old | new
      · exact all.meets run process (by simpa [List.getElem?_append_left old] using started)
      · rw [List.getElem?_append_right new] at started
        obtain ⟨_, rfl⟩ := List.getElem?_eq_some_iff.mp started
        simpa using sound.handler job run s.world
  | step run choice =>
      simp only [Machine.apply] at applied
      split at applied
      · rename_i act resume waiting
        obtain ⟨⟨answer, world⟩, executed, rfl⟩ := Option.map_eq_some_iff.mp applied
        have allowed := permitted act resume waiting
        have ready := all.meets run _ waiting s.world (sound.refl _ _) all.inv
        refine ⟨sound.keeps all.inv ready.1 allowed executed, fun other process present => ?_⟩
        by_cases same : other = run
        · subst same
          obtain ⟨_, atRun⟩ := List.getElem?_eq_some_iff.mp present
          have : process = resume answer := by simpa using atRun.symm
          subst this
          exact ready.2 choice answer world executed
        · have kept : s.runs[other]? = some process := by
            simpa [List.getElem?_set_ne (Ne.symm same)] using present
          exact sound.meets_of_rely (all.meets other process kept)
            (sound.step all.inv ready.1 allowed executed other same)
      · cases applied
  | drift change =>
      obtain ⟨world, drifted, rfl⟩ := Option.map_eq_some_iff.mp applied
      exact ⟨sound.driftKeeps all.inv permitted drifted, fun run process present =>
        sound.meets_of_rely (all.meets run process present) (sound.drift all.inv permitted drifted run)⟩

/-- The invariant rule. A property of worlds holds along every run as soon as each action keeps it,
given what the contract says the acting run knows; the bodies of the handlers play no part. -/
theorem invariant (inv : World → Prop)
    (keeps : ∀ run choice act w answer w', C.inv w → inv w → C.needs run act w →
      action run choice act w → m.exec run choice act w = some (answer, w') → inv w')
    (driftKeeps : ∀ change w w', C.inv w → inv w → drifts change w → m.drift change w = some w' → inv w')
    {s s' : System Act Res World Out} {events : List (Event Choice Drift Job)}
    (run : m.Run (Permits action drifts) s events s') (all : AllMeet C s) (start : inv s.world) :
    AllMeet C s' ∧ inv s'.world := by
  refine Machine.Run.keeps (P := fun s => AllMeet C s ∧ inv s.world) ?_ run ⟨all, start⟩
  rintro s event s' ⟨all, holds⟩ permitted applied
  refine ⟨sound.allMeet_apply all permitted applied, ?_⟩
  cases event with
  | arrive job => cases applied; exact holds
  | step run choice =>
      simp only [Machine.apply] at applied
      split at applied
      · rename_i act resume waiting
        obtain ⟨⟨answer, world⟩, executed, rfl⟩ := Option.map_eq_some_iff.mp applied
        exact keeps run choice act s.world answer world all.inv holds
          (all.meets run _ waiting s.world (sound.refl _ _) all.inv).1
          (permitted act resume waiting) executed
      · cases applied
  | drift change =>
      obtain ⟨world, drifted, rfl⟩ := Option.map_eq_some_iff.mp applied
      exact driftKeeps change s.world world all.inv holds permitted drifted

end Sound

/-! ### Two contracts at once -/

section Both

variable (C D : Contract m)

/-- Whatever both contracts ask and allow. -/
def both : Contract m where
  rely run w w' := C.rely run w w' ∧ D.rely run w w'
  inv w := C.inv w ∧ D.inv w
  needs run act w := C.needs run act w ∧ D.needs run act w
  ends run out w := C.ends run out w ∧ D.ends run out w

variable {C D}

theorem Meets.both {post post' : α → World → Prop} :
    ∀ {process : Process Act Res α} {w : World}, C.Meets run post process w → D.Meets run post' process w →
      (C.both D).Meets run (fun value w => post value w ∧ post' value w) process w
  | .done _, _, first, second => ⟨first, second⟩
  | .await _ _, _, first, second => fun w₁ relied holds =>
      ⟨⟨(first w₁ relied.1 holds.1).1, (second w₁ relied.2 holds.2).1⟩, fun choice answer w₂ executed =>
        Meets.both ((first w₁ relied.1 holds.1).2 choice answer w₂ executed)
          ((second w₁ relied.2 holds.2).2 choice answer w₂ executed)⟩

/-- A second contract may be justified with what the first one, which is sound, says of every step. -/
theorem Sound.both {action : Nat → Choice → Act → World → Prop} {drifts : Drift → World → Prop}
    (sound : C.Sound action drifts) (refl : ∀ run w, D.rely run w w)
    (trans : ∀ {run w₁ w₂ w₃}, D.rely run w₁ w₂ → D.rely run w₂ w₃ → D.rely run w₁ w₃)
    (step : ∀ {run choice act w answer w'}, C.inv w → C.needs run act w → D.inv w → D.needs run act w →
      action run choice act w → m.exec run choice act w = some (answer, w') →
        (∀ other, other ≠ run → D.rely other w w') ∧ D.inv w')
    (drift : ∀ {change w w'}, C.inv w → D.inv w → drifts change w → m.drift change w = some w' →
      (∀ run, D.rely run w w') ∧ D.inv w')
    (handler : ∀ job run w, D.Meets run (D.ends run) (m.handler job) w)
    (ended : ∀ {run out w w'}, D.ends run out w → D.rely run w w' → D.ends run out w') :
    (C.both D).Sound action drifts where
  refl run w := ⟨sound.refl run w, refl run w⟩
  trans one two := ⟨sound.trans one.1 two.1, trans one.2 two.2⟩
  step inv needs allowed executed other differs :=
    ⟨sound.step inv.1 needs.1 allowed executed other differs,
      (step inv.1 needs.1 inv.2 needs.2 allowed executed).1 other differs⟩
  keeps inv needs allowed executed :=
    ⟨sound.keeps inv.1 needs.1 allowed executed, (step inv.1 needs.1 inv.2 needs.2 allowed executed).2⟩
  drift inv allowed drifted run :=
    ⟨sound.drift inv.1 allowed drifted run, (drift inv.1 inv.2 allowed drifted).1 run⟩
  driftKeeps inv allowed drifted :=
    ⟨sound.driftKeeps inv.1 allowed drifted, (drift inv.1 inv.2 allowed drifted).2⟩
  handler job run w := Meets.both (sound.handler job run w) (handler job run w)
  ended holds relied := ⟨sound.ended holds.1 relied.1, ended holds.2 relied.2⟩

end Both

end Contract

end DataVault.Interleaving
