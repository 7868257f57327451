/-
Module: DataVault.Payments.Reachable
Layer: Proof
Purpose: The invariant rule of the billing world. A property that every transition and every drift keeps holds
  along every interleaving of the payment handlers, whatever they are and however many there are. The rule
  comes in three forms: with a condition on the actions of a run, without one, and without one but with what a
  run knows of the attempts behind its requests.
Imports: DataVault.Payments.ServiceMeets
Trusted boundary: none
Main exports: Acting, invariant_from, invariant_of_transitions, invariant_of_attempts
-/
import DataVault.Payments.ServiceMeets

namespace DataVault.Payments

open DataVault.Interleaving

variable {config : PaymentConfig} {s s' : PaymentSystem} {events : List PaymentEvent}

/-- The condition that every action taken meets `action`. -/
abbrev Acting (action : Nat → Choice → PaymentAct → PaymentWorld → Prop) :
    PaymentSystem → PaymentEvent → Prop :=
  Contract.Permits action fun _ _ => True

/-- The invariant rule for runs whose actions meet a condition, from any state whose handlers meet the
contract. -/
theorem invariant_from {strict : Prop} {action : Nat → Choice → PaymentAct → PaymentWorld → Prop}
    (inv : PaymentWorld → Prop)
    (fences : ∀ run choice act w, action run choice act w → UsageFenced strict run choice act w)
    (keeps : ∀ run choice act w answer w', Consistent w → inv w → act.Known config strict run w →
      action run choice act w → paymentExec config.enabled run choice act w = some (answer, w') → inv w')
    (driftKeeps : ∀ change w w', inv w → paymentDrift change w = some w' → inv w')
    (run : (paymentMachine config).Run (Acting action) s events s')
    (all : Contract.AllMeet (paymentContract config strict False) s) (start : inv s.world) :
    Contract.AllMeet (paymentContract config strict False) s' ∧ inv s'.world := by
  have sound : (paymentContract config strict False).Sound action fun _ _ => True :=
    (paymentContract_sound config strict False).restrict fences fun _ _ _ => trivial
  refine sound.invariant inv ?_ (fun change w w' _ holds _ => driftKeeps change w w' holds) run all start
  intro run choice act w answer w' worlds holds known allowed executed
  exact keeps run choice act w answer w' worlds.consistent holds known.1 allowed executed

/-- A system in which nothing has started meets the contract if its world is consistent. -/
theorem idle_meets {strict : Prop} (consistent : Consistent s.world) (idle : s.runs = []) :
    Contract.AllMeet (paymentContract config strict False) s :=
  Contract.AllMeet.idle ⟨consistent, fun impossible => impossible.elim⟩ idle

/-- The invariant rule for all runs: what every transition and every drift keeps holds in every state that an
idle system reaches. -/
theorem invariant_of_transitions {ok : PaymentSystem → PaymentEvent → Prop} (inv : PaymentWorld → Prop)
    (keeps : ∀ run w w', Consistent w → inv w → PaymentStep config False run w w' → inv w')
    (driftKeeps : ∀ change w w', inv w → paymentDrift change w = some w' → inv w')
    (run : (paymentMachine config).Run ok s events s') (idle : s.runs = [])
    (consistent : Consistent s.world) (start : inv s.world) :
    Contract.AllMeet (paymentContract config False False) s' ∧ inv s'.world := by
  have free : (paymentMachine config).Run (Acting (UsageFenced False)) s events s' := by
    refine run.mono fun s event _ => ?_
    cases event with
    | arrive job => trivial
    | step run choice => exact fun _ _ _ impossible => impossible.elim
    | drift change => trivial
  refine invariant_from inv (fun _ _ _ _ fenced => fenced) ?_ driftKeeps free
    (idle_meets consistent idle) start
  intro run choice act w answer w' consistent holds known fenced executed
  exact keeps run w w' consistent holds (step_of_exec known fenced executed)

/-- The invariant rule with the attempts: where no stored attempt lies in the future at the start, every run
knows the attempt that it passed before a request. -/
theorem invariant_of_attempts {ok : PaymentSystem → PaymentEvent → Prop} (inv : PaymentWorld → Prop)
    (keeps : ∀ run choice act w answer w', Consistent w → inv w → act.Known config False run w → act.Timed w →
      paymentExec config.enabled run choice act w = some (answer, w') → inv w')
    (driftKeeps : ∀ change w w', inv w → paymentDrift change w = some w' → inv w')
    (run : (paymentMachine config).Run ok s events s') (idle : s.runs = [])
    (consistent : Consistent s.world) (past : AttemptsPast s.world) (start : inv s.world) :
    Contract.AllMeet (paymentContract config False True) s' ∧ inv s'.world := by
  have free : (paymentMachine config).Run (Acting (UsageFenced False)) s events s' := by
    refine run.mono fun s event _ => ?_
    cases event with
    | arrive job => trivial
    | step run choice => exact fun _ _ _ impossible => impossible.elim
    | drift change => trivial
  have sound := paymentContract_sound config False True
  have worlds : WorldInv True s.world := ⟨consistent, fun _ => past⟩
  refine sound.invariant inv ?_ (fun change w w' _ holds _ => driftKeeps change w w' holds) free
    (Contract.AllMeet.idle worlds idle) start
  intro run choice act w answer w' worlds holds known _ executed
  exact keeps run choice act w answer w' worlds.consistent holds known.1 (known.2 trivial) executed

end DataVault.Payments
