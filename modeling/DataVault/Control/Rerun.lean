/-
Module: DataVault.Control.Rerun
Layer: Library
Purpose: Transaction callbacks that are run again after an abort. The abort rolls the database back and leaves
  the memory of the program as the aborted execution made it, so the next execution starts from another memory.
  The module fixes no database, no memory and no write.
Imports: DataVault.Control.Fallible
Trusted boundary: none
Main exports: Callback, Aborted, Callback.Reruns, Callback.Reruns.keeps, Callback.Reruns.settles
-/
import DataVault.Control.Fallible

namespace DataVault.Control

/-- A transaction callback: what it writes, given the database and the memory it starts from, and what it
assigns in memory once it has written. -/
structure Callback (Env Mem Write ε : Type) where
  decide : Env → Mem → Except ε Write
  remember : Write → Mem → Mem

/-- An aborted execution: the database it ran on and whether the abort came after the assignments. -/
structure Aborted (Env : Type) where
  env : Env
  late : Bool

/-- No execution got as far as its assignments. -/
def NoneLate {Env : Type} (aborted : List (Aborted Env)) : Prop :=
  ∀ execution ∈ aborted, execution.late = false

instance {Env : Type} (aborted : List (Aborted Env)) : Decidable (NoneLate aborted) :=
  inferInstanceAs (Decidable (∀ execution ∈ aborted, execution.late = false))

namespace Callback

variable {Env Mem Write ε : Type}

/-- The aborted executions of one transaction, in order, from the memory before the first one to the memory
that the next execution starts from. -/
inductive Reruns (callback : Callback Env Mem Write ε) : List (Aborted Env) → Mem → Mem → Prop where
  | nil (memory : Mem) : Reruns callback [] memory memory
  | early {env : Env} {rest : List (Aborted Env)} {memory final : Mem}
      (tail : Reruns callback rest memory final) : Reruns callback (⟨env, false⟩ :: rest) memory final
  | late {env : Env} {rest : List (Aborted Env)} {memory final : Mem} {write : Write}
      (decided : callback.decide env memory = .ok write)
      (tail : Reruns callback rest (callback.remember write memory) final) :
      Reruns callback (⟨env, true⟩ :: rest) memory final

namespace Reruns

variable {callback : Callback Env Mem Write ε} {aborted : List (Aborted Env)} {memory final : Mem}

/-- Executions that abort before their assignments leave the memory as it was. -/
theorem of_noneLate (reruns : callback.Reruns aborted memory final) (none : NoneLate aborted) :
    final = memory := by
  induction reruns with
  | nil => rfl
  | early _ ih => exact ih fun execution mem => none execution (List.mem_cons_of_mem _ mem)
  | late => cases none _ (List.mem_cons_self ..)

/-- What the assignments of every late execution keep holds of the memory in the end. -/
theorem keeps (inv : Mem → Prop) (reruns : callback.Reruns aborted memory final)
    (kept : ∀ env, ⟨env, true⟩ ∈ aborted → ∀ before write, inv before →
      callback.decide env before = .ok write → inv (callback.remember write before))
    (start : inv memory) : inv final := by
  induction reruns with
  | nil => exact start
  | early _ ih => exact ih (fun env mem => kept env (List.mem_cons_of_mem _ mem)) start
  | late decided _ ih =>
      exact ih (fun env mem => kept env (List.mem_cons_of_mem _ mem))
        (kept _ (List.mem_cons_self ..) _ _ start decided)

/-- What one late execution establishes, and the others keep, holds of the memory in the end. -/
theorem settles (inv done : Mem → Prop) (reruns : callback.Reruns aborted memory final)
    (kept : ∀ env, ⟨env, true⟩ ∈ aborted → ∀ before write, inv before →
      callback.decide env before = .ok write → inv (callback.remember write before))
    (doneKept : ∀ env, ⟨env, true⟩ ∈ aborted → ∀ before write, inv before → done before →
      callback.decide env before = .ok write → done (callback.remember write before))
    {settling : Env} (late : ⟨settling, true⟩ ∈ aborted)
    (establishes : ∀ before write, inv before → callback.decide settling before = .ok write →
      done (callback.remember write before))
    (start : inv memory) : done final := by
  induction reruns with
  | nil => cases late
  | early _ ih =>
      rcases List.mem_cons.mp late with first | later
      · cases first
      · exact ih (fun env mem => kept env (List.mem_cons_of_mem _ mem))
          (fun env mem => doneKept env (List.mem_cons_of_mem _ mem)) later start
  | @late env rest before final write decided tail ih =>
      have next : inv (callback.remember write before) :=
        kept env (List.mem_cons_self ..) before write start decided
      rcases List.mem_cons.mp late with first | later
      · cases first
        -- The settling execution is the first one: from here on `done` is kept.
        have both : inv final ∧ done final := by
          refine keeps (fun memory => inv memory ∧ done memory) tail ?_
            ⟨next, establishes before write start decided⟩
          intro other mem older written holds decides
          exact ⟨kept other (List.mem_cons_of_mem _ mem) older written holds.1 decides,
            doneKept other (List.mem_cons_of_mem _ mem) older written holds.1 holds.2 decides⟩
        exact both.2
      · exact ih (fun env mem => kept env (List.mem_cons_of_mem _ mem))
          (fun env mem => doneKept env (List.mem_cons_of_mem _ mem)) later next

end Reruns

end Callback

end DataVault.Control
