/-
Module: DataVault.Payments.Worker
Layer: Model
Purpose: The worker that reconciles due companies with Stripe (payments/payments.worker.ts). Any number of processes
  run it at the same time over one collection of subscriptions.
Imports: DataVault.Interleaving.Process, DataVault.Payments.Constants, Mathlib.Data.List.Sort
Trusted boundary: human-reviewed spec
Main exports: SyncRow, SyncWorld, WorkerAct, runWorker, workerMachine
-/
import DataVault.Interleaving.Process
import DataVault.Payments.Constants
import Mathlib.Data.List.Sort

namespace DataVault.Payments

open DataVault.Interleaving

/-- What the worker reads and writes of a subscription. -/
structure SyncRow where
  id : Nat
  companyId : Nat
  stripeManaged : Bool
  hasCheckoutSession : Bool
  stripeNextSyncAt : Option Int
  paymentSyncIssue : PaymentSyncIssue
deriving DecidableEq, Repr

/-- The order of the field in the database: an absent value comes first. -/
def syncsBefore (first second : Option Int) : Bool :=
  match first, second with
  | none, _ => true
  | some _, none => false
  | some one, some two => one ≤ two

namespace SyncRow

variable (row : SyncRow)

def managed : Bool := row.stripeManaged || row.hasCheckoutSession

/-- `$or: [{ stripeNextSyncAt: { $lte: now } }, { stripeNextSyncAt: { $exists: false } }]` -/
def due (now : Int) : Bool := row.stripeNextSyncAt.all (· ≤ now)

end SyncRow

def inQueueOrder (first second : SyncRow) : Bool := syncsBefore first.stripeNextSyncAt second.stripeNextSyncAt

/-- `find(…).sort({ stripeNextSyncAt: 1 }).limit(20)`, from the rows in the order in which the database meets them. -/
def listTenants (rows : List SyncRow) (now : Int) : List SyncRow :=
  ((rows.filter fun row => row.managed && row.due now).insertionSort (inQueueOrder · ·)).take 20

structure SyncWorld where
  now : Int
  rows : List SyncRow

namespace SyncWorld

variable (w : SyncWorld)

/-- The row that an update by identifier changes. -/
def update (id : Nat) (change : SyncRow → SyncRow) : SyncWorld :=
  { w with rows := w.rows.map fun row => if row.id = id then change row else row }

/-- The update that claims a tenant, with its `matchedCount`. -/
def claim (id : Nat) (now next : Int) : Nat × SyncWorld :=
  if w.rows.any fun row => row.id = id && row.due now then
    (1, w.update id fun row => if row.due now then { row with stripeNextSyncAt := some next } else row)
  else (0, w)

def markRetry (id : Nat) : SyncWorld :=
  w.update id fun row =>
    if row.paymentSyncIssue ≠ .reconciliationRequired then { row with paymentSyncIssue := .retryRequired } else row

end SyncWorld

/-! ### Actions -/

/-- A call that failed. -/
inductive WorkerFailure where
  | unavailable
deriving DecidableEq, Repr

inductive WorkerAct where
  | date
  | find (now : Int)
  | claim (id : Nat) (now next : Int)
  | reconcileCompany (companyId : Nat)
  | markRetry (id : Nat)
deriving DecidableEq, Repr

abbrev WorkerAct.Res : WorkerAct → Type
  | .date => Int
  | .find _ => Except WorkerFailure (List SyncRow)
  | .claim .. => Except WorkerFailure Nat
  | .reconcileCompany _ | .markRetry _ => Except WorkerFailure Unit

abbrev WorkerHandler (α : Type) := ExceptT WorkerFailure (Process WorkerAct WorkerAct.Res) α

/-- Awaits an action. -/
def awaits (act : WorkerAct) : Process WorkerAct WorkerAct.Res act.Res := Process.call act

/-! ### The worker -/

/-- A claimed company is reconciled; its failure is noted. -/
def reconcileTenant (tenant : SyncRow) : WorkerHandler Unit :=
  Process.recover (ExceptT.mk (awaits (.reconcileCompany tenant.companyId))) fun _ =>
    ExceptT.mk (awaits (.markRetry tenant.id))

/-- The loop over the tenants. `syncInterval` is STRIPE_SYNC_INTERVAL_MS. -/
def syncTenants (syncInterval now : Int) : List SyncRow → WorkerHandler Unit
  | [] => pure ()
  | tenant :: rest => do
      let instant ← ExceptT.lift (awaits .date)
      let matchedCount ← ExceptT.mk (awaits (.claim tenant.id now (instant + syncInterval)))
      if matchedCount ≠ 0 then reconcileTenant tenant
      syncTenants syncInterval now rest

/-- `run`; the failure that it catches and logs is its result here. -/
def runWorker (syncInterval : Int) : Process WorkerAct WorkerAct.Res (Except WorkerFailure Unit) :=
  ExceptT.run do
    let now ← ExceptT.lift (awaits .date)
    let tenants ← ExceptT.mk (awaits (.find now))
    syncTenants syncInterval now tenants

/-! ### The machine -/

/-- How an action ends: the order in which the database meets the rows, and whether the call fails, after it has taken
effect or before. -/
structure WorkerChoice where
  order : List SyncRow := []
  fails : Bool := false
  takesEffect : Bool := true

/-- A write that may fail on either side of its effect. -/
def written {α : Type} (choice : WorkerChoice) (w : SyncWorld) (done : α × SyncWorld) :
    Except WorkerFailure α × SyncWorld :=
  if choice.fails then (.error .unavailable, if choice.takesEffect then done.2 else w) else (.ok done.1, done.2)

def workerExec (choice : WorkerChoice) : (act : WorkerAct) → SyncWorld → Option (act.Res × SyncWorld)
  | .date, w => some (w.now, w)
  | .find now, w =>
      if choice.fails then some (.error .unavailable, w)
      else if choice.order.isPerm w.rows then some (.ok (listTenants choice.order now), w)
      else none
  | .claim id now next, w => some (written choice w (w.claim id now next))
  | .reconcileCompany _, w => some (written choice w ((), w))
  | .markRetry id, w => some (written choice w ((), w.markRetry id))

/-- What the other parts of the program do to the subscriptions: they never write the instant of the next
synchronization. -/
inductive SyncDrift where
  | pass (now : Int)
  | enroll (row : SyncRow)
  | manage (id : Nat) (stripeManaged hasCheckoutSession : Bool)
  | noteIssue (id : Nat) (issue : PaymentSyncIssue)

def syncDrift : SyncDrift → SyncWorld → Option SyncWorld
  | .pass now, w => if w.now ≤ now then some { w with now := now } else none
  | .enroll row, w =>
      if w.rows.all fun other => other.id ≠ row.id then some { w with rows := w.rows ++ [row] } else none
  | .manage id stripeManaged hasCheckoutSession, w =>
      some (w.update id fun row => { row with stripeManaged, hasCheckoutSession })
  | .noteIssue id issue, w => some (w.update id fun row => { row with paymentSyncIssue := issue })

/-- The workers of all processes. -/
def workerMachine (syncInterval : Int) :
    Machine WorkerAct WorkerAct.Res SyncWorld WorkerChoice SyncDrift Unit (Except WorkerFailure Unit) where
  handler _ := runWorker syncInterval
  exec _ choice act w := workerExec choice act w
  drift := syncDrift

end DataVault.Payments
