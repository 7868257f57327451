/-
Module: DataVault.Payments.Contract
Layer: Specification
Purpose: What a payment handler may rely on between two of its awaits, and what it must know at each of them.
  While a run holds the company's lease nobody else writes the fenced part of the document or commits a
  snapshot. Every action that is taken with that knowledge is one of the transitions of
  DataVault.Payments.Transition.
Imports: DataVault.Interleaving.Contract, DataVault.Payments.Transition
Trusted boundary: none
Main exports: Later, Rely, Knows, PaymentAct.Known, UsageFenced, paymentContract, step_of_exec, rely_of_step
-/
import DataVault.Interleaving.Contract
import DataVault.Payments.Transition

namespace DataVault.Payments

open DataVault.Control DataVault.Interleaving DataVault.Plans DataVault.Store DataVault.Subscriptions

variable {config : PaymentConfig} {strict : Prop} {run : Nat}

/-! ### What others leave alone

Between two awaits of a run anything may happen to the world. `Rely` collects what survives it: time and the memory
of the world go forward whoever acts, and the fenced part of the document and the committed snapshots stay while the
run holds the lease. -/

/-- The world went on; if the run holds the lease now, it held it all the time and no snapshot was
committed. -/
structure Later (run : Nat) (w w' : PaymentWorld) : Prop where
  grows : Grows w w'
  held : w'.db.leasedTo run → w.db.leasedTo run ∧ w'.db.canonical = w.db.canonical

/-- Under `strict`, which says that delivery states are only written under the lease: while the run holds the
lease every usage row keeps its state. -/
def RowsKept (strict : Prop) (run : Nat) (w w' : PaymentWorld) : Prop :=
  strict → w'.db.leasedTo run → w.db.leasedTo run ∧
    ∀ row ∈ w.db.usages.rows, ∃ row' ∈ w'.db.usages.rows,
      row'.identifier = row.identifier ∧ row'.state = row.state

/-- What the steps of the others leave true for a run. Without Stripe, plans change without a lease. -/
structure Rely (config : PaymentConfig) (strict : Prop) (run : Nat) (w w' : PaymentWorld) : Prop
    extends Later run w w' where
  fenced : config.enabled = true → w'.db.leasedTo run →
    w'.db.subscription.fenced = w.db.subscription.fenced
  rows : RowsKept strict run w w'

theorem Later.refl (run : Nat) (w : PaymentWorld) : Later run w w := ⟨Grows.refl w, fun held => ⟨held, rfl⟩⟩

theorem Later.trans {w₁ w₂ w₃ : PaymentWorld} (one : Later run w₁ w₂) (two : Later run w₂ w₃) :
    Later run w₁ w₃ where
  grows := one.grows.trans two.grows
  held leased := by
    obtain ⟨leased, same⟩ := two.held leased
    obtain ⟨leased, same'⟩ := one.held leased
    exact ⟨leased, same.trans same'⟩

theorem RowsKept.refl (strict : Prop) (run : Nat) (w : PaymentWorld) : RowsKept strict run w w :=
  fun _ held => ⟨held, fun row mem => ⟨row, mem, rfl, rfl⟩⟩

theorem RowsKept.trans {w₁ w₂ w₃ : PaymentWorld} (one : RowsKept strict run w₁ w₂)
    (two : RowsKept strict run w₂ w₃) : RowsKept strict run w₁ w₃ := by
  intro holds leased
  obtain ⟨leased, second⟩ := two holds leased
  obtain ⟨leased, first⟩ := one holds leased
  refine ⟨leased, fun row mem => ?_⟩
  obtain ⟨row', mem', same, state⟩ := first row mem
  obtain ⟨row'', mem'', same', state'⟩ := second row' mem'
  exact ⟨row'', mem'', same'.trans same, state'.trans state⟩

theorem Rely.refl (config : PaymentConfig) (strict : Prop) (run : Nat) (w : PaymentWorld) :
    Rely config strict run w w where
  toLater := Later.refl run w
  fenced _ _ := rfl
  rows := RowsKept.refl strict run w

theorem Rely.trans {w₁ w₂ w₃ : PaymentWorld} (one : Rely config strict run w₁ w₂)
    (two : Rely config strict run w₂ w₃) : Rely config strict run w₁ w₃ where
  toLater := one.toLater.trans two.toLater
  fenced enabled leased :=
    (two.fenced enabled leased).trans (one.fenced enabled (two.held leased).1)
  rows := one.rows.trans two.rows

/-! ### What a run knows -/

/-- The document in memory was stored, and it still is while the run holds the lease. -/
structure Knows (run : Nat) (doc : Subscription) (w : PaymentWorld) : Prop where
  recorded : Recorded w doc
  stored : w.db.leasedTo run → w.db.subscription.fenced = doc.fenced

theorem Recorded.grows {w w' : PaymentWorld} {doc : Subscription} (recorded : Recorded w doc)
    (grows : Grows w w') : Recorded w' doc := by
  obtain ⟨db, mem, same⟩ := recorded
  exact ⟨db, grows.past db mem, same⟩

theorem Knows.rely {w w' : PaymentWorld} {doc : Subscription} (enabled : config.enabled = true)
    (knows : Knows run doc w) (relied : Rely config strict run w w') : Knows run doc w' where
  recorded := knows.recorded.grows relied.grows
  stored leased := (relied.fenced enabled leased).trans (knows.stored (relied.held leased).1)

theorem Retrieved.later {w w' : PaymentWorld} {remote : RemoteSubscription}
    (retrieved : Retrieved run remote w) (later : Later run w w') : Retrieved run remote w' where
  known := by
    obtain ⟨current, found, same⟩ := retrieved.known
    obtain ⟨current', found', same', _⟩ := later.grows.subscription _ _ found
    exact ⟨current', found', same'.trans same⟩
  received := Nat.lt_of_lt_of_le retrieved.received later.grows.steps
  latest leased := by
    obtain ⟨held, same⟩ := later.held leased
    rw [same]
    exact retrieved.latest held
  evaluated := by
    rcases retrieved.evaluated with fresh | ⟨older, db, mem, unsubscribed, session, same⟩
    · exact .inl fresh
    · refine .inr ⟨older, db, later.grows.past db mem, unsubscribed, session, fun leased => ?_⟩
      obtain ⟨held, kept⟩ := later.held leased
      exact kept.trans (same held)

/-- The premises of an update depend on the fenced part only. -/
theorem SubscriptionUpdate.Allowed.of_fenced {change : SubscriptionUpdate} {w : PaymentWorld}
    {stored doc : Subscription} (allowed : change.Allowed w doc) (same : stored.fenced = doc.fenced) :
    change.Allowed w stored := by
  rw [Subscription.eq_of_fenced same]
  cases change with
  | attemptAt field instant => cases field <;> exact allowed
  | _ => exact allowed

/-! ### What each action needs -/

/-- A write of the delivery state, as opposed to one of the first attempt. -/
def DeliveryUpdate.writesState : DeliveryUpdate → Bool
  | .firstAttempt _ => false
  | _ => true

/-- What a run knows of a usage row when it writes to it. -/
def DeliveryUpdate.Known (strict : Prop) (run : Nat) (w : PaymentWorld) (identifier : UsageIdentifier) :
    DeliveryUpdate → Prop
  | .unresolved => strict → w.db.leasedTo run →
      ∀ row ∈ w.db.usages.rows, row.identifier = identifier → row.state = .pending
  | .firstAttempt instant => instant ≤ w.clock
  | .submitted _ => True

/-- What a run knows when it executes a command: that the document it passes is one it has loaded, under its lease where
the command needs it, and what the checks before the command have established of it. -/
def Command.Known (config : PaymentConfig) (strict : Prop) (run : Nat) (w : PaymentWorld) : Command → Prop
  | .update doc change => Knows run doc w ∧ change.Allowed w doc
  | .rotateCheckout doc _ =>
      Knows run doc w ∧ doc.stripeSubscriptionId = none ∧
        ∀ id, doc.stripeCheckoutSessionId = some id →
          ∃ session, w.stripe.sessions id = some session ∧ session.status = .expired
  | .localPlan doc _ => Knows run doc w ∧ doc.stripeSubscriptionId = none
  | .queuePlan doc _ => Knows run doc w ∧ doc.stripeSubscriptionId.isSome
  | .applyCanonical doc _ remote _ _ =>
      Knows run doc w ∧ doc.stripeSubscriptionId = some remote.id ∧ Retrieved run remote w
  | .usage identifier delivery => delivery.Known strict run w identifier
  | .changePlan .. => config.enabled = false
  | .acquireLease _ | .releaseLease | .renewLease _ | .employeeSnapshot | .recordEvent _ | .upload _
  | .publishCopy .. | .deleteFile _ | .claimSync .. | .retryRequired => True

def PaymentAct.Known (config : PaymentConfig) (strict : Prop) (run : Nat) (w : PaymentWorld) :
    PaymentAct → Prop
  | .command execution => execution.Known config strict run w
  | .send guardedAt request => request.Known config guardedAt w
  | .now | .query _ | .lookup _ => True

/-- What a run knows of the attempt behind a request when it sends it. -/
def PaymentAct.Timed (w : PaymentWorld) : PaymentAct → Prop
  | .send guardedAt request => request.Timed guardedAt w
  | _ => True

/-- The usage row an action writes to, with the write. -/
def PaymentAct.usageWrite : PaymentAct → Option (UsageIdentifier × DeliveryUpdate)
  | .command (.usage identifier delivery) => some (identifier, delivery)
  | _ => none

/-- The condition on a run that makes `strict` true: it writes delivery states only while it holds the
lease. -/
def UsageFenced (strict : Prop) (run : Nat) (_ : Choice) (act : PaymentAct) (w : PaymentWorld) : Prop :=
  strict → ∀ written ∈ act.usageWrite, written.2.writesState → w.db.leasedTo run

instance (strict : Prop) [Decidable strict] (run : Nat) (choice : Choice) (act : PaymentAct)
    (w : PaymentWorld) : Decidable (UsageFenced strict run choice act w) :=
  inferInstanceAs (Decidable (strict → ∀ written ∈ act.usageWrite,
    written.2.writesState → w.db.leasedTo run))

/-! ### Every action is a transition

`execute` and `serve` are taken apart here and nowhere else. Every command that succeeds and every request that
reaches Stripe becomes a case of `PaymentStep`, with what its run knew as the premises of that case; the invariants
are proved of these cases. -/

theorem recordUpload_stores {enabled : Bool} {db db' : BillingDb} {now : Int} (file : StoredFile)
    (recorded : db.recordUpload enabled now = .ok db') :
    Stores db { db' with files := file :: db'.files } := by
  obtain ⟨record, uploads, recorded⟩ := bind_ok_iff.mp recorded
  obtain ⟨fits, fitsTarget⟩ := recordFileUploads_fits uploads
  cases queued : record.usage with
  | none =>
      simp only [queued] at recorded
      cases recorded
      exact ⟨rfl, rfl, rfl, .inl rfl, rfl, rfl, fits, fitsTarget⟩
  | some row =>
      simp only [queued] at recorded
      obtain ⟨usages, inserted, recorded⟩ := bind_ok_iff.mp recorded
      cases recorded
      obtain ⟨pending, untried⟩ := recordFileUploads_pending uploads queued
      exact ⟨rfl, rfl, rfl, .inr ⟨row, pending, untried, orFail_ok_iff.mp inserted⟩, rfl, rfl, fits,
        fitsTarget⟩

theorem Quiet.refl (run : Nat) (db : BillingDb) : Quiet run db db :=
  ⟨rfl, fun _ _ leased => leased, rfl, rfl, Nat.le_refl _, rfl⟩

/-- Taking or giving back the lease. -/
theorem Quiet.of_lease {db : BillingDb} {lease : Option Lease}
    (own : ∀ held, lease = some held → held.token = run) : Quiet run db { db with lease := lease } where
  fenced := rfl
  lease other foreign leased := by
    unfold BillingDb.leasedTo at leased
    obtain ⟨held, present, token⟩ := Option.map_eq_some_iff.mp leased
    exact absurd (token.symm.trans (own held present)) foreign
  canonical := rfl
  usages := rfl
  files := Nat.le_refl _
  ownerEmail := rfl

/-- A command that succeeds, executed with what it needs, is a transition. -/
theorem step_of_execute {w : PaymentWorld} {published : Except Failure Unit} {command : Command}
    {answer : command.Res} {db : BillingDb} (known : command.Known config strict run w)
    (fenced : ∀ identifier delivery, command = .usage identifier delivery → delivery.writesState = true →
      strict → w.db.leasedTo run)
    (executed : w.db.execute config.enabled run w.steps w.clock published command = .ok (answer, db)) :
    PaymentStep config strict run w (w.commit db) := by
  cases command with
  | acquireLease now =>
      simp only [BillingDb.execute] at executed
      split at executed
      · split at executed
        · cases executed
          exact .quiet (Quiet.of_lease fun held taken => by cases taken; rfl)
        · cases executed
          exact .quiet (Quiet.refl run _)
      · cases executed
        exact .quiet (Quiet.of_lease fun held taken => by cases taken; rfl)
  | releaseLease =>
      simp only [BillingDb.execute] at executed
      cases executed
      split
      · exact .quiet (Quiet.of_lease fun _ none => by cases none)
      · exact .quiet (Quiet.refl run _)
  | renewLease now =>
      simp only [BillingDb.execute] at executed
      split at executed
      · cases executed
        exact .quiet (Quiet.of_lease fun held taken => by cases taken; rfl)
      · cases executed
        exact .quiet (Quiet.refl run _)
  | update doc change =>
      obtain ⟨knows, allowed⟩ := known
      simp only [BillingDb.execute] at executed
      split at executed
      · rename_i leased
        cases executed
        exact .update leased (allowed.of_fenced (knows.stored leased))
      · cases executed
        exact .quiet (Quiet.refl run _)
  | rotateCheckout doc planCode =>
      obtain ⟨knows, unsubscribed, expired⟩ := known
      simp only [BillingDb.execute] at executed
      split at executed
      · rename_i leased
        cases executed
        have same := Subscription.eq_of_fenced (knows.stored leased)
        exact .rotate leased (by rw [same]; exact unsubscribed) (by rw [same]; exact expired)
      · cases executed
        exact .quiet (Quiet.refl run _)
  | localPlan doc code =>
      obtain ⟨knows, unsubscribed⟩ := known
      obtain ⟨_, fits, executed⟩ := bind_ok_iff.mp executed
      obtain ⟨_, guarded, executed⟩ := bind_ok_iff.mp executed
      have leased : w.db.leasedTo run := by simpa using guarded
      cases executed
      have same := Subscription.eq_of_fenced (knows.stored leased)
      exact .localPlan leased (by rw [same]; exact unsubscribed) fits
  | queuePlan doc code =>
      obtain ⟨knows, subscribed⟩ := known
      obtain ⟨queued, queues, executed⟩ := bind_ok_iff.mp executed
      cases queued with
      | none =>
          cases executed
          exact .quiet { Quiet.refl run w.db with }
      | some queued =>
          obtain ⟨_, guarded, executed⟩ := bind_ok_iff.mp executed
          have leased : w.db.leasedTo run := by simpa using guarded
          cases executed
          have same := Subscription.eq_of_fenced (knows.stored leased)
          exact .queuePlan leased (by rw [same]; exact subscribed) (knows.stored leased) queues
  | applyCanonical doc status remote event draftsHeld =>
      obtain ⟨knows, subscribed, retrieved⟩ := known
      obtain ⟨fields, computed, executed⟩ := bind_ok_iff.mp executed
      obtain ⟨_, guarded, executed⟩ := bind_ok_iff.mp executed
      have leased : w.db.leasedTo run := by simpa using guarded
      obtain ⟨_, _, executed⟩ := bind_ok_iff.mp executed
      cases executed
      have same := Subscription.eq_of_fenced (knows.stored leased)
      exact .canonical leased (by rw [same]; exact subscribed) (knows.stored leased) retrieved computed
  | usage identifier delivery =>
      cases executed
      refine .usage ?_
      cases delivery with
      | unresolved =>
          intro holds
          have leased := fenced identifier _ rfl rfl holds
          exact ⟨leased, known holds leased⟩
      | firstAttempt instant => exact known
      | submitted instant => exact fun holds => fenced identifier _ rfl rfl holds
  | upload now =>
      obtain ⟨db, recorded, executed⟩ := bind_ok_iff.mp executed
      cases executed
      exact .stored (recordUpload_stores _ recorded)
  | publishCopy source now =>
      obtain ⟨_, _, executed⟩ := bind_ok_iff.mp executed
      obtain ⟨_, _, executed⟩ := bind_ok_iff.mp executed
      obtain ⟨db, recorded, executed⟩ := bind_ok_iff.mp executed
      cases executed
      exact .stored (recordUpload_stores _ recorded)
  | changePlan code changedAt =>
      obtain ⟨changed, changes, executed⟩ := bind_ok_iff.mp executed
      cases executed
      exact .planChanged known changes
  | deleteFile file =>
      simp only [BillingDb.execute] at executed
      split at executed
      · cases executed
        exact .quiet (Quiet.refl run _)
      · rename_i found
        cases executed
        obtain ⟨before, after, split, _, rest⟩ := findOneAndDelete_split found
        refine .quiet { Quiet.refl run w.db with files := ?_ }
        rw [split, rest]
        simp
  | employeeSnapshot =>
      cases executed
      exact .quiet { Quiet.refl run w.db with }
  | recordEvent event =>
      simp only [BillingDb.execute] at executed
      split at executed
      · cases executed
      · cases executed
        exact .quiet { Quiet.refl run w.db with }
  | claimSync now interval =>
      simp only [BillingDb.execute] at executed
      split at executed
      · cases executed
        exact .quiet { Quiet.refl run w.db with fenced := rfl }
      · cases executed
        exact .quiet (Quiet.refl run _)
  | retryRequired =>
      simp only [BillingDb.execute] at executed
      split at executed
      · cases executed
        exact .quiet (Quiet.refl run _)
      · cases executed
        exact .quiet { Quiet.refl run w.db with fenced := rfl }

/-- A command that succeeds only adds to the world, whether or not its run respects `strict`. -/
theorem grows_of_execute {w : PaymentWorld} {published : Except Failure Unit} {command : Command}
    {answer : command.Res} {db : BillingDb} (known : command.Known config strict run w)
    (consistent : Consistent w)
    (executed : w.db.execute config.enabled run w.steps w.clock published command = .ok (answer, db)) :
    Grows w (w.commit db) := by
  have lax : command.Known config False run w := by
    cases command with
    | usage identifier delivery =>
        cases delivery with
        | unresolved => exact fun impossible => impossible.elim
        | firstAttempt instant => exact known
        | submitted instant => trivial
    | _ => exact known
  exact (step_of_execute lax (fun _ _ _ _ impossible => impossible.elim) executed).grows consistent

/-- A request that reaches Stripe is a transition. -/
theorem step_of_serve (choice : Choice) {guardedAt : Option Int} {request : Request} {w : PaymentWorld}
    (known : request.Known config guardedAt w) :
    PaymentStep config strict run w (w.post run guardedAt request (w.serve choice request).2) := by
  cases request with
  | createCheckoutSession operation customer companyId planCode successUrl cancelUrl =>
      simp only [PaymentWorld.serve, Stripe.createCheckoutSession]
      split
      · exact .sent known
      · exact .opened known rfl rfl
  | createSubscription session customer paymentMethod items anchor companyId =>
      simp only [PaymentWorld.serve, Stripe.createSubscription]
      split
      · exact .sent known
      · rename_i unused
        exact .subscribed known rfl rfl unused
  | _ => exact .sent known

/-- Every action, taken with what it needs, is a transition. -/
theorem step_of_exec {choice : Choice} {act : PaymentAct} {w w' : PaymentWorld} {answer : act.Res}
    (known : act.Known config strict run w) (fenced : UsageFenced strict run choice act w)
    (executed : paymentExec config.enabled run choice act w = some (answer, w')) :
    PaymentStep config strict run w w' := by
  cases act with
  | now =>
      cases executed
      exact .idle
  | query query =>
      cases executed
      exact .idle
  | lookup lookup =>
      cases executed
      exact .idle
  | command command =>
      obtain ⟨_, rfl⟩ := Prod.mk.inj (Option.some.inj executed)
      split
      · exact .idle
      · rename_i result db outcome
        have step := step_of_execute known (fun _ _ same writes holds =>
          fenced holds _ (congrArg (PaymentAct.usageWrite ∘ PaymentAct.command) same) writes) outcome
        split
        · exact step
        · exact step
        · exact .idle
  | send guardedAt request =>
      obtain ⟨_, rfl⟩ := Prod.mk.inj (Option.some.inj executed)
      split
      · exact step_of_serve choice known
      · exact step_of_serve choice known
      · exact .sent known

/-- What an action does to the world: nothing, one command, or one request. -/
theorem exec_cases {enabled : Bool} {choice : Choice} {act : PaymentAct} {w w' : PaymentWorld}
    {answer : act.Res} (executed : paymentExec enabled run choice act w = some (answer, w')) :
    w' = w.tick ∨
      (∃ command result db, act = .command command ∧ w' = w.commit db ∧
        w.db.execute enabled run w.steps w.clock choice.published command = .ok (result, db)) ∨
      ∃ guardedAt request stripe, act = .send guardedAt request ∧
        w' = w.post run guardedAt request stripe := by
  cases act with
  | now | query _ | lookup _ =>
      cases executed
      exact .inl rfl
  | command command =>
      obtain ⟨_, rfl⟩ := Prod.mk.inj (Option.some.inj executed)
      split
      · exact .inl rfl
      · rename_i result db outcome
        split
        · exact .inr (.inl ⟨command, result, db, rfl, rfl, outcome⟩)
        · exact .inr (.inl ⟨command, result, db, rfl, rfl, outcome⟩)
        · exact .inl rfl
  | send guardedAt request =>
      obtain ⟨_, rfl⟩ := Prod.mk.inj (Option.some.inj executed)
      split
      all_goals exact .inr (.inr ⟨guardedAt, request, _, rfl, rfl⟩)

/-! ### The steps of the others

A transition of one run is checked against what another run relies on. The case that matters is a write to the
fenced part: it needs the lease, and two runs do not hold it at once. -/

/-- What a transition that writes to the database must leave for another run. -/
theorem Rely.of_commit {w : PaymentWorld} {db : BillingDb} {other : Nat} (grows : Grows w (w.commit db))
    (held : db.leasedTo other → w.db.leasedTo other ∧ db.canonical = w.db.canonical ∧
      (config.enabled = true → db.subscription.fenced = w.db.subscription.fenced) ∧
      (strict → ∀ row ∈ w.db.usages.rows, ∃ row' ∈ db.usages.rows,
        row'.identifier = row.identifier ∧ row'.state = row.state)) :
    Rely config strict other w (w.commit db) where
  grows := grows
  held leased := ⟨(held leased).1, (held leased).2.1⟩
  fenced enabled leased := (held leased).2.2.1 enabled
  rows holds leased := ⟨(held leased).1, (held leased).2.2.2 holds⟩

/-- A step in which the database stays as it is. -/
theorem Rely.of_same {w w' : PaymentWorld} (grows : Grows w w') (same : w'.db = w.db) (other : Nat) :
    Rely config strict other w w' where
  grows := grows
  held leased := ⟨same ▸ leased, by rw [same]⟩
  fenced _ _ := by rw [same]
  rows _ leased := ⟨same ▸ leased, fun row mem => ⟨row, by rwa [same], rfl, rfl⟩⟩

/-- What a run relies on holds of every transition of another run. -/
theorem rely_of_step {w w' : PaymentWorld} {other : Nat} (step : PaymentStep config strict run w w')
    (consistent : Consistent w) (foreign : other ≠ run) : Rely config strict other w w' := by
  have grows := step.grows consistent
  have mine {db : BillingDb} (leased : w.db.leasedTo run) (same : db.lease = w.db.lease) :
      ¬ db.leasedTo other := by
    intro theirs
    have theirs : w.db.leasedTo other := by
      unfold BillingDb.leasedTo at theirs ⊢
      rwa [← same]
    exact foreign (BillingDb.leasedTo_unique leased theirs)
  cases step with
  | idle | sent | opened | subscribed => exact Rely.of_same grows rfl other
  | quiet unchanged =>
      refine Rely.of_commit grows fun leased => ?_
      refine ⟨unchanged.lease other foreign leased, unchanged.canonical, fun _ => unchanged.fenced,
        fun _ row mem => ⟨row, ?_, rfl, rfl⟩⟩
      rwa [unchanged.usages]
  | update leased | rotate leased | localPlan leased | queuePlan leased | canonical leased =>
      exact Rely.of_commit grows fun theirs => absurd theirs (mine leased rfl)
  | @usage identifier delivery allowed =>
      refine Rely.of_commit grows fun leased => ⟨leased, rfl, fun _ => rfl, fun holds row mem => ?_⟩
      cases delivery with
      | unresolved => exact absurd leased (mine (allowed holds).1 rfl)
      | submitted instant => exact absurd leased (mine (allowed holds) rfl)
      | firstAttempt instant =>
          refine ⟨_, List.mem_map_of_mem mem, ?_⟩
          split <;> exact ⟨rfl, rfl⟩
  | stored stores =>
      refine Rely.of_commit grows fun leased => ?_
      unfold BillingDb.leasedTo at leased
      rw [stores.lease] at leased
      refine ⟨leased, stores.canonical, fun _ => stores.fenced, fun _ row mem => ⟨row, ?_, rfl, rfl⟩⟩
      rcases stores.usages with same | ⟨_, _, _, inserted⟩
      · rwa [same]
      · rw [PaymentStep.insert_rows inserted]
        exact List.mem_cons_of_mem _ mem
  | planChanged disabled _ =>
      refine Rely.of_commit grows fun leased =>
        ⟨leased, rfl, fun enabled => ?_, fun _ row mem => ⟨row, mem, rfl, rfl⟩⟩
      rw [disabled] at enabled
      cases enabled

/-- The environment only adds to the world. -/
theorem grows_of_drift {change : PaymentDrift} {w w' : PaymentWorld} (drifted : paymentDrift change w = some w') :
    Grows w w' := by
  cases change with
  | tick elapsed =>
      cases drifted
      exact { Grows.refl w with clock := Int.le_add_of_nonneg_right (Int.natCast_nonneg _) }
  | seats employees pendingInvitations =>
      cases drifted
      exact Grows.of_commit (fun _ mem => mem) (fun row mem => ⟨row, mem, rfl⟩)
  | session id complete =>
      simp only [paymentDrift] at drifted
      split at drifted
      · rename_i session found
        split at drifted
        · rename_i opened
          cases drifted
          refine { Grows.refl w with session := fun other before there => ?_ }
          by_cases same : other = id
          · subst same
            rw [found] at there
            cases there
            exact ⟨_, Function.update_self .., fun closed => absurd opened closed⟩
          · exact ⟨before.status, by simpa [same] using there, fun _ => rfl⟩
        · cases drifted
      · cases drifted
  | setupIntent id intent =>
      have replaced : (∀ before, w.stripe.setupIntents id = some before → before.succeeded = false) →
          Grows w { w with
            stripe.setupIntents := Function.update w.stripe.setupIntents id (some intent) } := by
        intro unsettled
        refine { Grows.refl w with setupIntent := fun other before there succeeded => ?_ }
        by_cases same : other = id
        · subst same
          rw [unsettled before there] at succeeded
          cases succeeded
        · simpa [same] using there
      simp only [paymentDrift] at drifted
      split at drifted
      · rename_i before found
        split at drifted
        · cases drifted
        · rename_i unsettled
          cases drifted
          refine replaced fun other there => ?_
          rw [found] at there
          cases there
          simpa using unsettled
      · rename_i missing
        cases drifted
        refine replaced fun other there => ?_
        rw [missing] at there
        cases there
  | subscription remote =>
      simp only [paymentDrift] at drifted
      split at drifted
      · rename_i before found
        split at drifted
        · rename_i kept
          cases drifted
          refine { Grows.refl w with subscription := fun other current there => ?_ }
          by_cases same : other = remote.id
          · subst same
            rw [found] at there
            cases there
            exact ⟨remote, Function.update_self .., kept.1, kept.2⟩
          · exact ⟨current, by simpa [same] using there, rfl, fun ended => ended⟩
        · cases drifted
      · cases drifted

/-- Beside members and invitations, the environment leaves the database and the steps as they are. -/
theorem paymentDrift_db {change : PaymentDrift} {w w' : PaymentWorld}
    (drifted : paymentDrift change w = some w') :
    (w'.db = w.db ∧ w'.earlier = w.earlier ∧ w'.steps = w.steps ∧ w'.sent = w.sent) ∨
      ∃ employees pendingInvitations, w' = w.commit
        { w.db.bumpRevision with employees := employees, pendingInvitations := pendingInvitations } := by
  cases change with
  | seats employees pendingInvitations =>
      cases drifted
      exact .inr ⟨employees, pendingInvitations, rfl⟩
  | tick elapsed =>
      cases drifted
      exact .inl ⟨rfl, rfl, rfl, rfl⟩
  | session | setupIntent | subscription =>
      simp only [paymentDrift] at drifted
      repeat' split at drifted
      all_goals cases drifted
      all_goals exact .inl ⟨rfl, rfl, rfl, rfl⟩

theorem rely_of_drift {change : PaymentDrift} {w w' : PaymentWorld}
    (drifted : paymentDrift change w = some w') : Rely config strict run w w' := by
  have grows := grows_of_drift drifted
  rcases paymentDrift_db drifted with ⟨same, _⟩ | ⟨employees, pendingInvitations, rfl⟩
  · exact Rely.of_same grows same run
  · exact Rely.of_commit grows fun leased =>
      ⟨leased, rfl, fun _ => rfl, fun _ row mem => ⟨row, mem, rfl, rfl⟩⟩

/-- The environment leaves a consistent world. -/
theorem consistent_of_drift {change : PaymentDrift} {w w' : PaymentWorld} (consistent : Consistent w)
    (drifted : paymentDrift change w = some w') : Consistent w' := by
  cases change with
  | tick elapsed =>
      cases drifted
      exact consistent.of_same rfl (Nat.le_refl _) consistent.canonical
  | seats employees pendingInvitations =>
      cases drifted
      exact consistent.of_same rfl (Nat.le_succ _) fun commit mem =>
        Nat.lt_succ_of_lt (consistent.canonical commit mem)
  | setupIntent id intent =>
      simp only [paymentDrift] at drifted
      repeat' split at drifted
      all_goals cases drifted
      all_goals exact { consistent with }
  | session id complete =>
      simp only [paymentDrift] at drifted
      split at drifted
      · rename_i session found
        split at drifted
        · cases drifted
          refine { consistent with session := fun other there here => ?_, sessionKey := fun op use used => ?_ }
          · by_cases same : other = id
            · subst same
              obtain rfl : { session with status := if complete then .complete else .expired } = there := by
                simpa using here
              exact consistent.session other session found
            · exact consistent.session other there (by simpa [same] using here)
          · obtain ⟨status, there, named⟩ := consistent.sessionKey op use used
            by_cases same : use.original.id = id
            · subst same
              rw [found] at there
              cases there
              exact ⟨_, Function.update_self .., named⟩
            · exact ⟨status, by simpa [same] using there, named⟩
        · cases drifted
      · cases drifted
  | subscription remote =>
      simp only [paymentDrift] at drifted
      split at drifted
      · rename_i before found
        split at drifted
        · rename_i kept
          cases drifted
          refine { consistent with
            subscription := fun other there here => ?_, subscriptionKey := fun session use used => ?_ }
          · by_cases same : other = remote.id
            · subst same
              obtain rfl : remote = there := by simpa using here
              exact ⟨rfl, (consistent.subscription _ before found).2⟩
            · exact consistent.subscription other there (by simpa [same] using here)
          · obtain ⟨mine, evaluated, current, there, named⟩ := consistent.subscriptionKey session use used
            refine ⟨mine, evaluated, ?_⟩
            by_cases same : use.original.id = remote.id
            · rw [same] at there ⊢
              rw [found] at there
              cases there
              exact ⟨remote, Function.update_self .., kept.1.trans named⟩
            · exact ⟨current, by simpa [same] using there, named⟩
        · cases drifted
      · cases drifted

/-! ### The contract -/

/-- What a reconciliation that returned leaves: a document without a Stripe subscription, or one that a commit
of the run wrote. -/
def Left (run : Nat) (doc : Subscription) (w : PaymentWorld) : Prop :=
  doc.stripeSubscriptionId = none ∨
    ∃ commit ∈ w.db.canonical, commit.run = run ∧ commit.after.fenced = doc.fenced ∧
      commit.after.paymentSyncIssue = doc.paymentSyncIssue

/-- What a run has established when it has returned. -/
def PaymentEnds (run : Nat) (out : Except Failure PaymentReply) (w : PaymentWorld) : Prop :=
  ∀ doc, out = .ok (.reconciled (some doc)) → Left run doc w

/-- What holds in every world: consistency, and under `timely` that no stored attempt lies in the future. -/
structure WorldInv (timely : Prop) (w : PaymentWorld) : Prop where
  consistent : Consistent w
  past : timely → AttemptsPast w

/-- A state whose attempts are those of the state before or lie in the past. -/
theorem AttemptsPast.commit {w : PaymentWorld} {db : BillingDb} (past : AttemptsPast w)
    (added : ∀ (field : AttemptField) instant, field.get db.subscription = some instant →
      field.get w.db.subscription = some instant ∨ instant ≤ w.clock) : AttemptsPast (w.commit db) := by
  intro other mem field instant stored
  rcases List.mem_cons.mp mem with rfl | mem
  · rcases added field instant stored with before | now
    · exact past w.db (List.mem_cons_self ..) field instant before
    · exact now
  · exact past other mem field instant stored

theorem AttemptsPast.of_fenced {w : PaymentWorld} {db : BillingDb} (past : AttemptsPast w)
    (same : db.subscription.fenced = w.db.subscription.fenced) : AttemptsPast (w.commit db) := by
  refine past.commit fun field instant stored => ?_
  rw [field.get_of_fenced same] at stored
  exact .inl stored

/-- An update stores an attempt of the past or keeps and clears attempts. -/
theorem SubscriptionUpdate.attempts {change : SubscriptionUpdate} {w : PaymentWorld} {doc : Subscription}
    (allowed : change.Allowed w doc) (field : AttemptField) (instant : Int)
    (stored : field.get (change.apply doc) = some instant) : field.get doc = some instant ∨ instant ≤ w.clock := by
  cases change with
  | attemptAt written at_ =>
      have new : at_ ≤ w.clock := allowed.2
      by_cases same : field = written
      · subst same
        rw [SubscriptionUpdate.apply, field.get_set] at stored
        cases stored
        exact .inr new
      · refine .inl ?_
        cases field <;> cases written <;> first | exact stored | exact absurd rfl same
  | forgetSubscription =>
      cases field with
      | customer => exact .inl stored
      | checkout | subscription | plan => cases stored
  | checkoutOperation | localPlan | queuePlan | canonical => exact allowed.elim
  | _ => exact .inl (by cases field <;> exact stored)

theorem PaymentStep.attemptsPast {w w' : PaymentWorld} (step : PaymentStep config strict run w w')
    (past : AttemptsPast w) : AttemptsPast w' := by
  cases step with
  | idle | sent | opened | subscribed => exact past
  | quiet unchanged => exact past.of_fenced unchanged.fenced
  | stored stores => exact past.of_fenced stores.fenced
  | usage => exact past.of_fenced rfl
  | update leased allowed =>
      exact past.commit fun field instant stored => SubscriptionUpdate.attempts allowed field instant stored
  | rotate =>
      refine past.commit fun field instant stored => ?_
      cases field with
      | customer | plan => exact .inl stored
      | checkout | subscription => cases stored
  | localPlan =>
      refine past.commit fun field instant stored => .inl ?_
      cases field <;> exact stored
  | queuePlan =>
      refine past.commit fun field instant stored => ?_
      cases field with
      | customer | checkout | subscription => exact .inl stored
      | plan => cases stored
  | canonical =>
      refine past.commit fun field instant stored => ?_
      cases field with
      | customer | checkout | subscription => exact .inl stored
      | plan =>
          simp only [AttemptField.get, BillingDb.apply, BillingDb.bumpRevision, SubscriptionUpdate.apply] at stored
          split at stored
          · cases stored
          · exact .inl stored
  | planChanged disabled changes =>
      obtain ⟨planChangedAt, rfl⟩ := changePlan_touches changes
      refine past.commit fun field instant stored => .inl ?_
      cases field <;> exact stored

theorem attemptsPast_of_drift {change : PaymentDrift} {w w' : PaymentWorld} (past : AttemptsPast w)
    (drifted : paymentDrift change w = some w') : AttemptsPast w' := by
  have later := (grows_of_drift drifted).clock
  rcases paymentDrift_db drifted with ⟨same, earlier, _⟩ | ⟨_, _, rfl⟩
  · intro db mem field instant stored
    rw [PaymentWorld.past, same, earlier] at mem
    exact Int.le_trans (past db mem field instant stored) later
  · exact past.of_fenced rfl

theorem WorldInv.step {timely : Prop} {w w' : PaymentWorld} (inv : WorldInv timely w)
    (step : PaymentStep config strict run w w') : WorldInv timely w' where
  consistent := step.consistent inv.consistent
  past holds := step.attemptsPast (inv.past holds)

theorem WorldInv.drift {timely : Prop} {change : PaymentDrift} {w w' : PaymentWorld} (inv : WorldInv timely w)
    (drifted : paymentDrift change w = some w') : WorldInv timely w' where
  consistent := consistent_of_drift inv.consistent drifted
  past holds := attemptsPast_of_drift (inv.past holds) drifted

/-- `strict` says that delivery states are only written under the lease, `timely` that no attempt was stored
with a time in the future. -/
def paymentContract (config : PaymentConfig) (strict timely : Prop) : Contract (paymentMachine config) where
  rely := Rely config strict
  inv := WorldInv timely
  needs run act w := act.Known config strict run w ∧ (timely → act.Timed w)
  ends := PaymentEnds

end DataVault.Payments
