/-
Module: DataVault.Payments.WebhookLedger
Layer: Proof
Purpose: The ledger of Stripe events over whole runs. An event has at most one row, a delivery is acknowledged
  only when its row exists, and the transaction of `applyCanonical` writes the row together with the snapshot.
  Acknowledgement needs nothing of the handlers but what they write to the ledger, so it is proved under a
  contract of its own, in which every run only relies on rows to stay.
Imports: DataVault.Interleaving.Following, DataVault.Payments.Contract
Trusted boundary: none
Main exports: execute_events, ledgerContract, CommitsBoth, webhook_ledger
-/
import DataVault.Interleaving.Following
import DataVault.Payments.Contract

namespace DataVault.Payments

open DataVault.Control DataVault.Interleaving DataVault.Plans DataVault.Store DataVault.Subscriptions

variable {config : PaymentConfig} {run : Nat} {α β : Type}

/-! ### Rows -/

/-- A transaction of `applyCanonical` for an event that takes effect: the row and the snapshot are new, and the
document is the one that the snapshot leaves. -/
structure CommitsBoth (event : Nat) (before after : BillingDb) : Prop where
  unrecorded : event ∉ before.events
  recorded : after.events = event :: before.events
  snapshot : ∃ commit fields, after.canonical = commit :: before.canonical ∧
    commit.after = after.subscription ∧
    after.subscription = (before.bumpRevision.apply (.canonical fields)).subscription

theorem recordUpload_events {enabled : Bool} {db db' : BillingDb} {now : Int}
    (recorded : db.recordUpload enabled now = .ok db') : db'.events = db.events := by
  obtain ⟨record, _, recorded⟩ := bind_ok_iff.mp recorded
  cases queued : record.usage with
  | none =>
      simp only [queued] at recorded
      cases recorded
      rfl
  | some row =>
      simp only [queued] at recorded
      obtain ⟨usages, _, recorded⟩ := bind_ok_iff.mp recorded
      cases recorded
      rfl

theorem applyCanonical_commitsBoth {enabled : Bool} {db db' : BillingDb} {step : Nat} {clock : Int}
    {published : Except Failure Unit} {doc : Subscription} {status : StripeSubscriptionStatus}
    {remote : RemoteSubscription} {event : Nat} {draftsHeld : Bool} {answer : CanonicalFields}
    (executed : db.execute enabled run step clock published
      (.applyCanonical doc status remote (some event) draftsHeld) = .ok (answer, db')) :
    CommitsBoth event db db' := by
  obtain ⟨fields, _, executed⟩ := bind_ok_iff.mp executed
  obtain ⟨_, _, executed⟩ := bind_ok_iff.mp executed
  obtain ⟨_, unrecorded, executed⟩ := bind_ok_iff.mp executed
  cases executed
  exact ⟨by simpa using unrecorded, rfl, _, _, rfl, rfl, rfl⟩

/-- A command that takes effect leaves the ledger as it is or adds the row of one event that had none. -/
theorem execute_events {enabled : Bool} {db db' : BillingDb} {step : Nat} {clock : Int}
    {published : Except Failure Unit} {command : Command} {answer : command.Res}
    (executed : db.execute enabled run step clock published command = .ok (answer, db')) :
    db'.events = db.events ∨ ∃ event, event ∉ db.events ∧ db'.events = event :: db.events := by
  cases command with
  | recordEvent event =>
      simp only [BillingDb.execute] at executed
      split at executed
      · cases executed
      · rename_i unrecorded
        cases executed
        exact .inr ⟨event, by simpa using unrecorded, rfl⟩
  | applyCanonical doc status remote event draftsHeld =>
      cases event with
      | some event =>
          have both := applyCanonical_commitsBoth executed
          exact .inr ⟨event, both.unrecorded, both.recorded⟩
      | none =>
          obtain ⟨_, _, executed⟩ := bind_ok_iff.mp executed
          obtain ⟨_, _, executed⟩ := bind_ok_iff.mp executed
          obtain ⟨_, _, executed⟩ := bind_ok_iff.mp executed
          cases executed
          exact .inl rfl
  | upload now =>
      obtain ⟨after, recorded, executed⟩ := bind_ok_iff.mp executed
      have same := recordUpload_events recorded
      cases executed
      exact .inl same
  | publishCopy source now =>
      obtain ⟨_, _, executed⟩ := bind_ok_iff.mp executed
      obtain ⟨_, _, executed⟩ := bind_ok_iff.mp executed
      obtain ⟨after, recorded, executed⟩ := bind_ok_iff.mp executed
      have same := recordUpload_events recorded
      cases executed
      exact .inl same
  | localPlan doc code | changePlan code changedAt =>
      obtain ⟨_, _, executed⟩ := bind_ok_iff.mp executed
      try obtain ⟨_, _, executed⟩ := bind_ok_iff.mp executed
      cases executed
      exact .inl rfl
  | queuePlan doc code =>
      obtain ⟨queued, _, executed⟩ := bind_ok_iff.mp executed
      cases queued with
      | none =>
          cases executed
          exact .inl rfl
      | some queued =>
          obtain ⟨_, _, executed⟩ := bind_ok_iff.mp executed
          cases executed
          exact .inl rfl
  | _ =>
      simp only [BillingDb.execute] at executed
      repeat' split at executed
      all_goals cases executed
      all_goals exact .inl rfl

/-- The rows of one world are still there in another. -/
def RowsStay (w w' : PaymentWorld) : Prop := ∀ event ∈ w.db.events, event ∈ w'.db.events

theorem rowsStay_of_exec {enabled : Bool} {choice : Choice} {act : PaymentAct} {w w' : PaymentWorld}
    {answer : act.Res} (executed : paymentExec enabled run choice act w = some (answer, w')) : RowsStay w w' := by
  intro event mem
  rcases exec_cases executed with rfl | ⟨command, result, db, rfl, rfl, done⟩ | ⟨_, _, _, rfl, rfl⟩
  · exact mem
  · rcases execute_events done with same | ⟨added, _, recorded⟩
    · rwa [PaymentWorld.commit_db, same]
    · rw [PaymentWorld.commit_db, recorded]
      exact List.mem_cons_of_mem _ mem
  · exact mem

theorem events_of_drift {change : PaymentDrift} {w w' : PaymentWorld}
    (drifted : paymentDrift change w = some w') : w'.db.events = w.db.events := by
  rcases paymentDrift_db drifted with ⟨same, _⟩ | ⟨_, _, rfl⟩
  · rw [same]
  · rfl

theorem rowsStay_of_moves {s : PaymentSystem} {event : PaymentEvent} {w' : PaymentWorld}
    (moves : Machine.Moves (paymentMachine config) s w' event) : RowsStay s.world w' := by
  cases moves with
  | arrival _ same =>
      rw [same]
      exact fun _ mem => mem
  | action _ executed => exact rowsStay_of_exec executed
  | drifted happened =>
      intro _ mem
      rwa [events_of_drift happened]

/-- Every event has at most one row, in every state. -/
theorem events_nodup {ok : PaymentSystem → PaymentEvent → Prop} {s s' : PaymentSystem}
    {events : List PaymentEvent} (interleaving : (paymentMachine config).Run ok s events s')
    (start : s.world.db.events.Nodup) : s'.world.db.events.Nodup := by
  refine Machine.Run.keeps (P := fun s => s.world.db.events.Nodup) ?_ interleaving start
  intro s event s' unique _ applied
  cases Machine.apply_moves applied with
  | arrival _ same => rwa [same]
  | drifted happened => rwa [events_of_drift happened]
  | action _ executed =>
      rcases exec_cases executed with same | ⟨_, _, db, rfl, same, done⟩ | ⟨_, _, _, rfl, same⟩
      · rwa [same]
      · rw [same, PaymentWorld.commit_db]
        rcases execute_events done with kept | ⟨added, unrecorded, recorded⟩
        · rwa [kept]
        · rw [recorded]
          exact List.nodup_cons.mpr ⟨unrecorded, unique⟩
      · rwa [same]

/-! ### Acknowledgement

What a delivery needs in the end is one fact, that the row exists, and rows are never removed. So the contract is
the weakest one: a run relies on rows to stay and has to know nothing before it acts. The lemmas follow the webhook
from its last action outwards. -/

/-- Rows stay; nothing else is relied on and nothing is needed. -/
def ledgerContract (config : PaymentConfig) : Contract (paymentMachine config) where
  rely _ := RowsStay
  inv _ := True
  needs _ _ _ := True
  ends _ _ _ := True

/-- A handler that returns from `w` on has made sure of `Q`, whatever the others do. -/
def Leads (config : PaymentConfig) (run : Nat) (program : PaymentHandler α) (Q : α → PaymentWorld → Prop)
    (w : PaymentWorld) : Prop :=
  (ledgerContract config).Meets run (Ends Q Any) program.run w

section Leads

variable {Q : α → PaymentWorld → Prop} {w : PaymentWorld}

theorem leads_any (program : PaymentHandler α) : Leads config run program Any w := by
  have all : ∀ (process : Process PaymentAct PaymentAct.Res (Except Failure α)) (w : PaymentWorld),
      (ledgerContract config).Meets run (Ends Any Any) process w := by
    intro process
    induction process with
    | done outcome =>
        intro w
        cases outcome <;> trivial
    | await act resume ih => exact fun w w₁ _ _ => ⟨trivial, fun _ answer w₂ _ => ih answer w₂⟩
  exact all program.run w

/-- What comes first does not matter. -/
theorem leads_after {Q : β → PaymentWorld → Prop} {first : PaymentHandler α} {next : α → PaymentHandler β}
    (continues : ∀ value w', Leads config run (next value) Q w') : Leads config run (first >>= next) Q w :=
  Contract.meets_bind (leads_any first) fun value w' _ => continues value w'

theorem leads_bind {R : β → PaymentWorld → Prop} {first : PaymentHandler α} {next : α → PaymentHandler β}
    (leads : Leads config run first Q w)
    (continues : ∀ value w', Q value w' → Leads config run (next value) R w') :
    Leads config run (first >>= next) R w :=
  Contract.meets_bind leads continues

theorem leads_query {read : Query} {Q : read.Res → PaymentWorld → Prop}
    (answers : ∀ w' : PaymentWorld, Q (w'.db.answer read) w'.tick) : Leads config run (query read) Q w := by
  intro w₁ _ _
  refine ⟨trivial, fun choice answer w₂ executed => ?_⟩
  obtain ⟨rfl, rfl⟩ := Prod.mk.inj (Option.some.inj executed)
  split
  · exact answers w₁
  · trivial

theorem leads_write {command : Command} {Q : command.Res → PaymentWorld → Prop}
    (writes : ∀ (w₁ : PaymentWorld) published answer db,
      w₁.db.execute config.enabled run w₁.steps w₁.clock published command = .ok (answer, db) →
        Q answer (w₁.commit db)) : Leads config run (write command) Q w := by
  intro w₁ _ _
  refine ⟨trivial, fun choice answer w₂ executed => ?_⟩
  obtain ⟨rfl, rfl⟩ := Prod.mk.inj (Option.some.inj executed)
  split
  · trivial
  · rename_i outcome
    split
    · exact writes _ _ _ _ outcome
    · trivial
    · trivial

/-- `withLease`, for what later steps keep. -/
theorem leads_withLease {work : Subscription → PaymentHandler α}
    (leads : ∀ doc w', Leads config run (work doc) Q w')
    (stable : ∀ value w₁ w₂, Q value w₁ → RowsStay w₁ w₂ → Q value w₂) :
    Leads config run (withLease work) Q w := by
  refine leads_after fun now w₁ => leads_after fun acquired w₂ => ?_
  cases acquired with
  | none => trivial
  | some doc =>
      refine Contract.meets_withCleanup (leads doc w₂) fun outcome w' ended w₃ relied _ => ?_
      refine ⟨trivial, fun choice answer w₄ executed => ?_⟩
      have released : RowsStay w₃ w₄ :=
        rowsStay_of_exec (show paymentExec config.enabled run choice (.command .releaseLease) w₃ = _ from executed)
      cases outcome with
      | error failure => cases answer <;> trivial
      | ok value =>
          cases answer with
          | error failure => trivial
          | ok _ => exact stable value _ _ ended fun event mem => released event (relied event mem)

end Leads

/-- The event has its row. -/
abbrev HasRow (event : StripeEvent) : α → PaymentWorld → Prop := fun _ w => event.id ∈ w.db.events

section Delivery

variable {event : StripeEvent} {w : PaymentWorld}

theorem leads_recordEvent : Leads config run (write (.recordEvent event.id)) (HasRow event) w := by
  refine leads_write fun w₁ _ _ db executed => ?_
  simp only [BillingDb.execute] at executed
  split at executed
  · cases executed
  · cases executed
    exact List.mem_cons_self ..

theorem leads_applyCanonical {doc : Subscription} {remote : RemoteSubscription} {draftsHeld : Bool} :
    Leads config run (applyCanonical doc remote (some event.id) draftsHeld) (HasRow event) w := by
  refine leads_after fun status _ => ?_
  refine leads_bind (Q := HasRow event) (leads_write fun w₁ _ _ db executed => ?_) fun _ _ recorded => recorded
  have both := applyCanonical_commitsBoth executed
  rw [HasRow, PaymentWorld.commit_db, both.recorded]
  exact List.mem_cons_self ..

/-- A synchronization for an event ends with the transaction that records it, if there is a subscription to
synchronize. -/
theorem leads_synchronize {doc : Subscription} (subscribed : doc.stripeSubscriptionId ≠ none) :
    Leads config run (synchronize config doc (some event.id)) (HasRow event) w := by
  unfold synchronize
  split
  · rename_i unsubscribed
    exact absurd unsubscribed subscribed
  · refine leads_after fun doc _ => leads_after fun remote _ => leads_after fun _ _ => ?_
    dsimp only
    split
    all_goals
      refine leads_after fun doc _ => leads_after fun remote _ => leads_after fun drafts _ => ?_
      refine leads_after fun held _ => leads_after fun _ _ => leads_after fun verified _ => ?_
      exact leads_applyCanonical

theorem leads_processEvent {doc : Subscription} :
    Leads config run (processEvent config event doc) (HasRow event) w := by
  refine leads_bind (Q := fun found w => found = true → event.id ∈ w.db.events) ?_ fun found w₁ known => ?_
  · exact leads_query fun w₁ found => List.contains_iff_mem.mp found
  · split
    · rename_i found
      exact known found
    · have records : ∀ doc w', Leads config run
          (if doc.stripeSubscriptionId = none then write (.recordEvent event.id)
          else do
            let _ ← synchronize config doc (some event.id)
            pure ()) (HasRow event) w' := by
        intro doc w'
        split
        · exact leads_recordEvent
        · rename_i subscribed
          exact leads_bind (leads_synchronize subscribed) fun _ _ recorded => recorded
      dsimp only
      split
      · split
        · exact leads_after fun _ _ => leads_after fun _ _ => records _ _
        · exact leads_after fun _ _ => records _ _
      · exact leads_after fun _ _ => records _ _

theorem leads_recordUnknown : Leads config run (recordUnknown event) (HasRow event) w := by
  unfold recordUnknown
  dsimp only
  split
  · exact leads_bind leads_recordEvent fun _ _ recorded => recorded
  · refine leads_after fun _ _ => leads_after fun _ _ => ?_
    exact leads_bind leads_recordEvent fun _ _ recorded => recorded

theorem leads_handleEvent : Leads config run (handleEvent config event) (HasRow event) w := by
  refine leads_after fun known w₁ => ?_
  cases known with
  | none => exact leads_recordUnknown
  | some _ =>
      refine leads_bind (leads_withLease (fun doc w' => leads_processEvent) ?_) fun _ _ recorded => recorded
      exact fun _ _ _ recorded stay => stay _ recorded

/-- A duplicate key counts as success only once the row has been seen. -/
theorem leads_eventFailure {failure : Failure} :
    Leads config run (eventFailure event failure) (HasRow event) w := by
  have answers : ∀ confirmed w', (confirmed = true → event.id ∈ w'.db.events) →
      Leads config run
        (if confirmed = true then pure WebhookReply.duplicate
        else throw (.serviceUnavailable "Stripe synchronization temporarily unavailable")) (HasRow event)
        w' := by
    intro confirmed w' known
    split
    · rename_i found
      exact known found
    · trivial
  unfold eventFailure
  dsimp only
  split
  · refine leads_bind ?_ answers
    refine Contract.meets_recover (E := Any) ?_ fun _ _ _ => nofun
    exact leads_query fun w₁ found => List.contains_iff_mem.mp found
  · exact leads_bind (Q := fun confirmed w => confirmed = true → event.id ∈ w.db.events) nofun answers

/-- A supported event that is acknowledged has its row. -/
theorem leads_webhook (supported : event.object ≠ .unsupported) :
    Leads config run (webhook config event) (HasRow event) w := by
  refine leads_after fun _ _ => leads_after fun _ _ => leads_after fun _ _ => ?_
  split
  · rename_i unsupported
    exact absurd unsupported supported
  · refine leads_bind (Q := fun found w => found = true → event.id ∈ w.db.events) ?_ fun found w₁ known => ?_
    · exact leads_query fun w₁ found => List.contains_iff_mem.mp found
    · split
      · rename_i found
        exact known found
      · exact Contract.meets_recover (E := Any) leads_handleEvent fun _ _ _ => leads_eventFailure

end Delivery

/-! ### The ledger -/

/-- A delivery that has returned without a failure has its row from then on. -/
theorem acknowledged_hasRow {event : StripeEvent} (supported : event.object ≠ .unsupported)
    {ok : PaymentSystem → PaymentEvent → Prop} {s s₁ s' : PaymentSystem} {events : List PaymentEvent}
    (arrived : (paymentMachine config).apply s (.arrive (.webhook event)) = some s₁)
    (continued : (paymentMachine config).Run ok s₁ events s') {reply : PaymentReply}
    (acknowledged : s'.runs[s.runs.length]? = some (.done (.ok reply))) : event.id ∈ s'.world.db.events := by
  have leads : Leads config s.runs.length ((PaymentJob.webhook event).handler config) (HasRow event) s₁.world :=
    leads_bind (leads_webhook supported) fun _ _ recorded => recorded
  have followed := continued.follows
    ((ledgerContract config).Meets s.runs.length (Ends (HasRow event) Any)) ?_ ?_
    (Machine.apply_arrive arrived).1 leads
  · obtain ⟨process, present, meets⟩ := followed
    cases present.symm.trans acknowledged
    exact meets
  · intro s choice act resume answer w' _ _ meets executed
    exact (meets s.world (fun _ mem => mem) trivial).2 choice answer w' executed
  · intro s event process w' _ _ _ moves meets
    have stay := rowsStay_of_moves moves
    cases process with
    | done outcome =>
        cases outcome with
        | ok _ => exact stay _ meets
        | error _ => trivial
    | await act resume => exact fun w₁ relied => meets w₁ fun row mem => relied row (stay row mem)

/-- Every step of a transaction of `applyCanonical` for an event writes the row and the snapshot, or it leaves
the database as it is. -/
theorem transaction_commitsBoth {s s' : PaymentSystem} {k : Nat} {choice : Choice} {doc : Subscription}
    {status : StripeSubscriptionStatus} {remote : RemoteSubscription} {event : Nat} {draftsHeld : Bool}
    {resume : _} (waiting : s.runs[k]? =
      some (.await (.command (.applyCanonical doc status remote (some event) draftsHeld)) resume))
    (applied : (paymentMachine config).apply s (.step k choice) = some s') :
    CommitsBoth event s.world.db s'.world.db ∨ s'.world.db = s.world.db := by
  cases Machine.apply_moves applied with
  | action present executed =>
      cases waiting.symm.trans present
      have executed : paymentExec config.enabled k choice
          (.command (.applyCanonical doc status remote (some event) draftsHeld)) s.world = _ := executed
      rcases exec_cases executed with same | ⟨command, result, db, named, same, done⟩ | ⟨_, _, _, other, _⟩
      · rw [same]
        exact .inr rfl
      · cases named
        rw [same]
        exact .inl (applyCanonical_commitsBoth done)
      · cases other

/-- The webhook ledger, in every state of every run: an event has at most one row, a delivery of a supported
event is acknowledged only if its row exists, and a transaction of `applyCanonical` commits the row of its event
together with the snapshot or neither of them. -/
theorem webhook_ledger {companyId : Nat} {activatedAt clock : Int} {ownerEmail : Option String}
    {s : PaymentSystem} {events : List PaymentEvent}
    (interleaving : (paymentMachine config).Run (fun _ _ => True)
      (freshCompany companyId activatedAt clock ownerEmail) events s) :
    s.world.db.events.Nodup ∧
      (∀ event s₁ s' later reply, event.object ≠ .unsupported →
        (paymentMachine config).apply s (.arrive (.webhook event)) = some s₁ →
        (paymentMachine config).Run (fun _ _ => True) s₁ later s' →
        s'.runs[s.runs.length]? = some (.done (.ok reply)) → event.id ∈ s'.world.db.events) ∧
      ∀ k choice doc status remote event draftsHeld resume s',
        s.runs[k]? = some (.await (.command (.applyCanonical doc status remote (some event) draftsHeld)) resume) →
        (paymentMachine config).apply s (.step k choice) = some s' →
        CommitsBoth event s.world.db s'.world.db ∨ s'.world.db = s.world.db := by
  constructor
  · exact events_nodup interleaving List.nodup_nil
  constructor
  · intro event s₁ s' later reply supported arrived continued acknowledged
    exact acknowledged_hasRow supported arrived continued acknowledged
  · intro k choice doc status remote event draftsHeld resume s' waiting applied
    exact transaction_commitsBoth waiting applied

/-- An update of the subscription that a purchase created. -/
def subscriptionUpdated : StripeEvent where
  id := 77
  signed := true
  livemode := false
  object := .subscription 30 (some 5)

/-- A purchase, its first reconciliation and one delivery, whose commit is answered as `fate` says. -/
def delivery (fate : Fate) : List PaymentEvent :=
  purchase .basic ++ subscribe 1 .basic ++ .arrive (.webhook subscriptionUpdated) ::
    stepping 2 11 (granting .basic) ++
      [.step 2 { granting .basic with fate := fate }, .step 2 (granting .basic)]

theorem webhook_ledger_delivery :
    ∃ s, (paymentMachine testMode).play (delivery .delivered) (freshCompany 1 0 0 (some "owner")) = some s ∧
      s.world.db.events = [77] ∧ s.world.db.events.Nodup := by
  have plays : ((paymentMachine testMode).play (delivery .delivered) (freshCompany 1 0 0 (some "owner"))).any
      fun s => s.world.db.events = [77] := by decide +kernel
  obtain ⟨s, played, recorded⟩ := (Option.any_eq_true _ _).mp plays
  exact ⟨s, played, by simpa using recorded, (webhook_ledger (Machine.run_of_play played)).1⟩

/-- A delivery that never learns that its transaction was committed fails and leaves the row and the
snapshot. -/
theorem failed_delivery_commits :
    ∃ s failure, (paymentMachine testMode).play (delivery .lostAfter) (freshCompany 1 0 0 (some "owner")) = some s ∧
      s.runs[2]? = some (.done (.error failure)) ∧ 77 ∈ s.world.db.events ∧
      ∃ commit ∈ s.world.db.canonical, commit.run = 2 := by
  have plays : ((paymentMachine testMode).play (delivery .lostAfter) (freshCompany 1 0 0 (some "owner"))).any
      fun s => (s.runs[2]?.bind Process.returned) =
          some (.error (.serviceUnavailable "Stripe synchronization temporarily unavailable")) &&
        s.world.db.events.contains 77 && s.world.db.canonical.any fun commit => commit.run = 2 := by
    decide +kernel
  obtain ⟨s, played, holds⟩ := (Option.any_eq_true _ _).mp plays
  simp only [Bool.and_eq_true, decide_eq_true_eq, List.any_eq_true] at holds
  obtain ⟨⟨returned, recorded⟩, committed⟩ := holds
  obtain ⟨process, present, ended⟩ := Option.bind_eq_some_iff.mp returned
  rw [Process.returned_eq_some.mp ended] at present
  exact ⟨s, _, played, present, List.contains_iff_mem.mp recorded, committed⟩

end DataVault.Payments
