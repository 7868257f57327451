/-
Module: DataVault.Payments.UnknownEvents
Layer: Proof
Purpose: Deliveries of subscription and invoice events whose Stripe subscription is not stored yet. The webhook
  looks for the subscription by its id and then by its customer, without a lease. Between the two reads another
  handler may store the id: then the second read finds nothing that is being created, and the event is recorded
  as ignored. The row is right in every run in which no step stores the id in that window.
Imports: DataVault.Payments.WebhookLedger
Trusted boundary: none
Main exports: EventObject.subscriptionId, LooksUp, NotOvertaken, IgnoresNow, ignored_not_stored
-/
import DataVault.Payments.WebhookLedger

namespace DataVault.Payments

open DataVault.Control DataVault.Interleaving DataVault.Plans DataVault.Store DataVault.Subscriptions

abbrev PaymentProcess := Process PaymentAct PaymentAct.Res (Except Failure PaymentReply)

/-- The Stripe subscription of an event. -/
def EventObject.subscriptionId : EventObject → Option Nat
  | .subscription id _ => some id
  | .invoice billed _ => billed
  | .checkout .. | .unsupported => none

/-- A delivery stands between its lookup by subscription and the end of its write to the ledger: it is about to
look for the customer or to write the row. -/
def LooksUp : PaymentProcess → Prop
  | .await (.query (.byCustomer _)) _ | .await (.command (.recordEvent _)) _ => True
  | _ => False

/-- The next action of a process stores a Stripe subscription id: the update after the create. -/
def StoresId (id : Nat) : PaymentProcess → Prop
  | .await (.command (.update _ (.subscription stored))) _ => stored = id
  | _ => False

instance : DecidablePred LooksUp := fun process => by
  unfold LooksUp
  split <;> infer_instance

instance (id : Nat) : DecidablePred (StoresId id) := fun process => by
  unfold StoresId
  split <;> infer_instance

/-- No step stores the id while delivery `k` stands between its two reads or before its row. An update stores nothing
whose run has lost its lease, or that fails before it takes effect. -/
def NotOvertaken (k id : Nat) (s : PaymentSystem) : PaymentEvent → Prop
  | .step run choice => (∃ process ∈ s.runs[run]?, StoresId id process) → s.world.db.leasedTo run →
      choice.fate ≠ .lostBefore → ∀ process ∈ s.runs[k]?, ¬ LooksUp process
  | _ => True

instance (k id : Nat) (s : PaymentSystem) : DecidablePred (NotOvertaken k id s) := fun taken => by
  unfold NotOvertaken
  split <;> infer_instance

/-- The next action of a delivery writes its row, and the answer will be `ignored`. -/
def IgnoresNow (event : StripeEvent) (process : PaymentProcess) : Prop :=
  ∃ resume, process = .await (.command (.recordEvent event.id)) resume ∧
    resume (.ok ()) = .done (.ok (.webhook .ignored))

variable {config : PaymentConfig} {event : StripeEvent} {id : Nat}

/-! ### Who stores a subscription id

Only the update after the create of a subscription makes an id the stored one. Everything else keeps it or clears
it, so a lookup that missed the id stays right until such an update takes effect. -/

/-- A command that takes effect keeps the stored Stripe subscription id, clears it, or is the update that
stores one. -/
theorem execute_subscriptionId {enabled : Bool} {run step : Nat} {db db' : BillingDb} {clock : Int}
    {published : Except Failure Unit} {command : Command} {answer : command.Res}
    (executed : db.execute enabled run step clock published command = .ok (answer, db'))
    {id : Nat} (stored : db'.subscription.stripeSubscriptionId = some id) :
    db.subscription.stripeSubscriptionId = some id ∨ ∃ doc, command = .update doc (.subscription id) := by
  cases command with
  | update doc change =>
      simp only [BillingDb.execute] at executed
      split at executed
      · cases executed
        cases change with
        | attemptAt field instant =>
            cases field <;> exact .inl stored
        | subscription other =>
            cases stored
            exact .inr ⟨doc, rfl⟩
        | forgetSubscription => cases stored
        | _ => exact .inl stored
      · cases executed
        exact .inl stored
  | upload now =>
      obtain ⟨after, recorded, executed⟩ := bind_ok_iff.mp executed
      have same := (recordUpload_stores ⟨step, false⟩ recorded).fenced
      cases executed
      rw [← stored]
      exact .inl (Subscription.field_of_fenced Subscription.stripeSubscriptionId (fun _ => rfl) same).symm
  | publishCopy source now =>
      obtain ⟨_, _, executed⟩ := bind_ok_iff.mp executed
      obtain ⟨_, _, executed⟩ := bind_ok_iff.mp executed
      obtain ⟨after, recorded, executed⟩ := bind_ok_iff.mp executed
      have same := (recordUpload_stores ⟨step, true⟩ recorded).fenced
      cases executed
      rw [← stored]
      exact .inl (Subscription.field_of_fenced Subscription.stripeSubscriptionId (fun _ => rfl) same).symm
  | changePlan code changedAt =>
      obtain ⟨changed, changes, executed⟩ := bind_ok_iff.mp executed
      obtain ⟨planChangedAt, rfl⟩ := changePlan_touches changes
      cases executed
      exact .inl stored
  | localPlan doc code =>
      obtain ⟨_, _, executed⟩ := bind_ok_iff.mp executed
      obtain ⟨_, _, executed⟩ := bind_ok_iff.mp executed
      cases executed
      exact .inl stored
  | queuePlan doc code =>
      obtain ⟨queued, _, executed⟩ := bind_ok_iff.mp executed
      cases queued with
      | none =>
          cases executed
          exact .inl stored
      | some queued =>
          obtain ⟨_, _, executed⟩ := bind_ok_iff.mp executed
          cases executed
          exact .inl stored
  | applyCanonical doc status remote event draftsHeld =>
      obtain ⟨_, _, executed⟩ := bind_ok_iff.mp executed
      obtain ⟨_, _, executed⟩ := bind_ok_iff.mp executed
      obtain ⟨_, _, executed⟩ := bind_ok_iff.mp executed
      cases executed
      exact .inl stored
  | _ =>
      simp only [BillingDb.execute] at executed
      repeat' split at executed
      all_goals cases executed
      all_goals exact .inl stored

/-- An update that takes effect is made under the lease, and does not fail before. -/
theorem update_effective {run : Nat} {choice : Choice} {w w' : PaymentWorld} {doc : Subscription}
    {change : SubscriptionUpdate} {answer : Except Failure Bool}
    (executed : paymentExec config.enabled run choice (.command (.update doc change)) w = some (answer, w')) :
    w'.db = w.db ∨ w.db.leasedTo run ∧ choice.fate ≠ .lostBefore := by
  simp only [paymentExec, PaymentWorld.runCommand, BillingDb.execute] at executed
  by_cases leased : w.db.leasedTo run
  · rw [if_pos leased] at executed
    cases fate : choice.fate with
    | delivered | lostAfter => exact .inr ⟨leased, by simp⟩
    | lostBefore =>
        rw [fate] at executed
        cases executed
        exact .inl rfl
  · rw [if_neg leased] at executed
    cases fate : choice.fate <;> rw [fate] at executed <;> cases executed
    · exact .inl rfl
    · exact .inl rfl
    · exact .inl rfl

/-- No step but an update that stores the id makes it the stored one. -/
theorem moves_subscriptionId {s : PaymentSystem} {taken : PaymentEvent} {w' : PaymentWorld}
    (moves : Machine.Moves (paymentMachine config) s w' taken)
    (other : ∀ run choice process, taken = .step run choice → s.runs[run]? = some process →
      s.world.db.leasedTo run → choice.fate ≠ .lostBefore → ¬ StoresId id process)
    (unstored : s.world.db.subscription.stripeSubscriptionId ≠ some id) :
    w'.db.subscription.stripeSubscriptionId ≠ some id := by
  cases moves with
  | arrival _ same => rwa [same]
  | drifted happened =>
      rcases paymentDrift_db happened with ⟨same, _⟩ | ⟨_, _, rfl⟩
      · rwa [same]
      · exact unstored
  | @action run choice act resume answer waiting executed =>
      rcases exec_cases (show paymentExec config.enabled run choice act s.world = _ from executed) with
        same | ⟨command, result, db, rfl, same, done⟩ | ⟨_, _, _, rfl, same⟩
      · rwa [same]
      · rw [same, PaymentWorld.commit_db]
        intro stored
        rcases execute_subscriptionId done stored with before | ⟨doc, rfl⟩
        · exact unstored before
        · rcases update_effective executed with unchanged | ⟨leased, effective⟩
          · rw [same, PaymentWorld.commit_db] at unchanged
            rw [unchanged] at stored
            exact unstored stored
          · exact other run choice _ rfl waiting leased effective rfl
      · rwa [same]

/-! ### The stages of a delivery

The delivery is cut at its awaits. Each stage records what the delivery has seen so far and that it still holds; its
own steps lead to the next stage, and steps of other runs keep the stage unless they store the id in the window. -/

/-- A delivery from its first lookup on. -/
def deliverEvent (config : PaymentConfig) (event : StripeEvent) : PaymentProcess :=
  (do
    let reply ← Process.recover (handleEvent config event) (eventFailure event)
    pure (PaymentReply.webhook reply) : PaymentHandler PaymentReply).run

/-- A delivery whose subscription was not found. -/
def deliverUnknown (event : StripeEvent) : PaymentProcess :=
  (do
    let reply ← Process.recover (recordUnknown event) (eventFailure event)
    pure (PaymentReply.webhook reply) : PaymentHandler PaymentReply).run

/-- A delivery that is about to write an ignored row. -/
def deliverIgnored (event : StripeEvent) : PaymentProcess :=
  (do
    let reply ← Process.recover (do write (.recordEvent event.id); pure WebhookReply.ignored)
      (eventFailure event)
    pure (PaymentReply.webhook reply) : PaymentHandler PaymentReply).run

/-- A delivery after a failure. -/
def deliverFailure (event : StripeEvent) (failure : Failure) : PaymentProcess :=
  (do
    let reply ← eventFailure event failure
    pure (PaymentReply.webhook reply) : PaymentHandler PaymentReply).run

/-- A delivery of a known subscription. -/
def deliverKnown (config : PaymentConfig) (event : StripeEvent) : PaymentProcess :=
  (do
    let reply ← Process.recover (do withLease (processEvent config event); pure WebhookReply.received)
      (eventFailure event)
    pure (PaymentReply.webhook reply) : PaymentHandler PaymentReply).run

/-- What is returned is not `ignored`. -/
def NotIgnored (outcome : Except Failure PaymentReply) : Prop := outcome ≠ .ok (.webhook .ignored)

/-- A delivery returns at once or asks first whether its event is recorded. -/
theorem handler_webhook (config : PaymentConfig) (event : StripeEvent) :
    (∃ outcome, ((PaymentJob.webhook event).handler config).run = .done outcome) ∨
      ((PaymentJob.webhook event).handler config).run =
        .await (.query (.eventExists event.id)) fun
          | .error failure => .done (.error failure)
          | .ok true => .done (.ok (.webhook .duplicate))
          | .ok false => deliverEvent config event := by
  rcases config with ⟨enabled, _⟩
  rcases event with ⟨_, signed, livemode, object⟩
  by_cases unsupported : object = .unsupported
  · subst unsupported
    cases enabled <;> cases signed <;> cases livemode
    all_goals exact .inl ⟨_, rfl⟩
  · cases enabled <;> cases signed <;> cases livemode
    all_goals try exact .inl ⟨_, rfl⟩
    refine .inr ?_
    simp only [PaymentJob.handler, webhook, unsupported, if_false]
    refine congrArg (Process.await _) (funext fun answer => ?_)
    rcases answer with failure | found
    · rfl
    · cases found <;> rfl

/-- The first lookup of a subscription or invoice event. -/
theorem deliverEvent_eq (named : event.object.subscriptionId = some id) :
    deliverEvent config event = .await (.query (.bySubscription id)) fun
      | .error failure => deliverFailure event failure
      | .ok none => deliverUnknown event
      | .ok (some _) => deliverKnown config event := by
  rcases event with ⟨_, _, _, object⟩
  rcases object with _ | _ | ⟨_ | _, _⟩ | _
  all_goals cases named
  all_goals
    refine congrArg (Process.await _) (funext fun answer => ?_)
    rcases answer with failure | _ | _
    all_goals rfl

/-- What the second lookup decides. -/
theorem deliverMatched_eq (pending : Bool) :
    (do
      let reply ← Process.recover
        (do
          check (require (!pending) .checkoutMappingPending)
          write (.recordEvent event.id)
          pure WebhookReply.ignored) (eventFailure event)
      pure (PaymentReply.webhook reply) : PaymentHandler PaymentReply).run =
    if pending then deliverFailure event .checkoutMappingPending else deliverIgnored event := by
  cases pending <;> rfl

/-- The second lookup, where the event names its customer. -/
theorem deliverUnknown_eq (event : StripeEvent) :
    (event.object.customer = none ∧ deliverUnknown event = deliverIgnored event) ∨
      ∃ customer, deliverUnknown event = .await (.query (.byCustomer customer)) fun
        | .error failure => deliverFailure event failure
        | .ok creating =>
            if creating.any fun doc => doc.stripeCheckoutOperation.isSome && doc.stripeSubscriptionId.isNone then
              deliverFailure event .checkoutMappingPending
            else deliverIgnored event := by
  cases named : event.object.customer with
  | none =>
      refine .inl ⟨rfl, ?_⟩
      simp only [deliverUnknown, recordUnknown, named]
      rfl
  | some customer =>
      refine .inr ⟨customer, ?_⟩
      simp only [deliverUnknown, recordUnknown, named]
      refine congrArg (Process.await _) (funext fun answer => ?_)
      rcases answer with failure | creating
      · rfl
      · exact deliverMatched_eq _

theorem deliverIgnored_eq :
    deliverIgnored event = .await (.command (.recordEvent event.id)) fun
      | .error failure => deliverFailure event failure
      | .ok _ => .done (.ok (.webhook .ignored)) := by
  refine congrArg (Process.await _) (funext fun answer => ?_)
  rcases answer with failure | _
  all_goals rfl

/-- A delivery that failed is not answered with `ignored`. -/
theorem deliverFailure_yields (failure : Failure) : Process.Yields NotIgnored (deliverFailure event failure) := by
  unfold deliverFailure eventFailure
  by_cases duplicate : failure = .duplicateKey
  · subst duplicate
    intro answer
    rcases answer with _ | found
    · exact nofun
    · cases found <;> exact nofun
  · simp only [duplicate, if_false]
    exact nofun

theorem deliverKnown_yields : Process.Yields NotIgnored (deliverKnown config event) := by
  have caught : ∀ outcome : Except Failure WebhookReply, outcome ≠ .ok .ignored →
      Process.Yields NotIgnored
        (match outcome with
        | .ok reply => .done (.ok (.webhook reply))
        | .error failure => deliverFailure event failure) := by
    intro outcome other
    cases outcome with
    | ok reply =>
        intro same
        cases same
        exact other rfl
    | error failure => exact deliverFailure_yields failure
  have received : Process.Yields (fun outcome => outcome ≠ .ok .ignored)
      (do withLease (processEvent config event); pure WebhookReply.received : PaymentHandler _).run := by
    refine Process.Yields.bind (fun outcome _ => ?_) (Process.Yields.any _)
    cases outcome <;> exact nofun
  have caught_after : deliverKnown config event =
      (do withLease (processEvent config event); pure WebhookReply.received : PaymentHandler _).run >>=
        fun outcome => match outcome with
          | .ok reply => .done (.ok (.webhook reply))
          | .error failure => deliverFailure event failure := by
    refine (Process.bind_assoc _ _ _).trans (congrArg _ (funext fun outcome => ?_))
    cases outcome <;> rfl
  rw [caught_after]
  exact Process.Yields.bind caught received

/-- Where a delivery stands, with what it has seen. From the lookup by subscription to the row of the event it relies on
the subscription staying unstored, which no lease protects. -/
inductive Stage (config : PaymentConfig) (event : StripeEvent) (id : Nat) :
    PaymentProcess → PaymentWorld → Prop where
  | arrived (w : PaymentWorld) : Stage config event id ((PaymentJob.webhook event).handler config).run w
  | looking (w : PaymentWorld) : Stage config event id (deliverEvent config event) w
  | unknown {w : PaymentWorld} (unstored : w.db.subscription.stripeSubscriptionId ≠ some id) :
      Stage config event id (deliverUnknown event) w
  | unmatched {w : PaymentWorld} (unstored : w.db.subscription.stripeSubscriptionId ≠ some id) :
      Stage config event id (deliverIgnored event) w
  | returned (outcome : Except Failure PaymentReply) (w : PaymentWorld) :
      Stage config event id (.done outcome) w
  | settled {process : PaymentProcess} (w : PaymentWorld) (never : Process.Yields NotIgnored process) :
      Stage config event id process w

/-- A step of the delivery itself leads to the next stage. -/
theorem Stage.own (named : event.object.subscriptionId = some id) {k : Nat} {choice : Choice} {act : PaymentAct}
    {resume : act.Res → PaymentProcess} {answer : act.Res} {w w' : PaymentWorld}
    (stage : Stage config event id (.await act resume) w)
    (executed : paymentExec config.enabled k choice act w = some (answer, w')) :
    Stage config event id (resume answer) w' := by
  generalize awaiting : Process.await act resume = process at stage
  cases stage with
  | arrived =>
      rcases handler_webhook config event with ⟨_, finished⟩ | asks
      · cases awaiting.trans finished
      · cases awaiting.trans asks
        rcases answer with failure | found
        · exact .returned _ _
        · cases found with
          | true => exact .returned _ _
          | false => exact .looking _
  | looking =>
      cases awaiting.trans (deliverEvent_eq named)
      obtain ⟨answered, rfl⟩ := Prod.mk.inj (Option.some.inj executed)
      rcases answer with failure | _ | _
      · exact .settled _ (deliverFailure_yields failure)
      · -- Nothing was found: the id is not stored in this state.
        refine .unknown ?_
        intro stored
        split at answered
        · simp only [BillingDb.answer, Except.ok.injEq] at answered
          rw [if_pos (show w.db.subscription.stripeSubscriptionId = some id from stored)] at answered
          cases answered
        · cases answered
      · exact .settled _ deliverKnown_yields
  | unknown unstored =>
      rcases deliverUnknown_eq event with ⟨_, same⟩ | ⟨customer, asks⟩
      · cases awaiting.trans (same.trans deliverIgnored_eq)
        rcases answer with failure | _
        · exact .settled _ (deliverFailure_yields failure)
        · exact .returned _ _
      · cases awaiting.trans asks
        obtain ⟨_, rfl⟩ := Prod.mk.inj (Option.some.inj executed)
        rcases answer with failure | creating
        · exact .settled _ (deliverFailure_yields failure)
        · dsimp only
          split
          · exact .settled _ (deliverFailure_yields _)
          · exact .unmatched unstored
  | unmatched unstored =>
      cases awaiting.trans deliverIgnored_eq
      rcases answer with failure | _
      · exact .settled _ (deliverFailure_yields failure)
      · exact .returned _ _
  | returned => cases awaiting
  | settled _ never =>
      cases awaiting
      exact .settled _ (never answer)

theorem looksUp_unknown : LooksUp (deliverUnknown event) := by
  rcases deliverUnknown_eq event with ⟨_, same⟩ | ⟨customer, asks⟩
  · rw [same, deliverIgnored_eq]
    trivial
  · rw [asks]
    trivial

/-- A step of another run keeps the stage, as long as it does not store the id in the window. -/
theorem Stage.others {k : Nat} {s : PaymentSystem} {taken : PaymentEvent} {process : PaymentProcess}
    {w' : PaymentWorld} (permitted : NotOvertaken k id s taken) (present : s.runs[k]? = some process)
    (moves : Machine.Moves (paymentMachine config) s w' taken) (stage : Stage config event id process s.world) :
    Stage config event id process w' := by
  have kept (window : LooksUp process) (unstored : s.world.db.subscription.stripeSubscriptionId ≠ some id) :
      w'.db.subscription.stripeSubscriptionId ≠ some id := by
    refine moves_subscriptionId moves ?_ unstored
    rintro run choice other rfl there leased effective stores
    exact permitted ⟨other, there, stores⟩ leased effective process present window
  cases stage with
  | arrived => exact .arrived _
  | looking => exact .looking _
  | unknown unstored => exact .unknown (kept looksUp_unknown unstored)
  | unmatched unstored =>
      refine .unmatched (kept ?_ unstored)
      rw [deliverIgnored_eq]
      trivial
  | returned => exact .returned _ _
  | settled _ never => exact .settled _ never

/-- A delivery that is about to record its event as ignored has seen that the id is not stored. -/
theorem Stage.ignores {process : PaymentProcess} {w : PaymentWorld} (named : event.object.subscriptionId = some id)
    (stage : Stage config event id process w) (ignores : IgnoresNow event process) :
    w.db.subscription.stripeSubscriptionId ≠ some id := by
  obtain ⟨resume, writes, replies⟩ := ignores
  cases stage with
  | arrived =>
      rcases handler_webhook config event with ⟨_, finished⟩ | asks
      · cases finished.symm.trans writes
      · cases asks.symm.trans writes
  | looking => cases (deliverEvent_eq named).symm.trans writes
  | unknown unstored => exact unstored
  | unmatched unstored => exact unstored
  | returned => cases writes
  | settled _ never =>
      rw [writes] at never
      have yielded := never (.ok ())
      rw [replies] at yielded
      exact absurd rfl yielded

/-- In every run in which no step stores the Stripe subscription of an event between the lookup of its delivery
and the delivery's row, the delivery does not record the event as ignored while the subscription is stored. -/
theorem ignored_not_stored (named : event.object.subscriptionId = some id) {s s₁ s' : PaymentSystem}
    {events : List PaymentEvent} (arrived : (paymentMachine config).apply s (.arrive (.webhook event)) = some s₁)
    (interleaving : (paymentMachine config).Run (NotOvertaken s.runs.length id) s₁ events s')
    {process : PaymentProcess} (present : s'.runs[s.runs.length]? = some process)
    (ignores : IgnoresNow event process) : s'.world.db.subscription.stripeSubscriptionId ≠ some id := by
  have followed := interleaving.follows (Stage config event id) ?_ ?_ (Machine.apply_arrive arrived).1 (.arrived _)
  · obtain ⟨process', there, stage⟩ := followed
    cases present.symm.trans there
    exact stage.ignores named ignores
  · intro s choice act resume answer w' _ _ stage executed
    exact stage.own named executed
  · intro s taken process w' permitted there _ moves stage
    exact stage.others permitted there moves

/-- The event arrives at a company that never heard of the subscription. -/
theorem ignored_not_stored_fresh :
    ∃ s₁ s', (paymentMachine testMode).apply (freshCompany 1 0 0 none) (.arrive (.webhook subscriptionUpdated)) =
        some s₁ ∧
      (paymentMachine testMode).playIf (NotOvertaken 0 30) (stepping 0 3 default) s₁ = some s' ∧
      (∃ process, s'.runs[0]? = some process ∧ IgnoresNow subscriptionUpdated process) ∧
      s'.world.db.subscription.stripeSubscriptionId ≠ some 30 := by
  have ignores : IgnoresNow subscriptionUpdated (deliverIgnored subscriptionUpdated) :=
    ⟨_, deliverIgnored_eq, rfl⟩
  let s₁ : PaymentSystem :=
    { world := (freshCompany 1 0 0 none).world
      runs := [((PaymentJob.webhook subscriptionUpdated).handler testMode).run] }
  let s' : PaymentSystem :=
    { world := (freshCompany 1 0 0 none).world.tick.tick.tick
      runs := [deliverIgnored subscriptionUpdated] }
  have arrived : (paymentMachine testMode).apply (freshCompany 1 0 0 none)
      (.arrive (.webhook subscriptionUpdated)) = some s₁ := rfl
  have played : (paymentMachine testMode).playIf (NotOvertaken 0 30) (stepping 0 3 default) s₁ = some s' := rfl
  exact ⟨s₁, s', arrived, played, ⟨_, rfl, ignores⟩,
    ignored_not_stored rfl arrived (Machine.run_of_playIf played) rfl ignores⟩

/-- The event of a new subscription is delivered between its creation and the update that stores its id; the
update is made between the two lookups. -/
def overtaken : List PaymentEvent :=
  purchase .basic ++ .arrive .reconcileCompany :: stepping 1 13 (granting .basic) ++
    .arrive (.webhook subscriptionUpdated) :: stepping 2 2 (granting .basic) ++
      [.step 1 (granting .basic), .step 2 (granting .basic)]

/-- The subscription is stored when the delivery writes its row, and the event is recorded as ignored. -/
theorem ignored_although_stored :
    ∃ s s', (paymentMachine testMode).play overtaken (freshCompany 1 0 0 (some "owner")) = some s ∧
      s.world.db.subscription.stripeSubscriptionId = some 30 ∧ 77 ∉ s.world.db.events ∧
      (paymentMachine testMode).apply s (.step 2 (granting .basic)) = some s' ∧ 77 ∈ s'.world.db.events ∧
      s'.runs[2]? = some (.done (.ok (.webhook .ignored))) := by
  have plays : ((paymentMachine testMode).play overtaken (freshCompany 1 0 0 (some "owner"))).any fun s =>
      s.world.db.subscription.stripeSubscriptionId = some 30 && 77 ∉ s.world.db.events &&
        ((paymentMachine testMode).apply s (.step 2 (granting .basic))).any fun s' =>
          77 ∈ s'.world.db.events &&
            (s'.runs[2]?.bind Process.returned) = some (.ok (.webhook .ignored)) := by
    decide +kernel
  obtain ⟨s, played, holds⟩ := (Option.any_eq_true _ _).mp plays
  simp only [Bool.and_eq_true, decide_eq_true_eq] at holds
  obtain ⟨⟨stored, unrecorded⟩, writes⟩ := holds
  obtain ⟨s', applied, holds⟩ := (Option.any_eq_true _ _).mp writes
  simp only [Bool.and_eq_true, decide_eq_true_eq] at holds
  obtain ⟨process, present, ended⟩ := Option.bind_eq_some_iff.mp holds.2
  rw [Process.returned_eq_some.mp ended] at present
  exact ⟨s, s', played, stored, unrecorded, applied, holds.1, present⟩

end DataVault.Payments
