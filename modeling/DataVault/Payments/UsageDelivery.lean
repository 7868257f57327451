/-
Module: DataVault.Payments.UsageDelivery
Layer: Proof
Purpose: Delivery of metered usage by any number of runs of `submitUsage`. A row that is submitted stays
  submitted, and no row is sent again after the retry window, as long as two kinds of writes keep to a
  condition that the code does not check: the delivery state is written under the lease, and a first attempt
  is written before the row was sent. Each result comes with a run in which a stalled handler breaks it.
Imports: DataVault.Payments.Reachable
Trusted boundary: none
Main exports: StateWritesFenced, submitted_absorbing, FirstAttemptsFirst, SentInTime, resent_in_time
-/
import DataVault.Payments.Reachable

namespace DataVault.Payments

open DataVault.Control DataVault.Interleaving DataVault.Plans DataVault.Store DataVault.Subscriptions

variable {config : PaymentConfig} {run : Nat}

/-! ### Submitted rows

`submitUsage` writes the state of a row by its identifier alone, without asking for the lease. A row can only fall
back from `submitted` by a write of a run that loaded it before and has lost the lease since; the condition excludes
exactly these writes. -/

/-- Delivery states are written only by the run that holds the lease. -/
abbrev StateWritesFenced : Nat → Choice → PaymentAct → PaymentWorld → Prop := UsageFenced True

/-- The rows of the identifiers in `submitted` are submitted. -/
def AllSubmitted (submitted : List UsageIdentifier) (w : PaymentWorld) : Prop :=
  ∀ identifier ∈ submitted, ∃ row ∈ w.db.usages.rows, row.identifier = identifier ∧ row.state = .submitted

theorem AllSubmitted.of_rows {submitted : List UsageIdentifier} {w w' : PaymentWorld}
    (all : AllSubmitted submitted w)
    (kept : ∀ row ∈ w.db.usages.rows, row.state = .submitted →
      ∃ row' ∈ w'.db.usages.rows, row'.identifier = row.identifier ∧ row'.state = .submitted) :
    AllSubmitted submitted w' := by
  intro identifier mem
  obtain ⟨row, there, named, state⟩ := all identifier mem
  obtain ⟨row', there', same, state'⟩ := kept row there state
  exact ⟨row', there', same.trans named, state'⟩

/-- A write to a row under `StateWritesFenced` does not take a submitted row back. -/
theorem submitted_usage {w : PaymentWorld} {identifier : UsageIdentifier} {delivery : DeliveryUpdate}
    (allowed : delivery.Allowed True run w identifier) {row : StripeUsage} (mem : row ∈ w.db.usages.rows)
    (state : row.state = .submitted) :
    ∃ row' ∈ (w.db.usages.update identifier delivery).rows,
      row'.identifier = row.identifier ∧ row'.state = .submitted := by
  refine ⟨_, List.mem_map_of_mem mem, ?_⟩
  split
  · rename_i named
    cases delivery with
    | unresolved =>
        have pending := (allowed trivial).2 row mem named
        rw [state] at pending
        cases pending
    | firstAttempt instant => exact ⟨rfl, state⟩
    | submitted instant => exact ⟨rfl, rfl⟩
  · exact ⟨rfl, state⟩

theorem submitted_step {submitted : List UsageIdentifier} {w w' : PaymentWorld}
    (all : AllSubmitted submitted w) (step : PaymentStep config True run w w') :
    AllSubmitted submitted w' := by
  refine all.of_rows fun row mem state => ?_
  cases step with
  | idle | sent | opened | subscribed | update | rotate | localPlan | queuePlan | canonical | planChanged =>
      exact ⟨row, mem, rfl, state⟩
  | quiet unchanged => exact ⟨row, by rwa [PaymentWorld.commit_db, unchanged.usages], rfl, state⟩
  | usage allowed => exact submitted_usage allowed mem state
  | stored stores =>
      refine ⟨row, ?_, rfl, state⟩
      rcases stores.usages with same | ⟨_, _, _, inserted⟩
      · rwa [PaymentWorld.commit_db, same]
      · rw [PaymentWorld.commit_db, PaymentStep.insert_rows inserted]
        exact List.mem_cons_of_mem _ mem

/-- Submitted is absorbing. In every run whose writes of delivery states are all made under the lease, a row
that is submitted at some point is submitted ever after. -/
theorem submitted_absorbing {start s s' : PaymentSystem} {before after : List PaymentEvent}
    (reached : (paymentMachine config).Run (Acting StateWritesFenced) start before s)
    (continued : (paymentMachine config).Run (Acting StateWritesFenced) s after s')
    (idle : start.runs = []) (consistent : Consistent start.world) {row : StripeUsage}
    (mem : row ∈ s.world.db.usages.rows) (submitted : row.state = .submitted) :
    ∃ row' ∈ s'.world.db.usages.rows, row'.identifier = row.identifier ∧ row'.state = .submitted := by
  have meets := (invariant_from (fun _ => True) (fun _ _ _ _ fenced => fenced)
    (fun _ _ _ _ _ _ _ _ _ _ _ => trivial) (fun _ _ _ _ _ => trivial) reached
    (idle_meets consistent idle) trivial).1
  have kept := (invariant_from (AllSubmitted [row.identifier]) (fun _ _ _ _ fenced => fenced) ?_ ?_
    continued meets ?_).2
  · exact kept row.identifier (List.mem_singleton_self _)
  · intro run choice act w answer w' _ all known fenced executed
    exact submitted_step all (step_of_exec known fenced executed)
  · intro change w w' all drifted
    rcases paymentDrift_db drifted with ⟨same, _⟩ | ⟨employees, pendingInvitations, rfl⟩
    · intro identifier named
      rw [same]
      exact all identifier named
    · exact all
  · intro identifier named
    rw [List.mem_singleton.mp named]
    exact ⟨row, mem, rfl, submitted⟩

/-! ### A company with one metered file -/

def meteredUsage (firstAttemptAt : Option Int) : StripeUsage where
  identifier := ⟨1, 0, 1001⟩
  companyId := 1
  customerId := 1
  subscriptionId := 3
  quantity := 1
  timestamp := 0
  periodStartsAt := 0
  periodEndsAt := 2678400000
  firstAttemptAt := firstAttemptAt

/-- A Premium company that was charged for one file beyond the included ones, while no handler is running. -/
def meteredCompany (clock : Int) (firstAttemptAt : Option Int) : PaymentSystem where
  world :=
    { clock := clock
      steps := 4
      db :=
        { subscription :=
            { companyId := 1
              planCode := .premium
              activatedAt := 0
              planChangedAt := 0
              stripeManaged := true
              stripeCustomerId := some 1
              stripeSubscriptionId := some 3
              stripeStatus := some .active
              paymentAccess := .active
              stripeCheckoutSessionId := some 2
              stripeSyncedAt := some 0
              stripeMeterStartedAt := some 0 }
          usages := ⟨[meteredUsage firstAttemptAt], List.nodup_singleton _⟩ }
      stripe := Stripe.addSubscription {}
        { (default : RemoteSubscription) with
          id := 3
          session := 2
          customer := some 1
          companyId := some 1
          status := some .active
          anchor := some (anchorOf 0)
          items := [⟨0, .premium, some 1, 0, 2678400⟩, ⟨1, .overage, none, 0, 2678400⟩]
          chargeAutomatically := true } 0 }
  runs := []

theorem meteredCompany_consistent (clock : Int) (firstAttemptAt : Option Int) :
    Consistent (meteredCompany clock firstAttemptAt).world where
  session _ _ found := by cases found
  sessionKey _ _ used := by cases used
  canonical _ mem := by cases mem
  subscription id remote found := by
    simp only [meteredCompany, Stripe.addSubscription, Function.update_apply] at found ⊢
    split at found
    · rename_i same
      cases found
      exact ⟨same.symm, by omega⟩
    · cases found
  subscriptionKey session use used := by
    simp only [meteredCompany, Stripe.addSubscription, Function.update_apply] at used ⊢
    split at used
    · rename_i same
      cases used
      exact ⟨same.symm, by decide, _, rfl, same.symm⟩
    · cases used

def meteredConfig : PaymentConfig := ⟨true, "", "", "files", 7, 0⟩

/-- Answers of an environment that confirms the delivery of the row. -/
def confirming : Choice := { (default : Choice) with meterEvent := ⟨false, ⟨1, 0, 1001⟩⟩ }

def minutes (count : Nat) : PaymentEvent := .drift (.tick (count * 60000))

/-- A handler that holds the lease delivers the row, and a later one leaves it submitted. -/
theorem submitted_absorbing_delivery :
    ∃ s s', (paymentMachine meteredConfig).playIf (Acting StateWritesFenced)
        (.arrive .reconcileCompany :: stepping 0 11 confirming) (meteredCompany 0 none) = some s ∧
      (paymentMachine meteredConfig).playIf (Acting StateWritesFenced)
        (minutes 10 :: .arrive .reconcileCompany :: stepping 1 5 confirming) s = some s' ∧
      ∃ row ∈ s'.world.db.usages.rows, row.identifier = ⟨1, 0, 1001⟩ ∧ row.state = .submitted := by
  have plays : ((paymentMachine meteredConfig).playIf (Acting StateWritesFenced)
      (.arrive .reconcileCompany :: stepping 0 11 confirming) (meteredCompany 0 none)).any fun s =>
        (s.world.db.usages.rows.any fun row => row.identifier = ⟨1, 0, 1001⟩ && row.state = .submitted) &&
        ((paymentMachine meteredConfig).playIf (Acting StateWritesFenced)
          (minutes 10 :: .arrive .reconcileCompany :: stepping 1 5 confirming) s).isSome := by
    decide +kernel
  obtain ⟨s, reached, holds⟩ := (Option.any_eq_true _ _).mp plays
  simp only [Bool.and_eq_true, List.any_eq_true, decide_eq_true_eq] at holds
  obtain ⟨⟨row, mem, named, submitted⟩, continues⟩ := holds
  obtain ⟨s', continued⟩ := Option.isSome_iff_exists.mp continues
  obtain ⟨row', mem', same, submitted'⟩ := submitted_absorbing (Machine.run_of_playIf reached)
    (Machine.run_of_playIf continued) rfl (meteredCompany_consistent 0 none) mem submitted
  exact ⟨s, s', reached, continued, row', mem', same.trans named, submitted'⟩

/-- The first handler loads the row and stalls; ten minutes later a second one has taken the lease and
delivers it, 22 hours and 10 minutes after the first attempt. -/
def deliveredAfterTakeover : List PaymentEvent :=
  .arrive .reconcileCompany :: stepping 0 3 confirming ++
    minutes 10 :: .arrive .reconcileCompany :: stepping 1 9 confirming

/-- An hour later the first handler goes on: the row it loaded has become too old. -/
def resumedTooLate : List PaymentEvent := minutes 60 :: stepping 0 2 confirming

/-- Without the condition a stalled handler takes a submitted row back. -/
theorem submitted_regresses :
    ∃ s s', (paymentMachine meteredConfig).play deliveredAfterTakeover
        (meteredCompany (22 * 60 * 60 * 1000) (some 0)) = some s ∧
      (paymentMachine meteredConfig).play resumedTooLate s = some s' ∧
      (∃ row ∈ s.world.db.usages.rows, row.state = .submitted) ∧
      ∀ row ∈ s'.world.db.usages.rows, row.state ≠ .submitted := by
  have plays : ((paymentMachine meteredConfig).play deliveredAfterTakeover
      (meteredCompany (22 * 60 * 60 * 1000) (some 0))).any fun s =>
        (s.world.db.usages.rows.any fun row => row.state = .submitted) &&
        ((paymentMachine meteredConfig).play resumedTooLate s).any fun s' =>
          s'.world.db.usages.rows.all fun row => row.state ≠ .submitted := by
    decide +kernel
  obtain ⟨s, reached, holds⟩ := (Option.any_eq_true _ _).mp plays
  obtain ⟨submitted, continues⟩ := (Bool.and_eq_true _ _).mp holds
  obtain ⟨s', continued, regressed⟩ := (Option.any_eq_true _ _).mp continues
  exact ⟨s, s', reached, continued, by simpa using submitted, by simpa using regressed⟩

/-! ### First attempts

The age of a row is checked against the first attempt that the run has in memory, and the first attempt is written
before the lease is renewed. As long as every first attempt is written before the row is sent, all attempts on
record lie before all requests, and a check that passes against one of them passes against the time of any request.
-/

/-- A first attempt is written to a row only before the row was sent. -/
def FirstAttemptsFirst (_run : Nat) (_ : Choice) (act : PaymentAct) (w : PaymentWorld) : Prop :=
  ∀ written ∈ act.usageWrite, written.2.writesState = false →
    ∀ entry ∈ w.sent, entry.request.key ≠ some (.usage written.1)

instance (run : Nat) (choice : Choice) (act : PaymentAct) (w : PaymentWorld) :
    Decidable (FirstAttemptsFirst run choice act w) :=
  inferInstanceAs (Decidable (∀ written ∈ act.usageWrite, written.2.writesState = false →
    ∀ entry ∈ w.sent, entry.request.key ≠ some (.usage written.1)))

/-- Only an upload adds a row and only `submitUsage` changes one. -/
theorem usages_of_execute {db db' : BillingDb} {enabled : Bool} {step : Nat} {clock : Int}
    {published : Except Failure Unit} {command : Command} {result : command.Res}
    (executed : db.execute enabled run step clock published command = .ok (result, db')) :
    db'.usages = db.usages ∨
      (∃ row, row.firstAttemptAt = none ∧ db.usages.insert row = some db'.usages) ∨
      ∃ identifier delivery, command = .usage identifier delivery ∧
        db'.usages = db.usages.update identifier delivery := by
  have uploads : ∀ {now : Int} {stored : BillingDb}, db.recordUpload enabled now = .ok stored →
      stored.usages = db.usages ∨
        ∃ row, row.firstAttemptAt = none ∧ db.usages.insert row = some stored.usages := by
    intro now stored recorded
    rcases (recordUpload_stores ⟨0, false⟩ recorded).usages with same | ⟨row, _, untried, inserted⟩
    · exact .inl same
    · exact .inr ⟨row, untried, inserted⟩
  cases command with
  | usage identifier delivery =>
      cases executed
      exact .inr (.inr ⟨identifier, delivery, rfl, rfl⟩)
  | upload now =>
      obtain ⟨stored, recorded, executed⟩ := bind_ok_iff.mp executed
      cases executed
      exact (uploads recorded).imp_right .inl
  | publishCopy source now =>
      obtain ⟨_, _, executed⟩ := bind_ok_iff.mp executed
      obtain ⟨_, _, executed⟩ := bind_ok_iff.mp executed
      obtain ⟨stored, recorded, executed⟩ := bind_ok_iff.mp executed
      cases executed
      exact (uploads recorded).imp_right .inl
  | localPlan doc code =>
      obtain ⟨_, _, executed⟩ := bind_ok_iff.mp executed
      obtain ⟨_, _, executed⟩ := bind_ok_iff.mp executed
      cases executed
      exact .inl rfl
  | queuePlan doc code =>
      obtain ⟨queued, _, executed⟩ := bind_ok_iff.mp executed
      cases queued with
      | none =>
          cases executed
          exact .inl rfl
      | some queued =>
          obtain ⟨_, _, executed⟩ := bind_ok_iff.mp executed
          cases executed
          exact .inl rfl
  | applyCanonical doc status remote event draftsHeld =>
      obtain ⟨_, _, executed⟩ := bind_ok_iff.mp executed
      obtain ⟨_, _, executed⟩ := bind_ok_iff.mp executed
      obtain ⟨_, _, executed⟩ := bind_ok_iff.mp executed
      cases executed
      exact .inl rfl
  | changePlan code changedAt =>
      obtain ⟨_, _, executed⟩ := bind_ok_iff.mp executed
      cases executed
      exact .inl rfl
  | releaseLease =>
      cases executed
      split <;> exact .inl rfl
  | _ =>
      simp only [BillingDb.execute] at executed
      repeat' split at executed
      all_goals cases executed
      all_goals exact .inl rfl

/-- Every first attempt on record lies in the past, and before every request for its row; every request for a
row passed its age check against a first attempt on record. -/
structure AttemptsOrdered (w : PaymentWorld) : Prop where
  first : ∀ db ∈ w.past, ∀ row ∈ db.usages.rows, ∀ instant, row.firstAttemptAt = some instant →
    instant ≤ w.clock ∧ ∀ entry ∈ w.sent, entry.request.key = some (.usage row.identifier) →
      instant ≤ entry.instant
  checked : ∀ entry ∈ w.sent, ∀ identifier, entry.request.key = some (.usage identifier) →
    ∃ db ∈ w.past, ∃ row ∈ db.usages.rows, row.identifier = identifier ∧
      Attempted row.firstAttemptAt entry.guardedAt

theorem AttemptsOrdered.commit {w : PaymentWorld} {db : BillingDb} (ordered : AttemptsOrdered w)
    (rows : ∀ row ∈ db.usages.rows, ∀ instant, row.firstAttemptAt = some instant →
      (∃ row' ∈ w.db.usages.rows, row'.identifier = row.identifier ∧ row'.firstAttemptAt = some instant) ∨
      (instant ≤ w.clock ∧ ∀ entry ∈ w.sent, entry.request.key ≠ some (.usage row.identifier))) :
    AttemptsOrdered (w.commit db) where
  first db' past row mem instant attempted := by
    rcases List.mem_cons.mp past with rfl | past
    · rcases rows row mem instant attempted with ⟨row', mem', same, attempted'⟩ | ⟨before, unsent⟩
      · have kept := ordered.first w.db (List.mem_cons_self ..) row' mem' instant attempted'
        rwa [same] at kept
      · exact ⟨before, fun entry sent key => absurd key (unsent entry sent)⟩
    · exact ordered.first db' past row mem instant attempted
  checked entry sent identifier key := by
    obtain ⟨db', past, found⟩ := ordered.checked entry sent identifier key
    exact ⟨db', List.mem_cons_of_mem _ past, found⟩

/-- Only a meter event is sent under the key of a row. -/
theorem meterEvent_of_key {request : Request} {identifier : UsageIdentifier}
    (key : request.key = some (.usage identifier)) :
    ∃ eventName customerId quantity timestamp,
      request = .createMeterEvent eventName identifier customerId quantity timestamp := by
  cases request with
  | createMeterEvent eventName other customerId quantity timestamp =>
      cases key
      exact ⟨eventName, customerId, quantity, timestamp, rfl⟩
  | _ => cases key

theorem attemptsOrdered_exec {choice : Choice} {act : PaymentAct} {w w' : PaymentWorld} {answer : act.Res}
    (ordered : AttemptsOrdered w) (known : act.Known config False run w)
    (permitted : FirstAttemptsFirst run choice act w)
    (executed : paymentExec config.enabled run choice act w = some (answer, w')) : AttemptsOrdered w' := by
  rcases exec_cases executed with rfl | ⟨command, result, db, rfl, rfl, done⟩ |
    ⟨guardedAt, request, stripe, rfl, rfl⟩
  · exact ⟨ordered.first, ordered.checked⟩
  · refine ordered.commit fun row mem instant attempted => ?_
    rcases usages_of_execute done with same | ⟨added, untried, inserted⟩ | ⟨identifier, delivery, rfl, updated⟩
    · exact .inl ⟨row, same ▸ mem, rfl, attempted⟩
    · rw [PaymentStep.insert_rows inserted] at mem
      rcases List.mem_cons.mp mem with rfl | mem
      · rw [untried] at attempted
        cases attempted
      · exact .inl ⟨row, mem, rfl, attempted⟩
    · rw [updated] at mem
      obtain ⟨before, there, rfl⟩ := List.mem_map.mp mem
      by_cases named : before.identifier = identifier
      · rw [if_pos named] at attempted ⊢
        cases delivery with
        | unresolved => exact .inl ⟨before, there, rfl, attempted⟩
        | submitted => exact .inl ⟨before, there, rfl, attempted⟩
        | firstAttempt now =>
            cases attempted
            refine .inr ⟨known, fun entry sent => ?_⟩
            rw [DeliveryUpdate.apply_identifier, named]
            exact permitted (identifier, _) rfl rfl entry sent
      · rw [if_neg named] at attempted ⊢
        exact .inl ⟨before, there, rfl, attempted⟩
  · constructor
    · intro db past row mem instant attempted
      obtain ⟨before, sent⟩ := ordered.first db past row mem instant attempted
      refine ⟨before, fun entry mem' key => ?_⟩
      rcases List.mem_cons.mp mem' with rfl | mem'
      · exact before
      · exact sent entry mem' key
    · intro entry mem identifier key
      rcases List.mem_cons.mp mem with rfl | mem
      · obtain ⟨_, _, _, _, rfl⟩ := meterEvent_of_key key
        obtain ⟨_, _, tried⟩ := known
        exact tried
      · exact ordered.checked entry mem identifier key

/-- No row is sent late: the age check before each request for a row passes against the time of every request
for it, the first one included. -/
def SentInTime (w : PaymentWorld) : Prop :=
  ∀ first ∈ w.sent, ∀ again ∈ w.sent, ∀ identifier,
    first.request.key = some (.usage identifier) → again.request.key = some (.usage identifier) →
      ∃ checkedAt, again.guardedAt = some checkedAt ∧ checkedAt - first.instant ≤ stripeRetryWindowMs

/-- Metered usage is never sent again late, in every run that writes a first attempt to a row only before the row was
sent. The code writes it without a filter on the state of the row, so another worker that was held up can set it
anew. -/
theorem sent_in_time {s s' : PaymentSystem} {events : List PaymentEvent}
    (interleaving : (paymentMachine config).Run (Acting FirstAttemptsFirst) s events s')
    (idle : s.runs = []) (consistent : Consistent s.world) (unsent : s.world.sent = [])
    (untried : ∀ db ∈ s.world.past, ∀ row ∈ db.usages.rows, row.firstAttemptAt = none) :
    SentInTime s'.world := by
  have ordered : AttemptsOrdered s'.world := by
    refine (invariant_from AttemptsOrdered (fun _ _ _ _ _ impossible => impossible.elim)
      (fun run choice act w answer w' _ ordered known permitted executed =>
        attemptsOrdered_exec ordered known permitted executed) ?_ interleaving
      (idle_meets consistent idle) ⟨?_, ?_⟩).2
    · intro change w w' ordered drifted
      have grows := grows_of_drift drifted
      rcases paymentDrift_db drifted with ⟨same, earlier, _, sent⟩ | ⟨employees, pendingInvitations, rfl⟩
      · have past : w'.past = w.past := by
          unfold PaymentWorld.past
          rw [same, earlier]
        constructor
        · rw [past, sent]
          intro db mem row mem' instant attempted
          obtain ⟨before, after⟩ := ordered.first db mem row mem' instant attempted
          exact ⟨Int.le_trans before grows.clock, after⟩
        · rw [past, sent]
          exact ordered.checked
      · exact ordered.commit fun row mem instant attempted => .inl ⟨row, mem, rfl, attempted⟩
    · intro db past row mem instant attempted
      rw [untried db past row mem] at attempted
      cases attempted
    · rw [unsent]
      intro entry mem
      cases mem
  intro first mem again mem' identifier key key'
  obtain ⟨db, past, row, there, rfl, instant, checkedAt, attempted, checked, young⟩ :=
    ordered.checked again mem' identifier key'
  have before := (ordered.first db past row there instant attempted).2 first mem key
  exact ⟨checkedAt, checked, by omega⟩

/-- A row whose delivery fails with an ambiguous error and is repeated within the retry window. -/
theorem sent_in_time_retry :
    ∃ s', (paymentMachine meteredConfig).playIf (Acting FirstAttemptsFirst)
        (.arrive .reconcileCompany :: stepping 0 8 confirming ++
          .step 0 { confirming with fate := .lostAfter } :: minutes 60 :: .arrive .reconcileCompany ::
          stepping 1 7 confirming) (meteredCompany 0 none) = some s' ∧
      s'.world.sent.map (·.instant) = [60 * 60 * 1000, 0] ∧ SentInTime s'.world := by
  have plays : ((paymentMachine meteredConfig).playIf (Acting FirstAttemptsFirst)
      (.arrive .reconcileCompany :: stepping 0 8 confirming ++
        .step 0 { confirming with fate := .lostAfter } :: minutes 60 :: .arrive .reconcileCompany ::
        stepping 1 7 confirming) (meteredCompany 0 none)).map (·.world.sent.map (·.instant)) =
      some [60 * 60 * 1000, 0] := by decide +kernel
  obtain ⟨s', played, sent⟩ := Option.map_eq_some_iff.mp plays
  refine ⟨s', played, sent, sent_in_time (Machine.run_of_playIf played) rfl
    (meteredCompany_consistent 0 none) rfl fun db past row mem => ?_⟩
  rw [List.mem_singleton.mp past] at mem
  rw [List.mem_singleton.mp mem]
  rfl

/-- The first handler loads the row, checks its age and stalls. Ten minutes later a second one has taken the
lease and sends the row, with an ambiguous outcome. After 22 hours the first handler goes on and writes its
own first attempt over the stored one; another 22 hours later a third handler sends the row again. -/
def overwrittenAttempt : List PaymentEvent :=
  .arrive .reconcileCompany :: stepping 0 4 confirming ++
    minutes 10 :: .arrive .reconcileCompany :: stepping 1 8 confirming ++
    .step 1 { confirming with fate := .lostAfter } :: minutes (22 * 60) :: stepping 0 2 confirming ++
    minutes (22 * 60) :: .arrive .reconcileCompany :: stepping 2 7 confirming

/-- Without the condition a row is sent 44 hours after it was first sent. -/
theorem sent_late :
    ∃ s', (paymentMachine meteredConfig).play overwrittenAttempt (meteredCompany 0 none) = some s' ∧
      ¬ SentInTime s'.world := by
  have plays : ((paymentMachine meteredConfig).play overwrittenAttempt (meteredCompany 0 none)).any fun s' =>
      s'.world.sent.any fun first => s'.world.sent.any fun again =>
        first.request.key = some (.usage ⟨1, 0, 1001⟩) && again.request.key = some (.usage ⟨1, 0, 1001⟩) &&
          first.instant = 600000 && again.guardedAt = some 159000000 := by decide +kernel
  obtain ⟨s', played, sent⟩ := (Option.any_eq_true _ _).mp plays
  refine ⟨s', played, fun inTime => ?_⟩
  simp only [List.any_eq_true, Bool.and_eq_true, decide_eq_true_eq] at sent
  obtain ⟨first, mem, again, mem', ⟨⟨key, key'⟩, earlier⟩, later⟩ := sent
  obtain ⟨checkedAt, checked, young⟩ := inTime first mem again mem' _ key key'
  cases later.symm.trans checked
  rw [earlier] at young
  exact absurd young (by decide)

end DataVault.Payments
