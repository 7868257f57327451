/-
Module: DataVault.Payments.IdempotencyKeys
Layer: Proof
Purpose: Two Stripe requests under one idempotency key. Everything in a request but what its run has just read
  at Stripe or counted comes from stored fields that stay with the key, so two such requests are the same
  exactly when what was read is the same.
Imports: DataVault.Payments.DocumentHistory
Trusted boundary: none
Main exports: Reading, Request.reading, KnownSent, UsageHistory, same_request_iff
-/
import DataVault.Payments.DocumentHistory

namespace DataVault.Payments

open DataVault.Control DataVault.Interleaving DataVault.Plans DataVault.Store DataVault.Subscriptions

variable {config : PaymentConfig} {strict : Prop} {run : Nat} {w w' : PaymentWorld}

/-! ### What a request takes from the latest reads -/

/-- The parameters of a request that its run has read anew: the item to switch (`none` where the subscription
already has the target plan), the attached schedule with its current phase, the item whose quantity changes and
whether a schedule is attached, the employees counted, the invoice line. -/
inductive Reading where
  | nothing
  | item (id : Option Nat)
  | schedule (id : Nat)
  | phase (schedule : Nat) (startDate endDate : Int)
  | seats (item : Nat) (anchorUnchanged : Bool)
  | employees (count : Nat)
  | line (id count : Nat)
deriving DecidableEq, Repr

def Request.reading : Request → Reading
  | .keepPlan .. => .item none
  | .switchPlan _ _ item .. => .item (some item)
  | .releaseSchedule _ schedule => .schedule schedule
  | .updateSchedule _ schedule current _ => .phase schedule current.startDate current.endDate
  | .updateSeats _ _ item _ anchorUnchanged => .seats item anchorUnchanged
  | .snapshotSeats _ employees => .employees employees
  | .correctSeats _ line employees => .line line employees
  | .correctOverage _ line _ => .line line 0
  | .createCustomer .. | .createCheckoutSession .. | .createSubscription .. | .cancelSubscription ..
  | .createSchedule .. | .holdInvoice _ | .finalizeInvoice _ | .createMeterEvent .. => .nothing

/-! ### Requests stay explained

`Request.Known` names where each parameter of a request comes from. Every transition only adds to what it refers to,
so a request that was explained when it was sent is explained in every later state. -/

theorem PaidSetup.grows {session : Nat} {customer paymentMethod : Option Nat}
    (paid : PaidSetup w session customer paymentMethod) (grows : Grows w w') :
    PaidSetup w' session customer paymentMethod := by
  obtain ⟨checkout, setupId, setup, there, complete, setUp, found, succeeded, theirs, method⟩ := paid
  obtain ⟨status, there', kept⟩ := grows.session session checkout there
  have closed : checkout.status ≠ .opened := by
    rw [complete]
    decide
  exact ⟨_, setupId, setup, there', (kept closed).trans complete, setUp,
    grows.setupIntent setupId setup found succeeded, succeeded, theirs, method⟩

theorem PlanRequested.grows {doc : Subscription} {target : PlanCode} {operation : Option Nat}
    {subscription : Nat} (requested : PlanRequested w doc target operation subscription)
    (grows : Grows w w') : PlanRequested w' doc target operation subscription :=
  { requested with recorded := requested.recorded.grows grows }

/-- What explained the parameters of a request explains them ever after. -/
theorem Request.Known.grows {guardedAt : Option Int} {request : Request}
    (known : request.Known config guardedAt w) (grows : Grows w w') : request.Known config guardedAt w' := by
  cases request with
  | createCustomer email companyId =>
      obtain ⟨⟨db, past, named⟩, doc, recorded, mine⟩ := known
      exact ⟨⟨db, grows.past db past, named⟩, doc, recorded.grows grows, mine⟩
  | createCheckoutSession operation customer companyId planCode successUrl cancelUrl =>
      obtain ⟨success, cancel, doc, recorded, rest⟩ := known
      exact ⟨success, cancel, doc, recorded.grows grows, rest⟩
  | createSubscription session customer paymentMethod items anchor companyId =>
      obtain ⟨paid, doc, planCode, employees, recorded, rest⟩ := known
      exact ⟨paid.grows grows, doc, planCode, employees, recorded.grows grows, rest⟩
  | cancelSubscription operation subscription =>
      obtain ⟨doc, requested⟩ := known
      exact ⟨doc, requested.grows grows⟩
  | createSchedule operation subscription =>
      obtain ⟨doc, requested⟩ := known
      exact ⟨doc, requested.grows grows⟩
  | updateSchedule operation schedule current next =>
      obtain ⟨doc, subscription, employees, requested, rest⟩ := known
      exact ⟨doc, subscription, employees, requested.grows grows, rest⟩
  | keepPlan operation subscription =>
      obtain ⟨doc, target, requested, paidPlan⟩ := known
      exact ⟨doc, target, requested.grows grows, paidPlan⟩
  | switchPlan operation subscription item price quantity addOverage =>
      obtain ⟨doc, target, employees, requested, rest⟩ := known
      exact ⟨doc, target, employees, requested.grows grows, rest⟩
  | createMeterEvent eventName identifier customerId quantity timestamp =>
      obtain ⟨named, ⟨db, past, row⟩, db', past', tried⟩ := known
      exact ⟨named, ⟨db, grows.past db past, row⟩, db', grows.past db' past', tried⟩
  | releaseSchedule | updateSeats | holdInvoice | snapshotSeats | correctSeats | correctOverage
  | finalizeInvoice => trivial

/-- Every request that was sent is explained by what was stored by now. -/
def KnownSent (config : PaymentConfig) (w : PaymentWorld) : Prop :=
  ∀ entry ∈ w.sent, entry.request.Known config entry.guardedAt w

theorem KnownSent.step (known : KnownSent config w) (step : PaymentStep config strict run w w')
    (consistent : Consistent w) : KnownSent config w' := by
  have grows := step.grows consistent
  have kept : ∀ entry ∈ w.sent, entry.request.Known config entry.guardedAt w' :=
    fun entry mem => (known entry mem).grows grows
  cases step with
  | idle | quiet | update | rotate | localPlan | queuePlan | canonical | usage | stored | planChanged =>
      exact kept
  | sent new | opened new | subscribed new =>
      intro entry mem
      rcases List.mem_cons.mp mem with rfl | mem
      · exact new.grows grows
      · exact kept entry mem

theorem KnownSent.drift {change : PaymentDrift} (known : KnownSent config w)
    (drifted : paymentDrift change w = some w') : KnownSent config w' := by
  have sent : w'.sent = w.sent := by
    rcases paymentDrift_db drifted with ⟨_, _, _, same⟩ | ⟨employees, pendingInvitations, rfl⟩
    · exact same
    · rfl
  intro entry mem
  rw [sent] at mem
  exact (known entry mem).grows (grows_of_drift drifted)

/-! ### Usage rows -/

/-- What a row is delivered with. -/
def charge (row : StripeUsage) : UsageIdentifier × Nat × Int × Int :=
  (row.identifier, row.customerId, row.quantity, row.timestamp)

/-- Every row there ever was is still there, with what it is delivered with. -/
def UsageHistory (w : PaymentWorld) : Prop :=
  ∀ db ∈ w.past, ∀ row ∈ db.usages.rows, ∃ row' ∈ w.db.usages.rows, charge row' = charge row

/-- An identifier names one charge. -/
theorem UsageHistory.unique (history : UsageHistory w) {first second : BillingDb} (past : first ∈ w.past)
    (past' : second ∈ w.past) {row row' : StripeUsage} (mem : row ∈ first.usages.rows)
    (mem' : row' ∈ second.usages.rows) (same : row.identifier = row'.identifier) : charge row = charge row' := by
  obtain ⟨current, there, charged⟩ := history first past row mem
  obtain ⟨current', there', charged'⟩ := history second past' row' mem'
  have named : current.identifier = current'.identifier := by
    have first_name : current.identifier = row.identifier := congrArg Prod.fst charged
    have second_name : current'.identifier = row'.identifier := congrArg Prod.fst charged'
    rw [first_name, second_name, same]
  obtain rfl : current = current' :=
    List.inj_on_of_nodup_map w.db.usages.unique there there' named
  exact charged.symm.trans charged'

theorem charge_apply (delivery : DeliveryUpdate) (row : StripeUsage) : charge (delivery.apply row) = charge row := by
  cases delivery <;> rfl

theorem UsageHistory.commit {db : BillingDb} (history : UsageHistory w)
    (kept : ∀ row ∈ w.db.usages.rows, ∃ row' ∈ db.usages.rows, charge row' = charge row) :
    UsageHistory (w.commit db) := by
  intro other past row mem
  rcases List.mem_cons.mp past with rfl | past
  · exact ⟨row, mem, rfl⟩
  · obtain ⟨row', mem', charged⟩ := history other past row mem
    obtain ⟨row'', mem'', charged'⟩ := kept row' mem'
    exact ⟨row'', mem'', charged'.trans charged⟩

theorem UsageHistory.step (history : UsageHistory w) (step : PaymentStep config strict run w w') :
    UsageHistory w' := by
  cases step with
  | idle | sent | opened | subscribed => exact history
  | update | rotate | localPlan | queuePlan | canonical | planChanged =>
      exact history.commit fun row mem => ⟨row, mem, rfl⟩
  | quiet unchanged => exact history.commit fun row mem => ⟨row, by rwa [unchanged.usages], rfl⟩
  | usage =>
      refine history.commit fun row mem => ⟨_, List.mem_map_of_mem mem, ?_⟩
      split
      · exact charge_apply _ row
      · rfl
  | stored stores =>
      refine history.commit fun row mem => ⟨row, ?_, rfl⟩
      rcases stores.usages with same | ⟨_, _, _, inserted⟩
      · rwa [same]
      · rw [PaymentStep.insert_rows inserted]
        exact List.mem_cons_of_mem _ mem

theorem UsageHistory.drift {change : PaymentDrift} (history : UsageHistory w)
    (drifted : paymentDrift change w = some w') : UsageHistory w' := by
  rcases paymentDrift_db drifted with ⟨same, earlier, _⟩ | ⟨employees, pendingInvitations, rfl⟩
  · unfold UsageHistory
    rw [DocumentMoves.past ⟨same, earlier⟩, same]
    exact history
  · exact history.commit fun row mem => ⟨row, mem, rfl⟩

/-! ### One key, one request

Two requests under one key are both explained. Going through the kinds of requests, each stored parameter is shown
to stay with the key, by the histories of the document; what remains are the readings, and they decide. -/

/-- What stays with the operation of a plan request. -/
theorem PlanRequested.unique (history : RequestHistory w) {doc doc' : Subscription} {target target' : PlanCode}
    {operation : Option Nat} {subscription subscription' : Nat}
    (one : PlanRequested w doc target operation subscription)
    (two : PlanRequested w doc' target' operation subscription') :
    target = target' ∧ subscription = subscription' ∧
      ∀ employees employees', doc.stripePlanEmployees = some employees →
        doc'.stripePlanEmployees = some employees' → employees = employees' := by
  have mem := one.recorded.request
  have mem' := two.recorded.request
  have asked : (requestView doc).target.isSome := by
    rw [show (requestView doc).target = some target from one.target]
    rfl
  obtain ⟨o, named⟩ := Option.isSome_iff_exists.mp (history.requested _ mem asked)
  have named' : (requestView doc').operation = some o := by
    rw [← named]
    exact two.operation.trans one.operation.symm
  exact ⟨history.target.unique mem mem' named named' one.target two.target,
    history.subscription.unique mem mem' named named' one.subscription two.subscription,
    fun _ _ counted counted' => history.employees.unique mem mem' named named' counted counted'⟩

/-- Documents of one company agree on what never changes. -/
theorem Recorded.company (history : CompanyHistory w) {doc : Subscription} (recorded : Recorded w doc) :
    doc.companyId = w.db.subscription.companyId ∧ doc.activatedAt = w.db.subscription.activatedAt ∧
      ∀ id, doc.stripeCustomerId = some id → w.db.subscription.stripeCustomerId = some id := by
  obtain ⟨db, past, same⟩ := recorded
  obtain ⟨companyId, activatedAt, _⟩ := history.company db past
  rw [← Subscription.field_of_fenced Subscription.companyId (fun _ => rfl) same,
    ← Subscription.field_of_fenced Subscription.activatedAt (fun _ => rfl) same,
    ← Subscription.field_of_fenced Subscription.stripeCustomerId (fun _ => rfl) same]
  exact ⟨companyId, activatedAt, history.customer db past⟩

/-- The setup of a session is that of one customer, with one payment method. -/
theorem PaidSetup.unique {session : Nat} {customer customer' paymentMethod paymentMethod' : Option Nat}
    (one : PaidSetup w session customer paymentMethod) (two : PaidSetup w session customer' paymentMethod') :
    customer = customer' ∧ paymentMethod = paymentMethod' := by
  obtain ⟨checkout, setupId, setup, there, _, setUp, found, _, theirs, method⟩ := one
  obtain ⟨checkout', setupId', setup', there', _, setUp', found', _, theirs', method'⟩ := two
  cases there.symm.trans there'
  cases setUp.symm.trans setUp'
  cases found.symm.trans found'
  exact ⟨theirs.symm.trans theirs', method.symm.trans method'⟩

/-- What stays with a stored Checkout session. -/
theorem CheckoutHistory.session_unique (history : CheckoutHistory w) {doc doc' : Subscription} {id : Nat}
    (recorded : Recorded w doc) (recorded' : Recorded w doc') (shown : doc.stripeCheckoutSessionId = some id)
    (shown' : doc'.stripeCheckoutSessionId = some id) {planCode planCode' : PlanCode}
    (planned : doc.stripeCheckoutPlan = some planCode) (planned' : doc'.stripeCheckoutPlan = some planCode')
    {employees employees' : Nat} (counted : doc.stripeCheckoutEmployees = some employees)
    (counted' : doc'.stripeCheckoutEmployees = some employees') :
    planCode = planCode' ∧ employees = employees' := by
  obtain ⟨session, o, found, named, current⟩ := history.named _ recorded.checkout id shown
  obtain ⟨session', o', found', named', current'⟩ := history.named _ recorded'.checkout id shown'
  cases found.symm.trans found'
  cases named.symm.trans named'
  exact ⟨history.planCode.unique recorded.checkout recorded'.checkout current current' planned planned',
    history.employees.unique recorded.checkout recorded'.checkout shown shown' counted counted'⟩

/-- A downgrade is determined by its employee count, the activation and the current phase. -/
theorem DowngradePhases.unique {doc doc' : Subscription} {employees : Nat}
    {current current' next next' : RequestPhase} (one : DowngradePhases doc employees current next)
    (two : DowngradePhases doc' employees current' next') (activated : doc.activatedAt = doc'.activatedAt)
    (starts : current.startDate = current'.startDate) (ends : current.endDate = current'.endDate) :
    current = current' ∧ next = next' := by
  obtain ⟨period, located, items, anchored, rfl⟩ := one
  obtain ⟨period', located', items', anchored', rfl⟩ := two
  rw [activated, ends] at located
  cases located.symm.trans located'
  obtain ⟨startDate, endDate, phaseItems, anchor⟩ := current
  obtain ⟨startDate', endDate', phaseItems', anchor'⟩ := current'
  dsimp only at starts ends items items' anchored anchored'
  subst starts ends items items' anchored anchored'
  exact ⟨rfl, rfl⟩

/-- Two explained requests with one key and the same reading are the same request. -/
theorem same_of_reading (history : DocumentHistory w) (usage : UsageHistory w) {first second : Request}
    {guardedAt guardedAt' : Option Int} (known : first.Known config guardedAt w)
    (known' : second.Known config guardedAt' w) {key : IdempotencyKey} (firstKey : first.key = some key)
    (secondKey : second.key = some key) (same : first.reading = second.reading) : first = second := by
  have keys := firstKey.trans secondKey.symm
  cases first with
  | createCustomer email companyId =>
      cases second with
      | createCustomer email' companyId' =>
          cases keys
          obtain ⟨⟨db, past, named⟩, _⟩ := known
          obtain ⟨⟨db', past', named'⟩, _⟩ := known'
          have emails := (history.company.company db past).2.2.trans
            (history.company.company db' past').2.2.symm
          rw [named, named'] at emails
          cases emails
          rfl
      | _ => cases keys
  | createCheckoutSession operation customer companyId planCode successUrl cancelUrl =>
      cases second with
      | createCheckoutSession operation' customer' companyId' planCode' successUrl' cancelUrl' =>
          cases keys
          obtain ⟨rfl, rfl, doc, recorded, named, paying, mine, planned⟩ := known
          obtain ⟨rfl, rfl, doc', recorded', named', paying', mine', planned'⟩ := known'
          obtain ⟨company, _, customers⟩ := recorded.company history.company
          obtain ⟨company', _, customers'⟩ := recorded'.company history.company
          cases (customers _ paying).symm.trans (customers' _ paying')
          cases history.checkout.planCode.unique recorded.checkout recorded'.checkout named named' planned planned'
          rw [← mine, ← mine', company, company']
      | _ => cases keys
  | createSubscription session customer paymentMethod items anchor companyId =>
      cases second with
      | createSubscription session' customer' paymentMethod' items' anchor' companyId' =>
          cases keys
          obtain ⟨paid, doc, planCode, employees, recorded, _, shown, _, planned, counted, _, rfl, rfl, rfl⟩ :=
            known
          obtain ⟨paid', doc', planCode', employees', recorded', _, shown', _, planned', counted', _, rfl, rfl,
            rfl⟩ := known'
          obtain ⟨rfl, rfl⟩ := paid.unique paid'
          obtain ⟨rfl, rfl⟩ := history.checkout.session_unique recorded recorded' shown shown' planned planned'
            counted counted'
          obtain ⟨company, activated, _⟩ := recorded.company history.company
          obtain ⟨company', activated', _⟩ := recorded'.company history.company
          rw [company, company', activated, activated']
      | _ => cases keys
  | cancelSubscription operation subscription =>
      obtain ⟨doc, requested⟩ := known
      cases second with
      | cancelSubscription operation' subscription' =>
          cases keys
          obtain ⟨doc', requested'⟩ := known'
          obtain ⟨_, rfl, _⟩ := requested.unique history.request requested'
          rfl
      | keepPlan operation' subscription' =>
          cases keys
          obtain ⟨doc', target, requested', paidPlan⟩ := known'
          exact absurd (requested.unique history.request requested').1.symm paidPlan
      | switchPlan operation' subscription' item price quantity addOverage =>
          cases keys
          obtain ⟨doc', target, employees, requested', paidPlan, _⟩ := known'
          exact absurd (requested.unique history.request requested').1.symm paidPlan
      | _ => cases keys
  | keepPlan operation subscription =>
      obtain ⟨doc, target, requested, paidPlan⟩ := known
      cases second with
      | cancelSubscription operation' subscription' =>
          cases keys
          obtain ⟨doc', requested'⟩ := known'
          exact absurd (requested.unique history.request requested').1 paidPlan
      | keepPlan operation' subscription' =>
          cases keys
          obtain ⟨doc', target', requested', _⟩ := known'
          obtain ⟨_, rfl, _⟩ := requested.unique history.request requested'
          rfl
      | switchPlan operation' subscription' item price quantity addOverage => cases same
      | _ => cases keys
  | switchPlan operation subscription item price quantity addOverage =>
      obtain ⟨doc, target, employees, requested, paidPlan, counted, rfl, rfl, rfl⟩ := known
      cases second with
      | cancelSubscription operation' subscription' =>
          cases keys
          obtain ⟨doc', requested'⟩ := known'
          exact absurd (requested.unique history.request requested').1 paidPlan
      | keepPlan operation' subscription' => cases same
      | switchPlan operation' subscription' item' price' quantity' addOverage' =>
          cases keys
          cases same
          obtain ⟨doc', target', employees', requested', _, counted', rfl, rfl, rfl⟩ := known'
          obtain ⟨rfl, rfl, seats⟩ := requested.unique history.request requested'
          rw [seats employees employees' counted counted']
      | _ => cases keys
  | releaseSchedule operation schedule =>
      cases second with
      | releaseSchedule operation' schedule' =>
          cases keys
          cases same
          rfl
      | _ => cases keys
  | createSchedule operation subscription =>
      obtain ⟨doc, requested⟩ := known
      cases second with
      | createSchedule operation' subscription' =>
          cases keys
          obtain ⟨doc', requested'⟩ := known'
          obtain ⟨_, rfl, _⟩ := requested.unique history.request requested'
          rfl
      | _ => cases keys
  | updateSchedule operation schedule current next =>
      obtain ⟨doc, subscription, employees, requested, counted, phases⟩ := known
      cases second with
      | updateSchedule operation' schedule' current' next' =>
          cases keys
          obtain ⟨rfl, starts, ends⟩ := Reading.phase.inj same
          obtain ⟨doc', subscription', employees', requested', counted', phases'⟩ := known'
          obtain ⟨_, _, seats⟩ := requested.unique history.request requested'
          cases seats employees employees' counted counted'
          obtain ⟨_, activated, _⟩ := requested.recorded.company history.company
          obtain ⟨_, activated', _⟩ := requested'.recorded.company history.company
          obtain ⟨rfl, rfl⟩ := phases.unique phases' (activated.trans activated'.symm) starts ends
          rfl
      | _ => cases keys
  | updateSeats revision subscription item quantity anchorUnchanged =>
      cases second with
      | updateSeats revision' subscription' item' quantity' anchorUnchanged' =>
          cases keys
          cases same
          rfl
      | _ => cases keys
  | snapshotSeats invoice employees =>
      cases second with
      | snapshotSeats invoice' employees' =>
          cases keys
          cases same
          rfl
      | _ => cases keys
  | correctSeats invoice line employees =>
      cases second with
      | correctSeats invoice' line' employees' =>
          cases keys
          cases same
          rfl
      | _ => cases keys
  | correctOverage invoice line expected =>
      cases second with
      | correctOverage invoice' line' expected' =>
          cases keys
          cases same
          rfl
      | _ => cases keys
  | createMeterEvent eventName identifier customerId quantity timestamp =>
      cases second with
      | createMeterEvent eventName' identifier' customerId' quantity' timestamp' =>
          cases keys
          obtain ⟨rfl, ⟨db, past, row, mem, named, rfl, rfl, rfl⟩, _⟩ := known
          obtain ⟨rfl, ⟨db', past', row', mem', named', rfl, rfl, rfl⟩, _⟩ := known'
          have charged := usage.unique past past' mem mem' (named.trans named'.symm)
          simp only [charge, Prod.mk.injEq] at charged
          obtain ⟨_, customers, quantities, timestamps⟩ := charged
          rw [customers, quantities, timestamps]
      | _ => cases keys
  | holdInvoice | finalizeInvoice => cases firstKey

/-- In every state of every run, two requests under one key are the same request if and only if what they took
from the latest reads is the same. -/
theorem same_request_iff {companyId : Nat} {activatedAt clock : Int} {ownerEmail : Option String}
    {s' : PaymentSystem} {events : List PaymentEvent}
    (interleaving : (paymentMachine config).Run (fun _ _ => True)
      (freshCompany companyId activatedAt clock ownerEmail) events s')
    {first second : Sent} (mem : first ∈ s'.world.sent) (mem' : second ∈ s'.world.sent)
    {key : IdempotencyKey} (firstKey : first.request.key = some key) (secondKey : second.request.key = some key) :
    first.request = second.request ↔ first.request.reading = second.request.reading := by
  have holds : DocumentHistory s'.world ∧ UsageHistory s'.world ∧ KnownSent config s'.world := by
    refine (invariant_of_transitions (fun w => DocumentHistory w ∧ UsageHistory w ∧ KnownSent config w) ?_ ?_
      interleaving rfl (Consistent.of_empty rfl rfl) ⟨.fresh .., ?_, ?_⟩).2
    · rintro run w w' consistent ⟨history, usage, known⟩ step
      exact ⟨history.step step consistent, usage.step step, known.step step consistent⟩
    · rintro change w w' ⟨history, usage, known⟩ drifted
      exact ⟨history.drift drifted, usage.drift drifted, known.drift drifted⟩
    · intro db past row mem
      obtain rfl := List.mem_singleton.mp past
      cases mem
    · intro entry mem
      cases mem
  obtain ⟨history, usage, known⟩ := holds
  constructor
  · intro same
    rw [same]
  · exact same_of_reading history usage (known first mem) (known second mem') firstKey secondKey

/-- A Basic subscription whose owner asks for Premium; the answer to the switch is lost. -/
def lostSwitch : List PaymentEvent :=
  purchase .basic ++ subscribe 1 .basic ++ .arrive (.changePlan companyOwner .premium) ::
    stepping 2 10 (granting .premium) ++
    [.step 2 { granting .premium with fate := .lostAfter }, .step 2 (granting .premium)]

/-- The latest two requests of a world. -/
def latestTwo (w : PaymentWorld) : List Request := (w.sent.map (·.request)).take 2

theorem sent_of_latestTwo {earlier later : Request} (latest : latestTwo w = [later, earlier]) :
    ∃ first second rest, w.sent = second :: first :: rest ∧ first.request = earlier ∧
      second.request = later := by
  unfold latestTwo at latest
  cases sent : w.sent with
  | nil => simp [sent] at latest
  | cons second rest =>
      cases rest with
      | nil => simp [sent] at latest
      | cons first rest =>
          rw [sent] at latest
          obtain ⟨same, same'⟩ : second.request = later ∧ first.request = earlier := by simpa using latest
          exact ⟨first, second, rest, rfl, same', same⟩

def switchToPremium : Request := .switchPlan (some 43) 30 1 .premium 1 true

/-- A retry that still finds the Basic subscription repeats the request. -/
theorem same_request_retry :
    ∃ s', (paymentMachine testMode).play
        (lostSwitch ++ .arrive .reconcileCompany :: stepping 3 7 (granting .premium))
        (freshCompany 1 0 0 (some "owner")) = some s' ∧
      ∃ first second rest, s'.world.sent = second :: first :: rest ∧ first.request = second.request := by
  have plays : ((paymentMachine testMode).play
      (lostSwitch ++ .arrive .reconcileCompany :: stepping 3 7 (granting .premium))
      (freshCompany 1 0 0 (some "owner"))).map (fun s' => latestTwo s'.world) =
        some [switchToPremium, switchToPremium] := by decide +kernel
  obtain ⟨s', played, latest⟩ := Option.map_eq_some_iff.mp plays
  obtain ⟨first, second, rest, sent, earlier, later⟩ := sent_of_latestTwo latest
  refine ⟨s', played, first, second, rest, sent, ?_⟩
  have key : first.request.key = some (.plan (some 43)) := by rw [earlier]; rfl
  have key' : second.request.key = some (.plan (some 43)) := by rw [later]; rfl
  refine (same_request_iff (Machine.run_of_play played) ?_ ?_ key key').mpr (by rw [earlier, later])
  · rw [sent]
    exact List.mem_cons_of_mem _ (List.mem_cons_self ..)
  · rw [sent]
    exact List.mem_cons_self ..

/-- A retry that finds the Premium subscription sends another request under the same key. -/
theorem same_key_other_request :
    ∃ s', (paymentMachine testMode).play
        (lostSwitch ++ .drift (.subscription { activeRemote .premium with id := 30, session := 15 }) ::
          .arrive .reconcileCompany :: stepping 3 7 (granting .premium))
        (freshCompany 1 0 0 (some "owner")) = some s' ∧
      ∃ first second rest, s'.world.sent = second :: first :: rest ∧
        first.request.key = some (.plan (some 43)) ∧ second.request.key = some (.plan (some 43)) ∧
        first.request = switchToPremium ∧ second.request = .keepPlan (some 43) 30 := by
  have plays : ((paymentMachine testMode).play
      (lostSwitch ++ .drift (.subscription { activeRemote .premium with id := 30, session := 15 }) ::
        .arrive .reconcileCompany :: stepping 3 7 (granting .premium))
      (freshCompany 1 0 0 (some "owner"))).map (fun s' => latestTwo s'.world) =
        some [.keepPlan (some 43) 30, switchToPremium] := by decide +kernel
  obtain ⟨s', played, latest⟩ := Option.map_eq_some_iff.mp plays
  obtain ⟨first, second, rest, sent, earlier, later⟩ := sent_of_latestTwo latest
  refine ⟨s', played, first, second, rest, sent, ?_, ?_, earlier, later⟩
  · rw [earlier]
    rfl
  · rw [later]
    rfl

end DataVault.Payments
