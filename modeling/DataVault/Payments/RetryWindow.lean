/-
Module: DataVault.Payments.RetryWindow
Layer: Proof
Purpose: The retry window of the requests that create or change something paid: the customer, the Checkout
  session, the subscription, the plan. A stored first attempt stays with the key of its requests through every
  takeover of the lease, so all checks that let a request through under one key lie within one window.
Imports: DataVault.Interleaving.Following, DataVault.Payments.IdempotencyKeys
Trusted boundary: none
Main exports: AttemptField.name, IdempotencyKey.attempt, AttemptHistory, TimedSent, awaited,
  LetThrough,  letThrough_within
-/
import DataVault.Interleaving.Following
import DataVault.Payments.IdempotencyKeys

namespace DataVault.Payments

open DataVault.Control DataVault.Interleaving DataVault.Plans DataVault.Store DataVault.Subscriptions

variable {config : PaymentConfig} {strict : Prop} {run : Nat} {w w' : PaymentWorld}

/-! ### Attempts and the keys they stand for -/

/-- What the keys of an attempt's requests are made of. -/
def AttemptField.name (field : AttemptField) (doc : Subscription) : Option Nat :=
  match field with
  | .customer => some doc.companyId
  | .checkout => doc.stripeCheckoutOperation
  | .subscription => doc.stripeCheckoutSessionId
  | .plan => doc.stripeChangeOperation

/-- The attempt that a request under a key has to pass; the other keys have none. -/
def IdempotencyKey.attempt : IdempotencyKey → Option (AttemptField × Option Nat)
  | .customer companyId => some (.customer, some companyId)
  | .checkout operation => some (.checkout, some operation)
  | .subscription session => some (.subscription, some session)
  | .plan operation | .planRelease operation | .planSchedule operation | .planPhases operation =>
      some (.plan, operation)
  | .seats .. | .invoiceSeats _ | .invoiceQuantity _ | .invoiceOverage .. | .usage _ => none

theorem AttemptField.name_of_fenced (field : AttemptField) {stored doc : Subscription}
    (same : stored.fenced = doc.fenced) : field.name stored = field.name doc :=
  Subscription.field_of_fenced field.name (fun _ => by cases field <;> rfl) same

/-! ### Steps of an attempt -/

/-- One step of the document, as far as one attempt goes: the name stays and a stored instant with it, or the
name is given up, or it is replaced by the number of the step. -/
inductive AttemptMove (steps : Nat) (field : AttemptField) (before after : Subscription) : Prop where
  | kept (name : field.name after = field.name before)
      (instant : ∀ instant, field.get before = some instant → field.get after = some instant)
  | dropped (name : field.name after = none)
  | renamed (name : field.name after = some steps) (operation : field = .checkout ∨ field = .plan)

theorem AttemptMove.of_fenced {steps : Nat} {before after : Subscription} (field : AttemptField)
    (same : after.fenced = before.fenced) : AttemptMove steps field before after := by
  refine .kept (field.name_of_fenced same) fun instant stored => ?_
  rw [field.get_of_fenced same]
  exact stored

/-- The revision that a write bumps plays no part. -/
theorem AttemptMove.bumped {steps : Nat} {field : AttemptField} {before after after' : Subscription}
    (move : AttemptMove steps field before after) (same : after'.fenced = after.fenced) :
    AttemptMove steps field before after' := by
  have named := field.name_of_fenced same
  have stored := field.get_of_fenced same
  cases move with
  | kept name instant => exact .kept (named.trans name) fun first shown => stored.trans (instant first shown)
  | dropped name => exact .dropped (named.trans name)
  | renamed name operation => exact .renamed (named.trans name) operation

/-- An update sets an attempt only where none is stored, and unsets it together with its name. -/
theorem AttemptMove.of_update {change : SubscriptionUpdate} {doc : Subscription} {field : AttemptField}
    (operation : field ≠ .subscription) (allowed : change.Allowed w doc) :
    AttemptMove w.steps field doc (change.apply doc) := by
  cases change with
  | attemptAt written instant =>
      have unset : written.get doc = none := allowed.1
      by_cases same : field = written
      · subst same
        refine .kept (by cases field <;> rfl) fun first stored => ?_
        rw [unset] at stored
        cases stored
      · refine .kept (by cases field <;> cases written <;> rfl) fun first stored => ?_
        cases field <;> cases written <;> first | exact stored | exact absurd rfl same
  | forgetSubscription =>
      cases field with
      | customer => exact .kept rfl fun _ stored => stored
      | checkout | plan => exact .dropped rfl
      | subscription => exact absurd rfl operation
  | checkoutSession id =>
      cases field with
      | customer | checkout | plan => exact .kept rfl fun _ stored => stored
      | subscription => exact absurd rfl operation
  | checkoutOperation | localPlan | queuePlan | canonical => exact allowed.elim
  | reconciliationRequired | customer | schedule | noSchedule | planConfirmed | planEmployees
  | checkoutEmployees | subscription =>
      exact .kept (by cases field <;> rfl) fun _ stored => by cases field <;> exact stored

/-- A commit of `applyCanonical` that clears the plan request clears its attempt with it. -/
theorem AttemptMove.of_canonical {steps : Nat} {doc : Subscription} {fields : CanonicalFields}
    (field : AttemptField) :
    AttemptMove steps field doc ((SubscriptionUpdate.canonical fields).apply doc) := by
  cases field with
  | customer | checkout | subscription => exact .kept rfl fun _ stored => stored
  | plan =>
      cases cleared : fields.clearPending with
      | true => exact .dropped (by simp [AttemptField.name, SubscriptionUpdate.apply, cleared])
      | false =>
          refine .kept (by simp [AttemptField.name, SubscriptionUpdate.apply, cleared]) fun instant stored => ?_
          simpa [AttemptField.get, SubscriptionUpdate.apply, cleared] using stored

/-- A step leaves the database as it is, or it adds one state to its history that moves every attempt but the
one of the subscription, whose name is a Checkout session. -/
theorem PaymentStep.attempts (step : PaymentStep config strict run w w') :
    (w'.db = w.db ∧ w'.earlier = w.earlier) ∨
      ∃ db, w' = w.commit db ∧
        ∀ field, field ≠ .subscription → AttemptMove w.steps field w.db.subscription db.subscription := by
  cases step with
  | idle | sent | opened | subscribed => exact .inl ⟨rfl, rfl⟩
  | quiet unchanged => exact .inr ⟨_, rfl, fun field _ => .of_fenced field unchanged.fenced⟩
  | stored stores => exact .inr ⟨_, rfl, fun field _ => .of_fenced field stores.fenced⟩
  | usage => exact .inr ⟨_, rfl, fun field _ => .of_fenced field rfl⟩
  | update leased allowed =>
      refine .inr ⟨_, rfl, fun field operation => ?_⟩
      exact (AttemptMove.of_update operation allowed).bumped (BillingDb.apply_fenced _ _)
  | rotate =>
      refine .inr ⟨_, rfl, fun field operation => ?_⟩
      cases field with
      | customer | plan => exact .kept rfl fun _ stored => stored
      | checkout => exact .renamed rfl (.inl rfl)
      | subscription => exact absurd rfl operation
  | localPlan =>
      refine .inr ⟨_, rfl, fun field _ => .kept ?_ fun _ stored => ?_⟩
      · cases field <;> rfl
      · cases field <;> exact stored
  | queuePlan leased subscribed same queues =>
      refine .inr ⟨_, rfl, fun field operation => ?_⟩
      cases field with
      | customer | checkout => exact .kept rfl fun _ stored => stored
      | plan => exact .renamed (congrArg some (queuePlan_fits queues).2.1) (.inr rfl)
      | subscription => exact absurd rfl operation
  | canonical =>
      refine .inr ⟨_, rfl, fun field _ => ?_⟩
      exact (AttemptMove.of_canonical field).bumped
        (SubscriptionUpdate.apply_fenced _ (BillingDb.bumpRevision_fenced w.db))
  | planChanged disabled changes =>
      obtain ⟨planChangedAt, rfl⟩ := changePlan_touches changes
      refine .inr ⟨_, rfl, fun field _ => .kept ?_ fun _ stored => ?_⟩
      · cases field <;> rfl
      · cases field <;> exact stored

/-! ### Attempts over the whole history -/

/-- Once an attempt is stored under a name, every later state with that name shows it. -/
def AttemptHistory (w : PaymentWorld) : Prop :=
  ∀ field : AttemptField, field ≠ .subscription →
    Persists (fun db : BillingDb => field.name db.subscription) (fun db => field.get db.subscription) w.past

namespace AttemptHistory

/-- An operation is named after the step that stored it, which no earlier state can have done. -/
theorem unused (documents : DocumentHistory w) {field : AttemptField}
    (operation : field = .checkout ∨ field = .plan) :
    ∀ db ∈ w.past, field.name db.subscription ≠ some w.steps := by
  rintro db past shown
  rcases operation with rfl | rfl
  · have seen : checkoutView db.subscription ∈ w.checkouts := List.mem_map_of_mem past
    exact Nat.lt_irrefl _ (documents.checkout.operation _ seen _ shown)
  · have seen : requestView db.subscription ∈ w.requests := List.mem_map_of_mem past
    exact Nat.lt_irrefl _ (documents.request.operation _ seen _ shown)

theorem commit {db : BillingDb} (history : AttemptHistory w) (documents : DocumentHistory w)
    (moves : ∀ field, field ≠ .subscription →
      AttemptMove w.steps field w.db.subscription db.subscription) : AttemptHistory (w.commit db) := by
  intro field operation
  have persists := history field operation
  cases moves field operation with
  | kept name instant => exact persists.cons_same (.inr ⟨name, instant⟩)
  | dropped name => exact persists.cons_same (.inl name)
  | renamed name operation =>
      refine persists.cons fun k shown => .inr ?_
      cases name.symm.trans shown
      exact unused documents operation

theorem step (history : AttemptHistory w) (documents : DocumentHistory w)
    (step : PaymentStep config strict run w w') : AttemptHistory w' := by
  rcases step.attempts with same | ⟨db, rfl, moves⟩
  · intro field operation
    rw [DocumentMoves.past same]
    exact history field operation
  · exact history.commit documents moves

theorem drift {change : PaymentDrift} (history : AttemptHistory w) (documents : DocumentHistory w)
    (drifted : paymentDrift change w = some w') : AttemptHistory w' := by
  rcases paymentDrift_db drifted with ⟨same, earlier, _⟩ | ⟨_, _, rfl⟩
  · intro field operation
    rw [DocumentMoves.past ⟨same, earlier⟩]
    exact history field operation
  · exact history.commit documents fun field _ => .of_fenced field rfl

/-- One name has one first attempt; the one of a subscription stays with its Checkout session. -/
theorem unique (history : AttemptHistory w) (documents : DocumentHistory w) {field : AttemptField}
    {doc doc' : Subscription} (recorded : Recorded w doc) (recorded' : Recorded w doc') {name : Nat}
    (named : field.name doc = some name) (named' : field.name doc' = some name) {instant instant' : Int}
    (stored : field.get doc = some instant) (stored' : field.get doc' = some instant') :
    instant = instant' := by
  by_cases subscription : field = .subscription
  · subst subscription
    exact documents.checkout.attemptAt.unique recorded.checkout recorded'.checkout named named' stored stored'
  · obtain ⟨db, past, same⟩ := recorded
    obtain ⟨db', past', same'⟩ := recorded'
    refine (history field subscription).unique past past' (k := name) ?_ ?_ ?_ ?_
    · exact (field.name_of_fenced same).trans named
    · exact (field.name_of_fenced same').trans named'
    · exact (field.get_of_fenced same).trans stored
    · exact (field.get_of_fenced same').trans stored'

end AttemptHistory

/-! ### Requests and their checks -/

theorem Passed.grows {field : AttemptField} {doc : Subscription} {guardedAt : Option Int}
    (passed : Passed field doc guardedAt w) (grows : Grows w w') : Passed field doc guardedAt w' :=
  ⟨passed.recorded.grows grows, passed.young⟩

/-- An attempt that was passed was passed ever after. -/
theorem Request.Timed.grows {guardedAt : Option Int} {request : Request} (timed : request.Timed guardedAt w)
    (grows : Grows w w') : request.Timed guardedAt w' := by
  cases request with
  | createCustomer =>
      obtain ⟨doc, passed⟩ := timed
      exact ⟨doc, passed.grows grows⟩
  | createCheckoutSession | createSubscription | cancelSubscription | releaseSchedule | createSchedule
  | updateSchedule | keepPlan | switchPlan =>
      obtain ⟨doc, passed, named⟩ := timed
      exact ⟨doc, passed.grows grows, named⟩
  | updateSeats | holdInvoice | snapshotSeats | correctSeats | correctOverage | finalizeInvoice
  | createMeterEvent => trivial

/-- Every request that was sent passed its attempt. -/
def TimedSent (w : PaymentWorld) : Prop :=
  ∀ entry ∈ w.sent, entry.request.Timed entry.guardedAt w

theorem TimedSent.exec {enabled : Bool} {choice : Choice} {act : PaymentAct} {answer : act.Res}
    (all : TimedSent w) (timed : act.Timed w) (grows : Grows w w')
    (executed : paymentExec enabled run choice act w = some (answer, w')) : TimedSent w' := by
  have kept : ∀ entry ∈ w.sent, entry.request.Timed entry.guardedAt w' :=
    fun entry mem => (all entry mem).grows grows
  rcases exec_cases executed with rfl | ⟨command, result, db, rfl, rfl, _⟩ | ⟨guardedAt, request, stripe, rfl, rfl⟩
  · exact kept
  · exact kept
  · intro entry mem
    rcases List.mem_cons.mp mem with rfl | mem
    · have passed : request.Timed guardedAt w := timed
      exact passed.grows grows
    · exact kept entry mem

theorem TimedSent.drift {change : PaymentDrift} (all : TimedSent w)
    (drifted : paymentDrift change w = some w') : TimedSent w' := by
  have sent : w'.sent = w.sent := by
    rcases paymentDrift_db drifted with ⟨_, _, _, same⟩ | ⟨_, _, rfl⟩
    · exact same
    · rfl
  intro entry mem
  rw [sent] at mem
  exact (all entry mem).grows (grows_of_drift drifted)

/-- The action that a run waits for. -/
def awaited (s : PaymentSystem) (run : Nat) : Option PaymentAct := s.runs[run]?.bind Process.awaited

theorem waiting_of_awaited {s : PaymentSystem} {act : PaymentAct} (awaits : awaited s run = some act) :
    ∃ resume, s.runs[run]? = some (.await act resume) := by
  obtain ⟨process, present, waits⟩ := Option.bind_eq_some_iff.mp awaits
  obtain ⟨resume, rfl⟩ := Process.awaited_eq_some.mp waits
  exact ⟨resume, present⟩

/-- `attempt` let a request through under the check at `guardedAt`: the request was sent, or a run is about to
send it. -/
def LetThrough (s : PaymentSystem) (guardedAt : Option Int) (request : Request) : Prop :=
  (∃ entry ∈ s.world.sent, entry.guardedAt = guardedAt ∧ entry.request = request) ∨
    ∃ run, awaited s run = some (.send guardedAt request)

/-- A request under a key with an attempt passed it in a document that shows the name in the key. -/
theorem passed_of_timed (documents : DocumentHistory w) {guardedAt : Option Int} {request : Request}
    (known : request.Known config guardedAt w) (timed : request.Timed guardedAt w) {key : IdempotencyKey}
    (keyed : request.key = some key) {field : AttemptField} {name : Option Nat}
    (attempt : key.attempt = some (field, name)) :
    ∃ doc id, Passed field doc guardedAt w ∧ name = some id ∧ field.name doc = some id := by
  cases request with
  | createCustomer email companyId =>
      cases keyed
      cases attempt
      obtain ⟨doc, passed⟩ := timed
      obtain ⟨_, doc', recorded, rfl⟩ := known
      refine ⟨doc, doc'.companyId, passed, rfl, congrArg some ?_⟩
      exact (passed.recorded.company documents.company).1.trans (recorded.company documents.company).1.symm
  | createCheckoutSession | createSubscription =>
      cases keyed
      cases attempt
      obtain ⟨doc, passed, named⟩ := timed
      exact ⟨doc, _, passed, rfl, named⟩
  | cancelSubscription | releaseSchedule | createSchedule | updateSchedule | keepPlan | switchPlan =>
      cases keyed
      cases attempt
      obtain ⟨doc, passed, rfl, pending⟩ := timed
      obtain ⟨id, named⟩ := Option.isSome_iff_exists.mp
        (documents.request.requested _ passed.recorded.request pending)
      exact ⟨doc, id, passed, named, named⟩
  | updateSeats | snapshotSeats | correctSeats | correctOverage | createMeterEvent =>
      cases keyed
      cases attempt
  | holdInvoice | finalizeInvoice => cases keyed

/-- Two checks that let requests through under one key lie within one retry window. -/
theorem within_of_timed (documents : DocumentHistory w) (history : AttemptHistory w)
    {guardedAt guardedAt' : Option Int} {request request' : Request}
    (known : request.Known config guardedAt w) (known' : request'.Known config guardedAt' w)
    (timed : request.Timed guardedAt w) (timed' : request'.Timed guardedAt' w) {key : IdempotencyKey}
    (keyed : request.key = some key) (keyed' : request'.key = some key) (guarded : key.attempt.isSome) :
    ∃ checkedAt checkedAt', guardedAt = some checkedAt ∧ guardedAt' = some checkedAt' ∧
      checkedAt' - checkedAt ≤ stripeRetryWindowMs := by
  obtain ⟨⟨field, name⟩, attempt⟩ := Option.isSome_iff_exists.mp guarded
  obtain ⟨doc, id, passed, rfl, named⟩ := passed_of_timed documents known timed keyed attempt
  obtain ⟨doc', _, passed', same, named'⟩ := passed_of_timed documents known' timed' keyed' attempt
  cases same
  obtain ⟨first, checkedAt, stored, checked, after, _⟩ := passed.young
  obtain ⟨first', checkedAt', stored', checked', _, young'⟩ := passed'.young
  obtain rfl := history.unique documents passed.recorded passed'.recorded named named' stored stored'
  refine ⟨checkedAt, checkedAt', checked, checked', ?_⟩
  omega

/-- In every state of every run, all checks that let a request through under one key of the customer, Checkout,
subscription and plan operations lie within one retry window. -/
theorem letThrough_within {companyId : Nat} {activatedAt clock : Int} {ownerEmail : Option String}
    {ok : PaymentSystem → PaymentEvent → Prop} {s' : PaymentSystem} {events : List PaymentEvent}
    (interleaving : (paymentMachine config).Run ok (freshCompany companyId activatedAt clock ownerEmail) events s')
    {guardedAt guardedAt' : Option Int} {request request' : Request} (through : LetThrough s' guardedAt request)
    (through' : LetThrough s' guardedAt' request') {key : IdempotencyKey} (keyed : request.key = some key)
    (keyed' : request'.key = some key) (guarded : key.attempt.isSome) :
    ∃ checkedAt checkedAt', guardedAt = some checkedAt ∧ guardedAt' = some checkedAt' ∧
      checkedAt' - checkedAt ≤ stripeRetryWindowMs := by
  have holds : Contract.AllMeet (paymentContract config False True) s' ∧ DocumentHistory s'.world ∧
      AttemptHistory s'.world ∧ KnownSent config s'.world ∧ TimedSent s'.world := by
    refine invariant_of_attempts
      (fun w => DocumentHistory w ∧ AttemptHistory w ∧ KnownSent config w ∧ TimedSent w) ?_ ?_ interleaving rfl
      (Consistent.of_empty rfl rfl) ?_ ⟨.fresh .., ?_, ?_, ?_⟩
    · rintro run choice act w answer w' consistent ⟨documents, history, known, timed⟩ knows passes executed
      have step : PaymentStep config False run w w' :=
        step_of_exec knows (fun impossible => impossible.elim) executed
      exact ⟨documents.step step consistent, history.step documents step, known.step step consistent,
        timed.exec passes (step.grows consistent) executed⟩
    · rintro change w w' ⟨documents, history, known, timed⟩ drifted
      exact ⟨documents.drift drifted, history.drift documents drifted, known.drift drifted, timed.drift drifted⟩
    · intro db past field instant stored
      obtain rfl := List.mem_singleton.mp past
      cases field <;> cases stored
    · exact fun _ _ => Persists.singleton _
    · exact fun _ sent => absurd sent List.not_mem_nil
    · exact fun _ sent => absurd sent List.not_mem_nil
  obtain ⟨all, documents, history, known, timed⟩ := holds
  have explained : ∀ {guardedAt : Option Int} {request : Request}, LetThrough s' guardedAt request →
      request.Known config guardedAt s'.world ∧ request.Timed guardedAt s'.world := by
    rintro guardedAt request (⟨entry, mem, rfl, rfl⟩ | ⟨run, awaits⟩)
    · exact ⟨known entry mem, timed entry mem⟩
    · obtain ⟨resume, waiting⟩ := waiting_of_awaited awaits
      have needs := (all.meets run _ waiting s'.world (Rely.refl config False run s'.world) all.inv).1
      exact ⟨needs.1, needs.2 trivial⟩
  exact within_of_timed documents history (explained through).1 (explained through').1 (explained through).2
    (explained through').2 keyed keyed' guarded

end DataVault.Payments
