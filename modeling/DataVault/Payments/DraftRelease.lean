/-
Module: DataVault.Payments.DraftRelease
Layer: Proof
Purpose: When `reconcileDraft` releases a draft invoice. Stripe's record of the draft is followed through every course
  of the method: a request that fails may have taken effect or not, and the database and the meter change between two
  reads as they like. The draft is held first, stays held in every other outcome, and is released only when each of its
  lines agrees with what it is charged for.
Imports: DataVault.Interleaving.Course, DataVault.Payments.Machine
Trusted boundary: none
Main exports: DraftInvoice, Surroundings, draftEnv, OwnDraft, Reconciled, Due, draft_release
-/
import DataVault.Interleaving.Course
import DataVault.Payments.Machine

namespace DataVault.Payments

open DataVault.Control DataVault.Interleaving DataVault.Plans DataVault.Subscriptions

/-! ### The draft at Stripe -/

/-- The record Stripe has of a draft. Ids tell its lines apart. -/
structure DraftInvoice extends Invoice where
  lines : List InvoiceLine
  distinct : (lines.map (·.id)).Nodup

/-- The invoice that a request changes. -/
def Request.invoice : Request → Option Nat
  | .holdInvoice invoice | .snapshotSeats invoice _ | .correctSeats invoice _ _ | .correctOverage invoice _ _
  | .finalizeInvoice invoice => some invoice
  | _ => none

/-- The quantity of one line is set. -/
def setQuantity (id : Nat) (quantity : Int) (line : InvoiceLine) : InvoiceLine :=
  if line.id = id then { line with quantity := some quantity } else line

@[simp] theorem setQuantity_id (id : Nat) (quantity : Int) (line : InvoiceLine) :
    (setQuantity id quantity line).id = line.id := by
  unfold setQuantity
  split <;> rfl

namespace DraftInvoice

/-- `invoices.updateLineItem` -/
def updateLine (draft : DraftInvoice) (id : Nat) (quantity : Int) : DraftInvoice where
  toInvoice := draft.toInvoice
  lines := draft.lines.map (setQuantity id quantity)
  distinct := by
    have same : (fun line : InvoiceLine => line.id) ∘ setQuantity id quantity = (·.id) :=
      funext fun line => setQuantity_id id quantity line
    rw [List.map_map, same]
    exact draft.distinct

/-- What a request leaves of the draft when it takes effect. -/
def after (draft : DraftInvoice) (request : Request) : DraftInvoice :=
  if request.invoice = some draft.id then
    match request with
    | .holdInvoice _ => { draft with autoAdvance := false }
    | .snapshotSeats _ employees => { draft with seatSnapshot := .employees employees }
    | .correctSeats _ line employees => draft.updateLine line employees
    | .correctOverage _ line expected => draft.updateLine line expected
    | .finalizeInvoice _ => { draft with autoAdvance := true }
    | _ => draft
  else draft

theorem after_correctSeats {draft : DraftInvoice} {invoice line employees : Nat} (same : draft.id = invoice) :
    draft.after (.correctSeats invoice line employees) = draft.updateLine line employees := by
  simp [after, Request.invoice, same]

theorem after_correctOverage {draft : DraftInvoice} {invoice line : Nat} {expected : Int} (same : draft.id = invoice) :
    draft.after (.correctOverage invoice line expected) = draft.updateLine line expected := by
  simp [after, Request.invoice, same]

theorem after_snapshotSeats {draft : DraftInvoice} {invoice employees : Nat} (same : draft.id = invoice) :
    draft.after (.snapshotSeats invoice employees) = { draft with seatSnapshot := .employees employees } := by
  simp [after, Request.invoice, same]

theorem after_holdInvoice {draft : DraftInvoice} {invoice : Nat} (same : draft.id = invoice) :
    draft.after (.holdInvoice invoice) = { draft with autoAdvance := false } := by
  simp [after, Request.invoice, same]

/-- `listLineItems` with `limit: 100` -/
def listing (draft : DraftInvoice) : Page InvoiceLine := ⟨draft.lines.take 100, 100 < draft.lines.length⟩

theorem listing_complete {draft : DraftInvoice} (complete : draft.listing.hasMore = false) :
    draft.listing.data = draft.lines :=
  List.take_of_length_le (Nat.not_lt.mp (of_decide_eq_false complete))

end DraftInvoice

/-! ### What the method meets -/

/-- The database and the sums of the meter, moment by moment. -/
structure Surroundings where
  database : Nat → BillingDb
  summaries : Nat → (meter : Nat) → (customer : Option Nat) → (start stop : Int) → List Int

/-- The draft at a moment. -/
structure DraftState where
  moment : Nat
  draft : DraftInvoice

/-- A read that succeeds shows what is there. -/
def Shown (around : Surroundings) (w : DraftState) : (read : Lookup) → read.Res → Prop
  | .lineItems invoice, page => invoice = w.draft.id → page = w.draft.listing
  | .eventSummaries meter customer start stop, found => found = around.summaries w.moment meter customer start stop
  | _, _ => True

/-- Every action takes a moment. A request that fails may have taken effect or not. -/
def draftEnv (around : Surroundings) : Environment PaymentAct PaymentAct.Res DraftState
  | w, .send _ request, .ok _, w' => w' = ⟨w.moment + 1, w.draft.after request⟩
  | w, .send _ request, .error _, w' =>
      w' = ⟨w.moment + 1, w.draft⟩ ∨ w' = ⟨w.moment + 1, w.draft.after request⟩
  | w, .query read, answer, w' =>
      (∀ value, answer = .ok value → value = (around.database w.moment).answer read) ∧ w' = ⟨w.moment + 1, w.draft⟩
  | w, .lookup read, answer, w' => (∀ value, answer = .ok value → Shown around w read value) ∧
      w' = ⟨w.moment + 1, w.draft⟩
  | w, .now, _, w' | w, .command _, _, w' => w' = ⟨w.moment + 1, w.draft⟩

/-! ### What a release needs -/

/-- A draft of this company's customer and Stripe subscription. -/
structure OwnDraft (doc : Subscription) (invoice : Invoice) : Prop where
  draft : invoice.status = some .draft
  test : invoice.livemode = false
  customer : invoice.customer = doc.stripeCustomerId
  subscription : invoice.subscription = doc.stripeSubscriptionId

/-- All usage rows in the window of a line were submitted when they were read, the meter had their sum after that, and
the line has it as its quantity. -/
def OverageReconciled (config : PaymentConfig) (doc : Subscription) (around : Surroundings) (moment : Nat)
    (line : InvoiceLine) : Prop :=
  let window := lineWindow line.periodStart line.periodEnd
  ∃ read shown, read < shown ∧ shown < moment ∧
    let rows := (around.database read).answer (.usageBetween window.start window.stop)
    (∀ row ∈ rows, row.state = .submitted) ∧ line.quantity = some (rows.map (·.quantity)).sum ∧
      (around.summaries shown config.overageMeterId doc.stripeCustomerId window.start window.stop).sum =
        (rows.map (·.quantity)).sum

/-- A line agrees with what it is charged for. -/
structure LineReconciled (config : PaymentConfig) (doc : Subscription) (around : Surroundings) (moment employees : Nat)
    (line : InvoiceLine) : Prop where
  seats : line.price = some .basic → line.quantity = some (employees : Int)
  overage : line.price = some .overage → OverageReconciled config doc around moment line

/-- Every line agrees, with the seats that the draft itself records. -/
def Reconciled (config : PaymentConfig) (doc : Subscription) (around : Surroundings) (w : DraftState) : Prop :=
  ∃ employees, w.draft.seatSnapshot = .employees employees ∧
    ∀ line ∈ w.draft.lines, LineReconciled config doc around w.moment employees line

/-- What holds when a request about the draft is sent: it is a draft of this company and held, unless it is being held
just now, and a release finds it reconciled. -/
structure Due (config : PaymentConfig) (doc : Subscription) (around : Surroundings) (invoice : Invoice) (w : DraftState)
    (request : Request) : Prop where
  own : OwnDraft doc invoice
  concerns : request.invoice = some invoice.id
  held : request = .holdInvoice invoice.id ∨ w.draft.autoAdvance = false
  reconciled : request = .finalizeInvoice invoice.id → Reconciled config doc around w

variable {config : PaymentConfig} {doc : Subscription} {around : Surroundings} {invoice : Invoice} {w : DraftState}
variable {line : InvoiceLine} {rest : List InvoiceLine} {employees moment : Nat} {α β : Type}

/-! ### Following the loop over the lines

The loop corrects one line at a time at Stripe while it reads the others from the list it got before. `UnderReview`
splits the draft at the current line: those before it agree already, those behind it are still what was listed. -/

theorem LineReconciled.later {before : Nat} (agrees : LineReconciled config doc around before employees line)
    (later : before ≤ moment) : LineReconciled config doc around moment employees line where
  seats := agrees.seats
  overage priced := by
    obtain ⟨read, shown, order, earlier, reconciled⟩ := agrees.overage priced
    exact ⟨read, shown, order, Nat.lt_of_lt_of_le earlier later, reconciled⟩

/-- The draft while its lines are reviewed: those before `todo` agree already. -/
structure UnderReview (config : PaymentConfig) (doc : Subscription) (around : Surroundings) (invoice : Invoice)
    (employees : Nat) (todo : List InvoiceLine) (w : DraftState) : Prop where
  id : w.draft.id = invoice.id
  held : w.draft.autoAdvance = false
  seats : w.draft.seatSnapshot = .employees employees
  lines : ∃ checked, w.draft.lines = checked ++ todo ∧
    ∀ line ∈ checked, LineReconciled config doc around w.moment employees line

namespace UnderReview

variable {todo : List InvoiceLine}

theorem later (review : UnderReview config doc around invoice employees todo w) (later : w.moment ≤ moment) :
    UnderReview config doc around invoice employees todo ⟨moment, w.draft⟩ where
  id := review.id
  held := review.held
  seats := review.seats
  lines := by
    obtain ⟨checked, split, agree⟩ := review.lines
    exact ⟨checked, split, fun line mem => (agree line mem).later later⟩

/-- The next line agrees. -/
theorem next (review : UnderReview config doc around invoice employees (line :: rest) w)
    (agrees : LineReconciled config doc around w.moment employees line) :
    UnderReview config doc around invoice employees rest w where
  id := review.id
  held := review.held
  seats := review.seats
  lines := by
    obtain ⟨checked, split, agree⟩ := review.lines
    refine ⟨checked ++ [line], by simp [split], fun other mem => ?_⟩
    rcases List.mem_append.mp mem with before | here
    · exact agree other before
    · rw [List.mem_singleton.mp here]
      exact agrees

/-- The quantity of one line is set, those of the others stay. -/
theorem map_setQuantity {checked : List InvoiceLine} {quantity : Int}
    (distinct : ((checked ++ line :: rest).map (·.id)).Nodup) :
    (checked ++ line :: rest).map (setQuantity line.id quantity) =
      checked ++ { line with quantity := some quantity } :: rest := by
  have others : ∀ {lines : List InvoiceLine}, line.id ∉ lines.map (·.id) →
      lines.map (setQuantity line.id quantity) = lines := by
    intro lines apart
    have same : ∀ other ∈ lines, setQuantity line.id quantity other = other := by
      intro other mem
      have differs : other.id ≠ line.id := fun same => apart (same ▸ List.mem_map_of_mem mem)
      simp [setQuantity, differs]
    simpa using List.map_congr_left same
  rw [List.map_append, List.map_cons, List.nodup_middle, List.nodup_cons, List.mem_append, not_or] at distinct
  rw [List.map_append, List.map_cons, others distinct.1.1, others distinct.1.2]
  simp [setQuantity]

/-- The next line is corrected. -/
theorem corrected (review : UnderReview config doc around invoice employees (line :: rest) w) (quantity : Int)
    (later : w.moment ≤ moment) :
    UnderReview config doc around invoice employees ({ line with quantity := some quantity } :: rest)
      ⟨moment, w.draft.updateLine line.id quantity⟩ where
  id := review.id
  held := review.held
  seats := review.seats
  lines := by
    obtain ⟨checked, split, agree⟩ := review.lines
    refine ⟨checked, ?_, fun other mem => (agree other mem).later later⟩
    show w.draft.lines.map (setQuantity line.id quantity) = _
    rw [split]
    exact map_setQuantity (split ▸ w.draft.distinct)

end UnderReview

/-- What the method does from a state on: requests are due, and a result leaves the draft as `Q` says. -/
def Reviews (config : PaymentConfig) (doc : Subscription) (around : Surroundings) (invoice : Invoice)
    (process : PaymentHandler α) (Q : α → DraftState → Prop) (w : DraftState) : Prop :=
  process.run.Ensures (draftEnv around)
    (fun w act => ∀ guardedAt request, act = .send guardedAt request → Due config doc around invoice w request)
    (Ends Q Any) w

section Actions

variable {Q : β → DraftState → Prop}

theorem reviews_send {guardedAt : Option Int} {request : Request} {next : request.Reply → PaymentHandler β}
    (due : Due config doc around invoice w request)
    (continues : ∀ reply,
      Reviews config doc around invoice (next reply) Q ⟨w.moment + 1, w.draft.after request⟩) :
    Reviews config doc around invoice (send guardedAt request >>= next) Q w := by
  constructor
  · intro guardedAt request sent
    cases sent
    exact due
  · intro answer w' leaves
    cases answer with
    | ok reply =>
        cases leaves
        exact continues reply
    | error failure => trivial

theorem reviews_query {read : Query} {next : read.Res → PaymentHandler β}
    (continues : ∀ value, value = (around.database w.moment).answer read →
      Reviews config doc around invoice (next value) Q ⟨w.moment + 1, w.draft⟩) :
    Reviews config doc around invoice (query read >>= next) Q w := by
  constructor
  · intro guardedAt request sent
    cases sent
  · intro answer w' leaves
    obtain ⟨shown, rfl⟩ := leaves
    cases answer with
    | ok value => exact continues value (shown value rfl)
    | error failure => trivial

theorem reviews_lookup {read : Lookup} {next : read.Res → PaymentHandler β}
    (continues : ∀ value, Shown around w read value →
      Reviews config doc around invoice (next value) Q ⟨w.moment + 1, w.draft⟩) :
    Reviews config doc around invoice (lookup read >>= next) Q w := by
  constructor
  · intro guardedAt request sent
    cases sent
  · intro answer w' leaves
    obtain ⟨shown, rfl⟩ := leaves
    cases answer with
    | ok value => exact continues value (shown value rfl)
    | error failure => trivial

theorem reviews_write {command : Command} {next : command.Res → PaymentHandler β}
    (continues : ∀ value, Reviews config doc around invoice (next value) Q ⟨w.moment + 1, w.draft⟩) :
    Reviews config doc around invoice (write command >>= next) Q w := by
  constructor
  · intro guardedAt request sent
    cases sent
  · intro answer w' leaves
    cases leaves
    cases answer with
    | ok value => exact continues value
    | error failure => trivial

end Actions

/-! ### The method, from the inside out

Each part of the method is given a postcondition with two outcomes: what it was to establish, or a draft that stays
held. The parts compose by these postconditions, so failures need no case of their own further out. -/

theorem deliveredQuantity_eq_some {rows : List StripeUsage} {expected : Int}
    (delivered : deliveredQuantity rows = some expected) :
    (∀ row ∈ rows, row.state = .submitted) ∧ expected = (rows.map (·.quantity)).sum := by
  unfold deliveredQuantity at delivered
  split at delivered
  · cases delivered
  · rename_i none
    cases delivered
    exact ⟨by simpa using none, rfl⟩

/-- An overage line either agrees in the end or the draft stays held. -/
theorem reviews_reconcileOverage (own : OwnDraft doc invoice) (priced : line.price = some .overage)
    (review : UnderReview config doc around invoice employees (line :: rest) w) :
    Reviews config doc around invoice (reconcileOverage config doc invoice.id line)
      (fun agrees w => w.draft.autoAdvance = false ∧
        (agrees = true → UnderReview config doc around invoice employees rest w)) w := by
  apply reviews_query
  intro rows read
  cases delivered : deliveredQuantity rows with
  | none =>
      simp only
      exact ⟨review.held, nofun⟩
  | some expected =>
      obtain ⟨submitted, sum⟩ := deliveredQuantity_eq_some delivered
      simp only
      apply reviews_lookup
      intro summaries shown
      by_cases differs : (!isSafeInteger summaries.sum || summaries.sum != expected) = true
      · rw [if_pos differs]
        exact ⟨review.held, nofun⟩
      · rw [if_neg differs]
        have reported : summaries.sum = expected := by simp_all
        -- the line once it has the quantity; it may have it already
        have agrees : LineReconciled config doc around (w.moment + 2) employees
            { line with quantity := some expected } := by
          constructor
          · intro basic
            cases priced.symm.trans basic
          · intro _
            subst read sum shown
            exact ⟨w.moment, w.moment + 1, Nat.lt_succ_self _, Nat.lt_succ_self _, submitted, rfl, reported⟩
        by_cases quantity : line.quantity = some expected
        · have same : { line with quantity := some expected } = line := by rw [← quantity]
          rw [if_pos quantity]
          rw [same] at agrees
          exact ⟨review.held, fun _ => (review.later (Nat.le_add_right _ 2)).next agrees⟩
        · rw [if_neg quantity]
          refine reviews_send ⟨own, rfl, .inr review.held, nofun⟩ fun _ => ?_
          rw [DraftInvoice.after_correctOverage review.id]
          have corrected := (review.corrected expected (Nat.le_add_right _ 3)).next
            (agrees.later (Nat.le_succ _))
          exact ⟨corrected.held, fun _ => corrected⟩

theorem reviews_bind {process : PaymentHandler α} {next : α → PaymentHandler β} {Q : α → DraftState → Prop}
    {R : β → DraftState → Prop} (first : Reviews config doc around invoice process Q w)
    (continues : ∀ value w, Q value w → Reviews config doc around invoice (next value) R w) :
    Reviews config doc around invoice (process >>= next) R w :=
  Process.ensures_bind first continues

/-- The loop: every line agrees in the end, or the draft stays held. -/
theorem reviews_reconcileLines (own : OwnDraft doc invoice) :
    ∀ {lines : List InvoiceLine} {w : DraftState}, UnderReview config doc around invoice employees lines w →
      Reviews config doc around invoice (reconcileLines config doc invoice.id employees lines)
        (fun agree w => w.draft.autoAdvance = false ∧
          (agree = true → UnderReview config doc around invoice employees [] w)) w
  | [], w, review => ⟨review.held, fun _ => review⟩
  | line :: rest, w, review => by
      unfold reconcileLines
      by_cases basic : line.price = some .basic
      · have notOverage : line.price ≠ some .overage := by simp [basic]
        rw [if_neg notOverage]
        by_cases quantity : line.quantity = some (employees : Int)
        · rw [if_neg (by simp [quantity])]
          exact reviews_reconcileLines own (review.next ⟨fun _ => quantity, fun overage => absurd overage notOverage⟩)
        · rw [if_pos ⟨basic, quantity⟩]
          refine reviews_send ⟨own, rfl, .inr review.held, nofun⟩ fun _ => ?_
          rw [DraftInvoice.after_correctSeats review.id]
          exact reviews_reconcileLines own ((review.corrected employees (Nat.le_succ _)).next
            ⟨fun _ => rfl, fun overage => absurd overage notOverage⟩)
      · rw [if_neg (fun both => basic both.1)]
        by_cases overage : line.price = some .overage
        · rw [if_pos overage]
          refine reviews_bind (reviews_reconcileOverage own overage review) fun agrees w ended => ?_
          cases agrees with
          | false => exact ⟨ended.1, nofun⟩
          | true => exact reviews_reconcileLines own (ended.2 rfl)
        · rw [if_neg overage]
          exact reviews_reconcileLines own (review.next
            ⟨fun priced => absurd priced basic, fun priced => absurd priced overage⟩)

/-- The draft is held and records these seats. -/
structure HeldWith (invoice : Invoice) (seats : SeatSnapshot) (w : DraftState) : Prop where
  id : w.draft.id = invoice.id
  held : w.draft.autoAdvance = false
  seats : w.draft.seatSnapshot = seats

theorem reviews_invoiceEmployees (own : OwnDraft doc invoice) (begun : HeldWith invoice invoice.seatSnapshot w) :
    Reviews config doc around invoice (invoiceEmployees invoice)
      (fun employees => HeldWith invoice (.employees employees)) w := by
  unfold invoiceEmployees
  cases snapshot : invoice.seatSnapshot with
  | employees count => exact ⟨begun.id, begun.held, snapshot ▸ begun.seats⟩
  | invalid => trivial
  | missing =>
      apply reviews_write
      intro employees
      refine reviews_send ⟨own, rfl, .inr begun.held, nofun⟩ fun _ => ?_
      rw [DraftInvoice.after_snapshotSeats begun.id]
      exact ⟨begun.id, begun.held, rfl⟩

theorem reviews_reconcileDraft {draft : DraftInvoice} (moment : Nat) :
    Reviews config doc around draft.toInvoice (reconcileDraft config doc draft.toInvoice)
      (fun released w => released = false → w.draft.autoAdvance = false) ⟨moment, draft⟩ := by
  unfold reconcileDraft
  by_cases foreign : draft.status ≠ some .draft ∨ draft.livemode ∨ draft.customer ≠ doc.stripeCustomerId ∨
      draft.subscription ≠ doc.stripeSubscriptionId
  · rw [if_pos foreign]
    exact nofun
  rw [if_neg foreign]
  have own : OwnDraft doc draft.toInvoice := by
    simp only [not_or, not_not, Bool.not_eq_true] at foreign
    exact ⟨foreign.1, foreign.2.1, foreign.2.2.1, foreign.2.2.2⟩
  have rest : ∀ w, HeldWith draft.toInvoice draft.seatSnapshot w →
      Reviews config doc around draft.toInvoice (do
        let employees ← invoiceEmployees draft.toInvoice
        let lines ← lookup (.lineItems draft.id)
        check (require (!lines.hasMore) (.serviceUnavailable "Invoice reconciliation requires manual review"))
        if ← reconcileLines config doc draft.id employees lines.data then do
          send none (.finalizeInvoice draft.id)
          pure true
        else pure false) (fun released w => released = false → w.draft.autoAdvance = false) w := by
    intro w begun
    refine reviews_bind (reviews_invoiceEmployees own begun) fun employees w counted => ?_
    apply reviews_lookup
    intro lines shown
    refine Process.ensures_liftExcept (fun _ complete => ?_) fun _ _ => trivial
    have listed : lines.data = w.draft.lines := by
      have listing : lines = w.draft.listing := shown counted.id.symm
      rw [listing] at complete ⊢
      exact DraftInvoice.listing_complete (by simpa using require_ok_iff.mp complete)
    have review : UnderReview config doc around draft.toInvoice employees lines.data ⟨w.moment + 1, w.draft⟩ :=
      ⟨counted.id, counted.held, counted.seats, [], listed.symm, nofun⟩
    refine reviews_bind (reviews_reconcileLines own review) fun agree w ended => ?_
    cases agree with
    | false => exact fun _ => ended.1
    | true =>
        have reviewed := ended.2 rfl
        obtain ⟨checked, all, agree⟩ := reviewed.lines
        rw [List.append_nil] at all
        exact reviews_send ⟨own, rfl, .inr ended.1, fun _ => ⟨employees, reviewed.seats, all ▸ agree⟩⟩ fun _ => nofun
  cases advances : draft.autoAdvance with
  | false => exact rest _ ⟨rfl, advances, rfl⟩
  | true =>
      refine reviews_send ⟨own, rfl, .inl rfl, nofun⟩ fun _ => ?_
      rw [DraftInvoice.after_holdInvoice rfl]
      exact rest _ ⟨rfl, rfl, rfl⟩

/-! ### Every course -/

namespace DraftInvoice

variable {draft : DraftInvoice} {request : Request}

theorem after_id : (draft.after request).id = draft.id := by
  unfold after
  split
  · cases request <;> rfl
  · rfl

/-- Only a release makes the draft advance. -/
theorem after_held (held : draft.autoAdvance = false) (keeps : request ≠ .finalizeInvoice draft.id) :
    (draft.after request).autoAdvance = false := by
  unfold after
  split
  · rename_i concerns
    cases request with
    | finalizeInvoice invoice =>
        cases concerns
        exact absurd rfl keeps
    | holdInvoice => rfl
    | _ => exact held
  · exact held

end DraftInvoice

/-- Only requests change the draft. -/
theorem draftEnv_draft {w w' : DraftState} {act : PaymentAct} {answer : act.Res}
    (leaves : draftEnv around w act answer w') :
    w'.draft = w.draft ∨ ∃ guardedAt request, act = .send guardedAt request ∧ w'.draft = w.draft.after request := by
  cases act with
  | now | command =>
      cases leaves
      exact .inl rfl
  | query | lookup =>
      cases leaves.2
      exact .inl rfl
  | send guardedAt request =>
      cases answer with
      | ok reply =>
          cases leaves
          exact .inr ⟨guardedAt, request, rfl, rfl⟩
      | error failure =>
          rcases leaves with rfl | rfl
          · exact .inl rfl
          · exact .inr ⟨guardedAt, request, rfl, rfl⟩

theorem draftEnv_id {w w' : DraftState} {act : PaymentAct} {answer : act.Res}
    (leaves : draftEnv around w act answer w') : w'.draft.id = w.draft.id := by
  rcases draftEnv_draft leaves with same | ⟨_, request, _, changed⟩
  · rw [same]
  · rw [changed]
    exact DraftInvoice.after_id

/-- The draft is held if it has this id. -/
def IsHeld (id : Nat) (w : DraftState) : Prop := w.draft.id = id → w.draft.autoAdvance = false

theorem IsHeld.step {w w' : DraftState} {act : PaymentAct} {answer : act.Res} {id : Nat} (held : IsHeld id w)
    (leaves : draftEnv around w act answer w') (keeps : ∀ guardedAt, act ≠ .send guardedAt (.finalizeInvoice id)) :
    IsHeld id w' := by
  intro this
  rw [draftEnv_id leaves] at this
  rcases draftEnv_draft leaves with same | ⟨guardedAt, request, rfl, changed⟩
  · rw [same]
    exact held this
  · rw [changed]
    refine DraftInvoice.after_held (held this) fun release => keeps guardedAt ?_
    rw [release, this]

/-- A hold that succeeds. -/
theorem IsHeld.of_hold {w w' : DraftState} {guardedAt : Option Int} {id : Nat}
    (leaves : draftEnv around w (.send guardedAt (.holdInvoice id)) (.ok ()) w') : IsHeld id w' := by
  intro this
  rw [draftEnv_id leaves] at this
  cases leaves
  rw [DraftInvoice.after_holdInvoice this]

/-- `reconcileDraft` sends requests only about a draft of this company's customer and Stripe subscription, and a release
only when every line agrees; as long as no release is sent, a draft that has been held stays held, and a draft about
which the method answers `false` is held. -/
theorem draft_release (config : PaymentConfig) (doc : Subscription) (around : Surroundings) (draft : DraftInvoice)
    {steps : List (Step PaymentAct PaymentAct.Res)} {process : Process PaymentAct PaymentAct.Res (Except Failure Bool)}
    {w : DraftState}
    (course : (reconcileDraft config doc draft.toInvoice).run.Course (draftEnv around) ⟨0, draft⟩ steps process w) :
    (∀ guardedAt request, process.awaited = some (.send guardedAt request) →
      Due config doc around draft.toInvoice w request) ∧
    (process = .done (.ok false) → w.draft.autoAdvance = false) ∧
    ((∀ guardedAt answer, ⟨.send guardedAt (.finalizeInvoice draft.id), answer⟩ ∉ steps) →
      draft.autoAdvance = false ∨ (∃ guardedAt, ⟨.send guardedAt (.holdInvoice draft.id), .ok ()⟩ ∈ steps) →
      w.draft.autoAdvance = false) := by
  have whole : Reviews config doc around draft.toInvoice (reconcileDraft config doc draft.toInvoice) _ ⟨0, draft⟩ :=
    reviews_reconcileDraft 0
  have ensures := whole.course course
  refine ⟨fun guardedAt request awaits => ensures.isDue awaits guardedAt request rfl, fun returned => ?_,
    fun unreleased held => ?_⟩
  · subst returned
    exact ensures rfl
  · have kept : ∀ w act answer w', ⟨act, answer⟩ ∈ steps → IsHeld draft.id w → draftEnv around w act answer w' →
        IsHeld draft.id w' := by
      intro w act answer w' mem held leaves
      refine held.step leaves fun guardedAt release => ?_
      subst release
      exact unreleased guardedAt answer mem
    have same : w.draft.id = draft.id :=
      course.invariant (fun _ _ _ _ _ before leaves => (draftEnv_id leaves).trans before) rfl
    rcases held with before | ⟨guardedAt, mem⟩
    · exact course.invariant kept (fun _ => before) same
    · have holds : IsHeld draft.id w := course.since (fun _ _ leaves => IsHeld.of_hold leaves) kept mem
      exact holds same

/-! A draft that advances, without a snapshot of the seats, whose two lines are both wrong. -/

def wrongDraft : DraftInvoice where
  id := 4
  status := some .draft
  livemode := false
  customer := some 1
  subscription := some 2
  autoAdvance := true
  seatSnapshot := .missing
  lines := [⟨1, some .basic, some 2, 0, 600⟩, ⟨2, some .overage, none, 0, 600⟩]
  distinct := by decide

def billedCompany : Subscription where
  companyId := 1
  activatedAt := 0
  planChangedAt := 0
  stripeCustomerId := some 1
  stripeSubscriptionId := some 2

/-- Five files beyond the plan, submitted and counted by the meter. -/
def fiveFiles : Surroundings where
  database _ :=
    { subscription := billedCompany
      usages := ⟨[⟨⟨1, 0, 1⟩, 1, 1, 2, 5, 60, 0, 600, .submitted, none, none⟩], by decide⟩ }
  summaries _ _ _ _ _ := [5]

/-- It is corrected before it is released. -/
theorem draft_release_corrected :
    ∃ w : DraftState, w.draft.lines.map (·.quantity) = [some 3, some 5] ∧
      Due testMode billedCompany fiveFiles wrongDraft.toInvoice w (.finalizeInvoice 4) := by
  have hold : ∀ w : DraftState, draftEnv fiveFiles w (.send none (.holdInvoice 4)) (.ok ())
      ⟨w.moment + 1, w.draft.after (.holdInvoice 4)⟩ := fun _ => rfl
  have count : ∀ w : DraftState, draftEnv fiveFiles w (.command .employeeSnapshot) (.ok 3)
      ⟨w.moment + 1, w.draft⟩ := fun _ => rfl
  have snapshot : ∀ w : DraftState, draftEnv fiveFiles w (.send none (.snapshotSeats 4 3)) (.ok ())
      ⟨w.moment + 1, w.draft.after (.snapshotSeats 4 3)⟩ := fun _ => rfl
  have lines : ∀ w : DraftState, draftEnv fiveFiles w (.lookup (.lineItems 4)) (.ok w.draft.listing)
      ⟨w.moment + 1, w.draft⟩ := fun _ => ⟨fun _ same _ => (Except.ok.inj same).symm, rfl⟩
  have seats : ∀ w : DraftState, draftEnv fiveFiles w (.send none (.correctSeats 4 1 3)) (.ok ())
      ⟨w.moment + 1, w.draft.after (.correctSeats 4 1 3)⟩ := fun _ => rfl
  have rows : ∀ w : DraftState, draftEnv fiveFiles w (.query (.usageBetween 0 600))
      (.ok ((fiveFiles.database 0).answer (.usageBetween 0 600))) ⟨w.moment + 1, w.draft⟩ :=
    fun _ => ⟨fun _ same => (Except.ok.inj same).symm, rfl⟩
  have meter : ∀ w : DraftState, draftEnv fiveFiles w (.lookup (.eventSummaries 7 (some 1) 0 600)) (.ok [5])
      ⟨w.moment + 1, w.draft⟩ := fun _ => ⟨fun _ same => (Except.ok.inj same).symm, rfl⟩
  have overage : ∀ w : DraftState, draftEnv fiveFiles w (.send none (.correctOverage 4 2 5)) (.ok ())
      ⟨w.moment + 1, w.draft.after (.correctOverage 4 2 5)⟩ := fun _ => rfl
  have course : (reconcileDraft testMode billedCompany wrongDraft.toInvoice).run.Course (draftEnv fiveFiles)
      ⟨0, wrongDraft⟩ _ _ _ :=
    .cons (hold _) <| .cons (count _) <| .cons (snapshot _) <| .cons (lines _) <| .cons (seats _) <|
      .cons (rows _) <| .cons (meter _) <| .cons (overage _) <| .nil _ _
  exact ⟨_, rfl, (draft_release _ _ _ _ course).1 none _ rfl⟩

end DataVault.Payments
