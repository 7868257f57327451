/-
Module: DataVault.Payments.MeterWindow
Layer: Model
Purpose: The metered usage row that an upload records (`enqueueOverage` of payments/payments.service.ts) and
  the minute window in which `reconcileDraft` and `verifyFinalizedUsage` look for the rows of an invoice
  line. The first rounds a period boundary given in milliseconds up to a minute, the second rounds the
  boundary that Stripe stores in whole seconds.
Imports: DataVault.Payments.Policy, DataVault.Subscriptions.BillingPeriod
Trusted boundary: human-reviewed spec
Main exports: StripeUsage, meterWindow, lineWindow, enqueueOverage, invoiceWindow,
  usageTimestamp_agreement_iff
-/
import DataVault.Payments.Policy
import DataVault.Subscriptions.BillingPeriod

namespace DataVault.Payments

open DataVault.Plans DataVault.Subscriptions

/-- `Math.ceil(x / n)`. -/
def ceilDiv (x n : Int) : Int := -(-x / n)

example : ceilDiv 61 60 = 2 := by decide

/-- A half-open window of seconds. -/
structure MeterWindow where
  start : Int
  stop : Int
deriving DecidableEq, Repr

def MeterWindow.covers (window : MeterWindow) (second : Int) : Prop :=
  window.start ≤ second ∧ second < window.stop

/-- `meterWindow`: the boundaries in milliseconds, rounded up to the minute. -/
def meterWindow (startsAt endsAt : Int) : MeterWindow where
  start := ceilDiv startsAt 60000 * 60
  stop := ceilDiv endsAt 60000 * 60

/-- The window of an invoice line whose period Stripe gives in seconds, as `reconcileDraft` and
`verifyFinalizedUsage` compute it. -/
def lineWindow (start stop : Int) : MeterWindow where
  start := ceilDiv start 60 * 60
  stop := ceilDiv stop 60 * 60

/-- ``dv-${companyId}-${periodStartsAt}-${sequence}``. -/
structure UsageIdentifier where
  companyId : Nat
  periodStartsAt : Int
  sequence : Int
deriving DecidableEq, Repr

structure StripeUsage where
  identifier : UsageIdentifier
  companyId : Nat
  customerId : Nat
  subscriptionId : Nat
  quantity : Int
  timestamp : Int
  periodStartsAt : Int
  periodEndsAt : Int
  state : UsageDeliveryState := .pending
  firstAttemptAt : Option Int := none
  submittedAt : Option Int := none
deriving DecidableEq, Repr

/-- The timestamp of a usage row: now, floored to the minute, moved into the window of the period and past
the start of metering. -/
def usageTimestamp (subscription : Subscription) (period : BillingPeriod) (now : Int) : Int :=
  let window := meterWindow period.startsAt period.endsAt
  max window.start
    (max (ceilDiv (subscription.stripeMeterStartedAt.getD period.startsAt) 60000 * 60)
      (min (now / 60000 * 60) (window.stop - 60)))

/-- `enqueueOverage`; `none` is the return without a row. The inserted document is the result. -/
def enqueueOverage (enabled : Bool) (subscription : Subscription) (period : BillingPeriod)
    (sequence additionalChargeCents now : Int) : Except Failure (Option StripeUsage) :=
  if !enabled || !subscription.stripeManaged || additionalChargeCents == 0 then .ok none
  else
    match subscription.stripeCustomerId, subscription.stripeSubscriptionId with
    | some customerId, some subscriptionId =>
        if !isSafeInteger additionalChargeCents || additionalChargeCents < 0 ||
            !isSafeInteger sequence || sequence < 1 then
          .error (.serviceUnavailable "Invalid metered usage accounting")
        else
          let unit : Int := ((planCatalog .premium).extraFilePriceCents.getD 0 : Nat)
          let quantity := additionalChargeCents / unit
          if !isSafeInteger quantity || quantity < 1 || quantity * unit != additionalChargeCents then
            .error (.serviceUnavailable "Invalid metered usage accounting")
          else
            let timestamp := usageTimestamp subscription period now
            if timestamp ≥ (meterWindow period.startsAt period.endsAt).stop then
              .error (.conflict "Upload crossed a subscription billing boundary; retry")
            else
              .ok (some
                { identifier :=
                    { companyId := subscription.companyId
                      periodStartsAt := period.startsAt
                      sequence := sequence }
                  companyId := subscription.companyId
                  customerId := customerId
                  subscriptionId := subscriptionId
                  quantity := quantity
                  timestamp := timestamp
                  periodStartsAt := period.startsAt
                  periodEndsAt := period.endsAt })
    | _, _ => .error (.serviceUnavailable "Stripe usage mapping is unavailable")

/-- A recorded row carries the computed timestamp, and that timestamp lies before the window's end. -/
theorem enqueueOverage_row {enabled : Bool} {subscription : Subscription} {period : BillingPeriod}
    {sequence cents now : Int} {row : StripeUsage}
    (recorded : enqueueOverage enabled subscription period sequence cents now = .ok (some row)) :
    row.timestamp = usageTimestamp subscription period now ∧
      row.timestamp < (meterWindow period.startsAt period.endsAt).stop := by
  simp only [enqueueOverage] at recorded
  repeat' split at recorded
  all_goals cases recorded
  rename_i early
  exact ⟨rfl, Int.not_le.mp early⟩

/-- A recorded row waits for its first delivery. -/
theorem enqueueOverage_pending {enabled : Bool} {subscription : Subscription} {period : BillingPeriod}
    {sequence cents now : Int} {row : StripeUsage}
    (recorded : enqueueOverage enabled subscription period sequence cents now = .ok (some row)) :
    row.state = .pending ∧ row.firstAttemptAt = none := by
  simp only [enqueueOverage] at recorded
  repeat' split at recorded
  all_goals cases recorded
  exact ⟨rfl, rfl⟩

/-! ### The invoice of a period -/

/-- A period of the company: what `billingPeriod` returns at some instant. -/
def IsPeriod (activatedAt : Int) (period : BillingPeriod) : Prop :=
  ∃ instant, billingPeriod activatedAt instant = some period

/-- The window of the invoice line of a period: Stripe keeps the period's boundaries in whole seconds. -/
def invoiceWindow (period : BillingPeriod) : MeterWindow :=
  lineWindow (period.startsAt / 1000) (period.endsAt / 1000)

/-- The invoice side and the upload side agree on a row: its timestamp is a minute, lies in the window of
its own period's invoice and of no other one, and within a minute of the upload; the window of the next
period continues this one. -/
structure UsageAgrees (activatedAt now : Int) (period : BillingPeriod) (timestamp : Int) : Prop where
  minute : timestamp % 60 = 0
  counted : (invoiceWindow period).covers timestamp
  once : ∀ other, IsPeriod activatedAt other → (invoiceWindow other).covers timestamp → other = period
  near : now - 60000 < 1000 * timestamp ∧ 1000 * timestamp < now + 60000
  tiled : ∀ next, IsPeriod activatedAt next → next.startsAt = period.endsAt →
    (invoiceWindow next).start = (invoiceWindow period).stop

/-- The activation falls into the first second of a minute but not on its start, so the end of every period
does too, and the row is timed in the minute that only `meterWindow` still counts: the upload, or the start
of metering rounded up, is past the minute's start. -/
def TimedInSplitMinute (activatedAt : Int) (period : BillingPeriod) (startedAt : Option Int)
    (now : Int) : Prop :=
  0 < activatedAt % 60000 ∧ activatedAt % 60000 < 1000 ∧
    (period.endsAt - activatedAt % 60000 ≤ now ∨
      ∃ started, startedAt = some started ∧ period.endsAt - activatedAt % 60000 - 60000 < started)

theorem IsPeriod.boundaries {activatedAt : Int} {period : BillingPeriod}
    (isPeriod : IsPeriod activatedAt period) :
    ∃ month, period = ⟨boundary activatedAt month, boundary activatedAt (month + 1)⟩ := by
  obtain ⟨_, found⟩ := isPeriod
  obtain ⟨month, starts, ends, _⟩ := billingPeriod_boundaries found
  exact ⟨month, by rw [← starts, ← ends]⟩

/-- Two periods of one company are equal or one ends before the other starts. -/
theorem IsPeriod.apart {activatedAt : Int} {period other : BillingPeriod}
    (one : IsPeriod activatedAt period) (two : IsPeriod activatedAt other) :
    other = period ∨ other.endsAt ≤ period.startsAt ∨ period.endsAt ≤ other.startsAt := by
  obtain ⟨month, rfl⟩ := one.boundaries
  obtain ⟨otherMonth, rfl⟩ := two.boundaries
  rcases Int.lt_trichotomy otherMonth month with before | rfl | after
  · exact Or.inr (Or.inl (boundary_le activatedAt (by omega)))
  · exact Or.inl rfl
  · exact Or.inr (Or.inr (boundary_le activatedAt (by omega)))

theorem invoiceWindow_tiles {period next : BillingPeriod} (follows : next.startsAt = period.endsAt) :
    (invoiceWindow next).start = (invoiceWindow period).stop := by
  unfold invoiceWindow lineWindow
  rw [follows]

/-- A second is counted in the invoice of at most one period. -/
theorem invoiceWindow_once {activatedAt timestamp : Int} {period other : BillingPeriod}
    (one : IsPeriod activatedAt period) (two : IsPeriod activatedAt other)
    (covered : (invoiceWindow period).covers timestamp)
    (alsoCovered : (invoiceWindow other).covers timestamp) : other = period := by
  rcases one.apart two with same | before | after
  · exact same
  · simp only [invoiceWindow, lineWindow, MeterWindow.covers, ceilDiv] at covered alsoCovered
    omega
  · simp only [invoiceWindow, lineWindow, MeterWindow.covers, ceilDiv] at covered alsoCovered
    omega

/-- The timestamp is a minute within a minute of the upload, whatever the boundaries. -/
theorem usageTimestamp_near {subscription : Subscription} {period : BillingPeriod} {now : Int}
    (contains : period.startsAt ≤ now ∧ now < period.endsAt)
    (metered : ∀ started, subscription.stripeMeterStartedAt = some started → started ≤ now) :
    usageTimestamp subscription period now % 60 = 0 ∧
      now - 60000 < 1000 * usageTimestamp subscription period now ∧
      1000 * usageTimestamp subscription period now < now + 60000 := by
  have started : subscription.stripeMeterStartedAt.getD period.startsAt ≤ now := by
    cases found : subscription.stripeMeterStartedAt with
    | none => exact contains.1
    | some started => exact metered started found
  simp only [usageTimestamp, meterWindow, ceilDiv]
  omega

/-- The timestamp never lies before the window of the invoice. -/
theorem usageTimestamp_ge (subscription : Subscription) (period : BillingPeriod) (now : Int) :
    (invoiceWindow period).start ≤ usageTimestamp subscription period now := by
  simp only [usageTimestamp, meterWindow, invoiceWindow, lineWindow, ceilDiv]
  omega

/-- Where the end of the period does not fall into the first second of a minute, both sides round it to the
same minute. -/
theorem invoiceWindow_stop_eq {period : BillingPeriod}
    (whole : period.endsAt % 60000 = 0 ∨ 1000 ≤ period.endsAt % 60000) :
    (invoiceWindow period).stop = (meterWindow period.startsAt period.endsAt).stop := by
  simp only [meterWindow, invoiceWindow, lineWindow, ceilDiv]
  omega

/-- In a split minute the timestamp lies before the invoice's end exactly if the upload and the rounded
start of metering do. -/
theorem usageTimestamp_lt_split {subscription : Subscription} {period : BillingPeriod} {now : Int}
    (split : 0 < period.endsAt % 60000 ∧ period.endsAt % 60000 < 1000)
    (long : period.startsAt + 120000 ≤ period.endsAt) :
    usageTimestamp subscription period now < (invoiceWindow period).stop ↔
      now < period.endsAt - period.endsAt % 60000 ∧
        ∀ started, subscription.stripeMeterStartedAt = some started →
          started ≤ period.endsAt - period.endsAt % 60000 - 60000 := by
  cases found : subscription.stripeMeterStartedAt with
  | none =>
      simp only [usageTimestamp, meterWindow, invoiceWindow, lineWindow, ceilDiv, found,
        Option.getD_none]
      constructor
      · intro before
        exact ⟨by omega, fun _ absent => by cases absent⟩
      · intro ⟨before, _⟩
        omega
  | some started =>
      simp only [usageTimestamp, meterWindow, invoiceWindow, lineWindow, ceilDiv, found,
        Option.getD_some]
      constructor
      · intro before
        exact ⟨by omega, fun _ same => by cases same; omega⟩
      · intro ⟨before, early⟩
        have early := early started rfl
        omega

/-- Every usage row agrees with the invoice of its period unless it is timed in a split minute. The code computes the
timestamp from milliseconds, the invoice of Stripe begins and ends at full seconds, so a period that does not begin at
one shares a minute with its neighbour. -/
theorem enqueueOverage_agrees_iff (enabled : Bool) (subscription : Subscription)
    {period : BillingPeriod} (sequence cents : Int) {now : Int} (row : StripeUsage)
    (inPeriod : billingPeriod subscription.activatedAt now = some period)
    (metered : ∀ started, subscription.stripeMeterStartedAt = some started → started ≤ now)
    (recorded : enqueueOverage enabled subscription period sequence cents now = .ok (some row)) :
    UsageAgrees subscription.activatedAt now period row.timestamp ↔
      ¬ TimedInSplitMinute subscription.activatedAt period subscription.stripeMeterStartedAt now := by
  obtain ⟨timestamp, early⟩ := enqueueOverage_row recorded
  obtain ⟨month, starts, ends, contains⟩ := billingPeriod_boundaries inPeriod
  have long : period.startsAt + 120000 ≤ period.endsAt := by
    have := boundary_succ subscription.activatedAt month
    omega
  have offset : period.endsAt % 60000 = subscription.activatedAt % 60000 := by
    have := boundary_timeOfDay subscription.activatedAt (month + 1)
    omega
  have near := usageTimestamp_near (billingPeriod_contains inPeriod) metered
  rw [timestamp] at early ⊢
  have counted_iff : (invoiceWindow period).covers (usageTimestamp subscription period now) ↔
      ¬ TimedInSplitMinute subscription.activatedAt period subscription.stripeMeterStartedAt now := by
    have after := usageTimestamp_ge subscription period now
    unfold TimedInSplitMinute MeterWindow.covers
    rw [← offset]
    by_cases split : 0 < period.endsAt % 60000 ∧ period.endsAt % 60000 < 1000
    · rw [usageTimestamp_lt_split split long]
      grind
    · rw [invoiceWindow_stop_eq (by omega)]
      grind
  refine ⟨fun agrees => counted_iff.mp agrees.counted, fun holds => ?_⟩
  have counted := counted_iff.mpr holds
  exact
    { minute := near.1
      counted := counted
      once := fun other isPeriod covered => invoiceWindow_once ⟨now, inPeriod⟩ isPeriod counted covered
      near := near.2
      tiled := fun next _ follows => invoiceWindow_tiles follows }

/-- A company activated on 2024-01-31 at 00:00:00.321 and billed through Stripe. -/
def splitMinuteSubscription : Subscription where
  companyId := 1
  planCode := .premium
  activatedAt := 1706659200321
  planChangedAt := 1706659200321
  stripeManaged := true
  stripeCustomerId := some 1
  stripeSubscriptionId := some 1
  stripeMeterStartedAt := some 1706659200000

/-- An upload in the middle of the first period. -/
theorem enqueueOverage_agrees_mid_period :
    UsageAgrees 1706659200321 1707955200000 ⟨1706659200321, 1709164800321⟩ 1707955200 :=
  (enqueueOverage_agrees_iff true splitMinuteSubscription 1001 50
    { identifier := ⟨1, 1706659200321, 1001⟩, companyId := 1, customerId := 1, subscriptionId := 1
      quantity := 1, timestamp := 1707955200, periodStartsAt := 1706659200321
      periodEndsAt := 1709164800321 }
    (by decide) (fun _ same => by cases same; decide) (by decide)).mpr
    (by rintro ⟨_, _, late | ⟨_, same, late⟩⟩
        · exact absurd late (by decide)
        · cases same
          exact absurd late (by decide))

/-- An upload 221 ms before the end of that period is recorded for a minute in which its invoice no longer
looks. -/
theorem enqueueOverage_disagrees_last_second :
    billingPeriod 1706659200321 1709164800100 = some ⟨1706659200321, 1709164800321⟩ ∧
      ∃ row, enqueueOverage true splitMinuteSubscription ⟨1706659200321, 1709164800321⟩ 1001 50
          1709164800100 = .ok (some row) ∧
        ¬ UsageAgrees 1706659200321 1709164800100 ⟨1706659200321, 1709164800321⟩ row.timestamp := by
  refine ⟨by decide, _, rfl, fun agrees => ?_⟩
  exact absurd agrees.counted.2 (by decide)

end DataVault.Payments
