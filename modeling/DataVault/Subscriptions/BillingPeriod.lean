/-
Module: DataVault.Subscriptions.BillingPeriod
Layer: Model
Purpose: `billingPeriod` of subscriptions/billing-period.ts: the monthly period of an instant, anchored at
  the activation of the company. A period boundary has the activation's time of day on the activation's
  day of month, clamped to the length of the month.
Imports: DataVault.Time.Calendar
Trusted boundary: human-reviewed spec
Main exports: BillingPeriod, boundary, billingPeriod, boundary_timeOfDay, boundary_succ,
  billingPeriod_contains, boundary_anchor, dateFromTime_boundary,
  billingPeriod_of_month, billingPeriod_exists, billingPeriod_eq_some
-/
import DataVault.Time.Calendar

namespace DataVault.Subscriptions

open DataVault.Calendar

/-- `{ startsAt, endsAt }`; the end is exclusive. -/
structure BillingPeriod where
  startsAt : Int
  endsAt : Int
deriving Repr, DecidableEq

/-- The inner function `boundary`: the activation's date and time of day, moved to a month given by its
consecutive number. -/
def boundary (activatedAt : Int) (index : Int) : Int :=
  let year := index / 12
  let monthOfYear := index % 12
  let lastDay := dateFromTime (utc year (monthOfYear + 1) 0 0 0 0 0)
  utc year monthOfYear (min (dateFromTime activatedAt) lastDay) (hourFromTime activatedAt)
    (minFromTime activatedAt) (secFromTime activatedAt) (msFromTime activatedAt)

/-- `none` is the thrown `Error('Invalid billing period date')`. -/
def billingPeriod (activatedAt instant : Int) : Option BillingPeriod :=
  if instant < activatedAt then none
  else
    let anchorMonth := monthIndex activatedAt
    let month := monthIndex instant
    let month := if boundary activatedAt month > instant then month - 1 else month
    if month < anchorMonth then none
    else some { startsAt := boundary activatedAt month, endsAt := boundary activatedAt (month + 1) }

example : billingPeriod 1706659200321 1709251200000 =
    some { startsAt := 1709164800321, endsAt := 1711843200321 } := by decide

/-- A boundary in terms of the month it lies in. -/
theorem boundary_eq (activatedAt : Int) (index : Int) :
    boundary activatedAt index =
      (monthStart index + min (dateFromTime activatedAt) (monthLength index) - 1) * 86400000 +
        timeWithinDay activatedAt := by
  have same : index / 12 * 12 + index % 12 = index := by omega
  have clamp := dateFromTime_utc_zero (index / 12) (index % 12)
  rw [same] at clamp
  simp only [boundary, clamp]
  simp only [utc, makeDay_eq, makeTime_fields, same]

theorem timeWithinDay_bounds (t : Int) : 0 ≤ timeWithinDay t ∧ timeWithinDay t < 86400000 := by
  unfold timeWithinDay
  omega

/-- Every boundary has the activation's time of day, to the millisecond. -/
theorem boundary_timeOfDay (activatedAt : Int) (index : Int) :
    boundary activatedAt index % 86400000 = activatedAt % 86400000 := by
  rw [boundary_eq]
  unfold timeWithinDay
  omega

theorem boundary_bounds (activatedAt : Int) (index : Int) :
    monthStart index * 86400000 ≤ boundary activatedAt index ∧
      boundary activatedAt index < monthStart (index + 1) * 86400000 := by
  have timeOfDay := timeWithinDay_bounds activatedAt
  have date := dateFromTime_bounds activatedAt
  have length := monthLength_bounds index
  have next := monthStart_succ index
  rw [boundary_eq]
  omega

/-- Consecutive boundaries lie at least 28 days apart. -/
theorem boundary_succ (activatedAt : Int) (index : Int) :
    boundary activatedAt index + 28 * 86400000 ≤ boundary activatedAt (index + 1) := by
  have date := dateFromTime_bounds activatedAt
  have length := monthLength_bounds index
  have nextLength := monthLength_bounds (index + 1)
  have next := monthStart_succ index
  rw [boundary_eq, boundary_eq]
  omega

theorem boundary_le (activatedAt : Int) {first second : Int} (later : first ≤ second) :
    boundary activatedAt first ≤ boundary activatedAt second := by
  rcases Int.lt_or_eq_of_le later with later | rfl
  · have before := boundary_bounds activatedAt first
    have after := boundary_bounds activatedAt second
    have := monthStart_le (show first + 1 ≤ second by omega)
    omega
  · exact Int.le_refl _

/-- The month `billingPeriod` settles on is the one whose boundary is the last at or before the instant. -/
private theorem startMonth_spec (activatedAt instant : Int) :
    ∃ month, (if boundary activatedAt (monthIndex instant) > instant then monthIndex instant - 1
        else monthIndex instant) = month ∧
      boundary activatedAt month ≤ instant ∧ instant < boundary activatedAt (month + 1) := by
  have spec := monthIndex_spec instant
  unfold day at spec
  refine ⟨_, rfl, ?_⟩
  split
  · -- The boundary of this month is still ahead: the period began in the previous month.
    have before := boundary_bounds activatedAt (monthIndex instant - 1)
    rw [Int.sub_add_cancel] at before ⊢
    omega
  · have next := boundary_bounds activatedAt (monthIndex instant + 1)
    omega

/-- A period is given by the consecutive number of the month it starts in. -/
theorem billingPeriod_boundaries {activatedAt instant : Int} {period : BillingPeriod}
    (found : billingPeriod activatedAt instant = some period) :
    ∃ month, period.startsAt = boundary activatedAt month ∧
      period.endsAt = boundary activatedAt (month + 1) ∧
      boundary activatedAt month ≤ instant ∧ instant < boundary activatedAt (month + 1) := by
  obtain ⟨month, settled, contains⟩ := startMonth_spec activatedAt instant
  simp only [billingPeriod, settled] at found
  split at found
  · cases found
  · split at found
    · cases found
    · cases found
      exact ⟨month, rfl, rfl, contains⟩

/-- An instant lies in its period. -/
theorem billingPeriod_contains {activatedAt instant : Int} {period : BillingPeriod}
    (found : billingPeriod activatedAt instant = some period) :
    period.startsAt ≤ instant ∧ instant < period.endsAt := by
  obtain ⟨month, starts, ends, contains⟩ := billingPeriod_boundaries found
  rw [starts, ends]
  exact contains

/-! ### The boundary of a month -/

/-- The boundary of the activation's own month is the activation. -/
theorem boundary_anchor (activatedAt : Int) : boundary activatedAt (monthIndex activatedAt) = activatedAt := by
  have date := dateFromTime_bounds activatedAt
  have clamp : min (dateFromTime activatedAt) (monthLength (monthIndex activatedAt)) =
      dateFromTime activatedAt := by omega
  rw [boundary_eq, clamp, dateFromTime_eq]
  unfold day timeWithinDay
  omega

theorem monthIndex_boundary (activatedAt : Int) (index : Int) :
    monthIndex (boundary activatedAt index) = index := by
  have bounds := boundary_bounds activatedAt index
  apply monthIndex_unique
  · unfold day
    omega
  · unfold day
    omega

/-- A boundary lies on the activation's day of month, or on the last day of a shorter month. -/
theorem dateFromTime_boundary (activatedAt : Int) (index : Int) :
    dateFromTime (boundary activatedAt index) = min (dateFromTime activatedAt) (monthLength index) := by
  have timeOfDay := timeWithinDay_bounds activatedAt
  have located : day (boundary activatedAt index) =
      monthStart index + min (dateFromTime activatedAt) (monthLength index) - 1 := by
    rw [boundary_eq]
    unfold day
    omega
  rw [dateFromTime_eq, monthIndex_boundary, located]
  omega

/-- No boundary from the activation's month on lies before the activation. -/
theorem activation_le_boundary (activatedAt : Int) (months : Nat) :
    activatedAt ≤ boundary activatedAt (monthIndex activatedAt + months) := by
  have order := boundary_le activatedAt
    (show monthIndex activatedAt ≤ monthIndex activatedAt + months by omega)
  rw [boundary_anchor] at order
  exact order

/-- From the activation on, the period of an instant is that of the month between whose boundaries it lies. -/
theorem billingPeriod_of_month {activatedAt instant : Int} (month : Int) (after : activatedAt ≤ instant)
    (starts : boundary activatedAt month ≤ instant) (ends : instant < boundary activatedAt (month + 1)) :
    billingPeriod activatedAt instant =
      some { startsAt := boundary activatedAt month, endsAt := boundary activatedAt (month + 1) } := by
  obtain ⟨found, settled, contains⟩ := startMonth_spec activatedAt instant
  have same : found = month := by
    rcases Int.lt_trichotomy found month with before | same | later
    · have := boundary_le activatedAt (show found + 1 ≤ month by omega)
      omega
    · exact same
    · have := boundary_le activatedAt (show month + 1 ≤ found by omega)
      omega
  have anchored : ¬ month < monthIndex activatedAt := by
    intro early
    have order := boundary_le activatedAt (show month + 1 ≤ monthIndex activatedAt by omega)
    rw [boundary_anchor] at order
    omega
  simp only [billingPeriod, settled, same]
  rw [if_neg (by omega), if_neg anchored]

/-- The period of an instant from the activation on exists; its month is not before the activation's. -/
theorem billingPeriod_exists {activatedAt instant : Int} (after : activatedAt ≤ instant) :
    ∃ months : Nat,
      boundary activatedAt (monthIndex activatedAt + months) ≤ instant ∧
        instant < boundary activatedAt (monthIndex activatedAt + months + 1) := by
  obtain ⟨month, _, starts, ends⟩ := startMonth_spec activatedAt instant
  have anchored : monthIndex activatedAt ≤ month := by
    by_contra early
    have order := boundary_le activatedAt (show month + 1 ≤ monthIndex activatedAt by omega)
    rw [boundary_anchor] at order
    omega
  obtain ⟨months, located⟩ : ∃ months : Nat, month = monthIndex activatedAt + months :=
    ⟨(month - monthIndex activatedAt).toNat, by omega⟩
  rw [located] at starts ends
  exact ⟨months, starts, ends⟩

/-- Every period is that of a month from the activation's on. -/
theorem billingPeriod_eq_some {activatedAt instant : Int} {period : BillingPeriod}
    (found : billingPeriod activatedAt instant = some period) :
    ∃ month, activatedAt ≤ boundary activatedAt month ∧
      period = { startsAt := boundary activatedAt month, endsAt := boundary activatedAt (month + 1) } := by
  have after : activatedAt ≤ instant := by
    by_contra early
    simp [billingPeriod, Int.not_le.mp early] at found
  obtain ⟨months, starts, ends⟩ := billingPeriod_exists after
  have located := billingPeriod_of_month _ after starts ends
  rw [found] at located
  exact ⟨_, activation_le_boundary activatedAt months, Option.some.inj located⟩

end DataVault.Subscriptions
