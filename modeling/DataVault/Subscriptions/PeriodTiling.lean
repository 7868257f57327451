/-
Module: DataVault.Subscriptions.PeriodTiling
Layer: Proofs
Purpose: The periods of a company tile the time from its activation on: every instant lies in exactly one, each
  ends where the next one starts, the first starts at the activation, and every start is an anniversary.
Imports: DataVault.Subscriptions.BillingPeriod
Trusted boundary: none
Main exports: nthPeriod, Anniversary, PeriodOf, billingPeriod_tiles
-/
import DataVault.Subscriptions.BillingPeriod

namespace DataVault.Subscriptions

open DataVault.Calendar

/-- The periods one after another: the first is that of the activation, each further one that of the end of
the period before. -/
def nthPeriod (activatedAt : Int) : Nat → Option BillingPeriod
  | 0 => billingPeriod activatedAt activatedAt
  | months + 1 => (nthPeriod activatedAt months).bind fun period => billingPeriod activatedAt period.endsAt

example : nthPeriod 1706659200321 2 = some { startsAt := 1711843200321, endsAt := 1714435200321 } := by decide

/-- An instant lies the given number of months after the activation, on the activation's day of month or on
the last day of a month that is too short for it, at the activation's time of day. -/
structure Anniversary (activatedAt : Int) (months : Nat) (instant : Int) : Prop where
  month : monthIndex instant = monthIndex activatedAt + months
  date : dateFromTime instant =
    min (dateFromTime activatedAt) (monthLength (monthIndex activatedAt + months))
  timeOfDay : timeWithinDay instant = timeWithinDay activatedAt

theorem boundary_anniversary (activatedAt : Int) (months : Nat) :
    Anniversary activatedAt months (boundary activatedAt (monthIndex activatedAt + months)) := by
  constructor
  case month => exact monthIndex_boundary activatedAt _
  case date => exact dateFromTime_boundary activatedAt _
  case timeOfDay => exact boundary_timeOfDay activatedAt _

/-- A boundary starts the period that follows it. -/
theorem billingPeriod_boundary (activatedAt : Int) (months : Nat) :
    billingPeriod activatedAt (boundary activatedAt (monthIndex activatedAt + months)) =
      some { startsAt := boundary activatedAt (monthIndex activatedAt + months)
             endsAt := boundary activatedAt (monthIndex activatedAt + months + 1) } := by
  apply billingPeriod_of_month
  · exact activation_le_boundary activatedAt months
  · exact Int.le_refl _
  · have := boundary_succ activatedAt (monthIndex activatedAt + months)
    omega

theorem nthPeriod_eq (activatedAt : Int) (months : Nat) :
    nthPeriod activatedAt months =
      some { startsAt := boundary activatedAt (monthIndex activatedAt + months)
             endsAt := boundary activatedAt (monthIndex activatedAt + months + 1) } := by
  induction months with
  | zero =>
      have first := billingPeriod_boundary activatedAt 0
      simp only [Int.natCast_zero, Int.add_zero] at first ⊢
      rw [boundary_anchor] at first ⊢
      exact first
  | succ months ih =>
      have next := billingPeriod_boundary activatedAt (months + 1)
      have same : monthIndex activatedAt + ((months + 1 : Nat) : Int) =
          monthIndex activatedAt + months + 1 := by omega
      rw [same] at next ⊢
      simp only [nthPeriod, ih, Option.bind_some, next]

/-- What `billingPeriod` says about one instant: the period contains it, is the period of all its instants, and
the next period starts where it ends. -/
structure PeriodOf (activatedAt instant : Int) (period : BillingPeriod) : Prop where
  found : billingPeriod activatedAt instant = some period
  contains : period.startsAt ≤ instant ∧ instant < period.endsAt
  shared : ∀ other, period.startsAt ≤ other → other < period.endsAt →
    billingPeriod activatedAt other = some period
  adjoins : ∃ next, billingPeriod activatedAt period.endsAt = some next ∧ next.startsAt = period.endsAt

theorem periodOf_of_between {activatedAt instant : Int} (months : Nat)
    (starts : boundary activatedAt (monthIndex activatedAt + months) ≤ instant)
    (ends : instant < boundary activatedAt (monthIndex activatedAt + months + 1)) :
    PeriodOf activatedAt instant
      { startsAt := boundary activatedAt (monthIndex activatedAt + months)
        endsAt := boundary activatedAt (monthIndex activatedAt + months + 1) } := by
  have activated := activation_le_boundary activatedAt months
  constructor
  case found => exact billingPeriod_of_month _ (by omega) starts ends
  case contains => exact ⟨starts, ends⟩
  case shared =>
    intro other from_start before_end
    exact billingPeriod_of_month _ (Int.le_trans activated from_start) from_start before_end
  case adjoins =>
    have next := billingPeriod_boundary activatedAt (months + 1)
    have same : monthIndex activatedAt + ((months + 1 : Nat) : Int) =
        monthIndex activatedAt + months + 1 := by omega
    rw [same] at next
    exact ⟨_, next, rfl⟩

/-- `billingPeriod` gives every instant from the activation on a period, and these periods tile time from the
activation on; the start of the period number `months`, counted from 0, is the anniversary that many months
after the activation. -/
theorem billingPeriod_tiles (activatedAt instant : Int) (after : activatedAt ≤ instant) :
    (∃ period, PeriodOf activatedAt instant period) ∧
      (∃ first, billingPeriod activatedAt activatedAt = some first ∧ first.startsAt = activatedAt) ∧
      (∀ months, ∃ period, nthPeriod activatedAt months = some period ∧
        Anniversary activatedAt months period.startsAt ∧
        Anniversary activatedAt (months + 1) period.endsAt) ∧
      ∃ months, billingPeriod activatedAt instant = nthPeriod activatedAt months := by
  obtain ⟨months, starts, ends⟩ := billingPeriod_exists after
  have period := periodOf_of_between months starts ends
  constructor
  · exact ⟨_, period⟩
  constructor
  · have first := nthPeriod_eq activatedAt 0
    simp only [Int.natCast_zero, Int.add_zero, boundary_anchor] at first
    exact ⟨_, first, rfl⟩
  constructor
  · intro months
    have later := boundary_anniversary activatedAt (months + 1)
    have same : monthIndex activatedAt + ((months + 1 : Nat) : Int) =
        monthIndex activatedAt + months + 1 := by omega
    rw [same] at later
    exact ⟨_, nthPeriod_eq activatedAt months, boundary_anniversary activatedAt months, later⟩
  · exact ⟨months, period.found.trans (nthPeriod_eq activatedAt months).symm⟩

/-- An activation on 29 February, seen two years later. -/
theorem billingPeriod_tiles_leapDay :
    (∃ period, PeriodOf 1835438400321 1898510400320 period) ∧
      (∃ first, billingPeriod 1835438400321 1835438400321 = some first ∧ first.startsAt = 1835438400321) ∧
      (∀ months, ∃ period, nthPeriod 1835438400321 months = some period ∧
        Anniversary 1835438400321 months period.startsAt ∧
        Anniversary 1835438400321 (months + 1) period.endsAt) ∧
      ∃ months, billingPeriod 1835438400321 1898510400320 = nthPeriod 1835438400321 months :=
  billingPeriod_tiles 1835438400321 1898510400320 (by decide)

end DataVault.Subscriptions
