/-
Module: DataVault.Payments.AnniversaryCheck
Layer: Proofs
Purpose: Which subscription items pass the period check of `validateRemote`. Stripe gives the bounds of a period
  in whole seconds; the check adds a second to the start before it looks for the period, so that a start that
  was cut down to the second before the activation's milliseconds still lies in the period.
Imports: DataVault.Payments.Records
Trusted boundary: none
Main exports: IsDate, AcceptsOnly, validatePeriod_ok_iff, period_check_accepts_iff
-/
import DataVault.Payments.Records

namespace DataVault.Payments

open DataVault.Calendar DataVault.Control DataVault.Subscriptions

/-- The time values that a `Date` can have. -/
structure IsDate (t : Int) : Prop where
  least : -8640000000000000 ≤ t
  greatest : t ≤ 8640000000000000

/-- Among the items that start at `second`, the check accepts those that end at `stop` and no others. -/
def AcceptsOnly (activatedAt second stop : Int) : Prop :=
  ∀ item : SubscriptionItem, item.currentPeriodStart = second →
    (validatePeriod activatedAt item = .ok () ↔ item.currentPeriodEnd = stop)

theorem validatePeriod_ok_iff {activatedAt : Int} {item : SubscriptionItem} :
    validatePeriod activatedAt item = .ok () ↔
      (isSafeInteger item.currentPeriodStart = true ∧ isSafeInteger item.currentPeriodEnd = true) ∧
        ∃ period, billingPeriod activatedAt (item.currentPeriodStart * 1000 + 1000) = some period ∧
          item.currentPeriodEnd = period.endsAt / 1000 := by
  constructor
  · intro passed
    obtain ⟨_, safe, passed⟩ := bind_ok_iff.mp passed
    obtain ⟨period, found, same⟩ := bind_ok_iff.mp passed
    exact ⟨by simpa using safe, period, by simpa using found, by simpa using same⟩
  · rintro ⟨safe, period, found, same⟩
    apply bind_ok_iff.mpr
    refine ⟨(), by simpa using safe, bind_ok_iff.mpr ⟨period, by simpa using found, ?_⟩⟩
    simpa using same

/-- The instant the check looks at lies in the period of the second, but for the last second of a period that
ends on a full second: there it is the end, which belongs to the next period. -/
theorem billingPeriod_checked {activatedAt month second : Int}
    (activated : activatedAt ≤ boundary activatedAt month)
    (from_start : boundary activatedAt month / 1000 ≤ second)
    (before_end : second < boundary activatedAt (month + 1) / 1000) :
    billingPeriod activatedAt (second * 1000 + 1000) =
      if second + 1 < boundary activatedAt (month + 1) / 1000 ∨ activatedAt % 1000 ≠ 0 then
        some { startsAt := boundary activatedAt month, endsAt := boundary activatedAt (month + 1) }
      else
        some { startsAt := boundary activatedAt (month + 1)
               endsAt := boundary activatedAt (month + 1 + 1) } := by
  have ms : boundary activatedAt (month + 1) % 1000 = activatedAt % 1000 := by
    have timeOfDay := boundary_timeOfDay activatedAt (month + 1)
    omega
  split
  · apply billingPeriod_of_month
    · omega
    · omega
    · omega
  · have following := boundary_succ activatedAt (month + 1)
    apply billingPeriod_of_month
    · omega
    · omega
    · omega

/-- Of the items that start at a second of a period, the check accepts exactly those that end with the period,
unless the second is the last one of a period that ends on a full second. -/
theorem period_check_accepts_iff {activatedAt instant second : Int} {period : BillingPeriod}
    (activation : IsDate activatedAt) (ending : IsDate period.endsAt)
    (found : billingPeriod activatedAt instant = some period)
    (from_start : period.startsAt / 1000 ≤ second) (before_end : second < period.endsAt / 1000) :
    AcceptsOnly activatedAt second (period.endsAt / 1000) ↔
      second + 1 < period.endsAt / 1000 ∨ activatedAt % 1000 ≠ 0 := by
  obtain ⟨month, activated, rfl⟩ := billingPeriod_eq_some found
  have least := activation.least
  have greatest := ending.greatest
  dsimp only at from_start before_end greatest ⊢
  have safe_start : isSafeInteger second = true := by
    simp only [isSafeInteger, decide_eq_true_eq]
    omega
  have safe_end : isSafeInteger (boundary activatedAt (month + 1) / 1000) = true := by
    simp only [isSafeInteger, decide_eq_true_eq]
    omega
  have checked := billingPeriod_checked activated from_start before_end
  constructor
  · -- An item that ends with the period is accepted only if the check looks at this period.
    intro accepts
    by_contra outside
    let item : SubscriptionItem :=
      { (default : SubscriptionItem) with
        currentPeriodStart := second
        currentPeriodEnd := boundary activatedAt (month + 1) / 1000 }
    obtain ⟨_, period, looked, ends⟩ := validatePeriod_ok_iff.mp ((accepts item rfl).mpr rfl)
    have following := boundary_succ activatedAt (month + 1)
    rw [show item.currentPeriodStart = second from rfl, checked, if_neg outside] at looked
    cases looked
    dsimp only [item] at ends
    omega
  · intro inside item starts
    rw [if_pos inside] at checked
    rw [validatePeriod_ok_iff, starts, checked]
    constructor
    · rintro ⟨_, period, looked, ends⟩
      cases looked
      exact ends
    · intro ends
      rw [ends]
      exact ⟨⟨safe_start, safe_end⟩, _, rfl, rfl⟩

/-- An activation with milliseconds: the item of a subscription created in the last second of a period. -/
theorem period_check_accepts_iff_milliseconds :
    AcceptsOnly 1767225600500 1769903999 1769904000 ↔
      (1769903999 : Int) + 1 < 1769904000 ∨ (1767225600500 : Int) % 1000 ≠ 0 := by
  have found : billingPeriod 1767225600500 1767225600500 =
      some { startsAt := 1767225600500, endsAt := 1769904000500 } := by decide
  exact period_check_accepts_iff ⟨by decide, by decide⟩ ⟨by decide, by decide⟩ found (by decide) (by decide)

/-- An activation on a full second: the item of a subscription created in the last second of the period is
rejected. -/
theorem period_check_rejects_last_second :
    ¬ ∀ (activatedAt instant second : Int) (period : BillingPeriod),
      IsDate activatedAt → IsDate period.endsAt → billingPeriod activatedAt instant = some period →
      period.startsAt / 1000 ≤ second → second < period.endsAt / 1000 →
      AcceptsOnly activatedAt second (period.endsAt / 1000) := by
  intro accepts
  have accepted := accepts 1767225600000 1767225600000 1769903999
    { startsAt := 1767225600000, endsAt := 1769904000000 }
    ⟨by decide, by decide⟩ ⟨by decide, by decide⟩ (by decide) (by decide) (by decide)
  let item : SubscriptionItem :=
    { (default : SubscriptionItem) with
      currentPeriodStart := 1769903999
      currentPeriodEnd := 1769904000 }
  have passed := (accepted item rfl).mpr (by decide)
  exact absurd passed (by decide)

end DataVault.Payments
