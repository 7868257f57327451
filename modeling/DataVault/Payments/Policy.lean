/-
Module: DataVault.Payments.Policy
Layer: Model
Purpose: `assertPaymentAccess` of payments/payment-policy.ts.
Imports: DataVault.Subscriptions.Entity
Trusted boundary: human-reviewed spec
Main exports: assertPaymentAccess, assertPaymentAccess_disabled, assertPaymentAccess_managed
-/
import DataVault.Subscriptions.Entity

namespace DataVault.Payments

open DataVault.Plans DataVault.Subscriptions

/-- The document allows uploads and onboarding under payments: `stripeManaged`, no reconciliation issue, an
active or deferred access and a synchronization in the last 24 hours. -/
def paymentInOrder (subscription : Subscription) (enabled : Bool) (now : Int) : Bool :=
  enabled && subscription.stripeManaged &&
    subscription.paymentSyncIssue != .reconciliationRequired &&
    (subscription.paymentAccess == .active || subscription.paymentAccess == .deferred) &&
    match subscription.stripeSyncedAt with
    | none => false
    | some syncedAt => !decide (now - syncedAt > 24 * 60 * 60 * 1000)

def assertPaymentAccess (subscription : Subscription) (enabled : Bool) (now : Int) :
    Except Failure Unit :=
  if subscription.planCode = .free ∧ !subscription.stripeManaged then .ok ()
  else if !enabled ∧ !subscription.stripeManaged then .ok ()
  else if !paymentInOrder subscription enabled now then
    .error (.forbidden
      "Company billing requires attention before new uploads or employee onboarding")
  else .ok ()

/-- With payments disabled only a company that Stripe never managed passes. -/
theorem assertPaymentAccess_disabled (subscription : Subscription) (now : Int) :
    assertPaymentAccess subscription false now = .ok () ↔ subscription.stripeManaged = false := by
  unfold assertPaymentAccess paymentInOrder
  cases subscription.stripeManaged <;> simp

/-- A company that Stripe manages passes exactly when its payments are in order. -/
theorem assertPaymentAccess_managed {subscription : Subscription} (managed : subscription.stripeManaged = true)
    (enabled : Bool) (now : Int) :
    assertPaymentAccess subscription enabled now = .ok () ↔ paymentInOrder subscription enabled now = true := by
  unfold assertPaymentAccess
  cases paymentInOrder subscription enabled now <;> simp [managed]

end DataVault.Payments
