/-
Module: DataVault.Subscriptions.Entity
Layer: Model
Purpose: The subscription document of subscriptions/entities/subscription.entity.ts as the services load it.
  The two lease fields are `select: false` and never part of a loaded document. Identifiers (object ids,
  Stripe ids, UUIDs) are numbers: the code only compares them.
Imports: DataVault.Payments.Constants
Trusted boundary: human-reviewed spec
Main exports: Subscription
-/
import DataVault.Payments.Constants

namespace DataVault.Subscriptions

open DataVault.Plans DataVault.Payments

/-- Defaults are those of the schema. -/
structure Subscription where
  companyId : Nat
  planCode : PlanCode := .free
  activatedAt : Int
  planChangedAt : Int
  revision : Nat := 0
  stripeManaged : Bool := false
  stripeCustomerId : Option Nat := none
  stripeSubscriptionId : Option Nat := none
  stripeStatus : Option StripeSubscriptionStatus := none
  paymentAccess : PaymentAccess := .unmanaged
  paymentSyncIssue : PaymentSyncIssue := .none
  stripeCancelAtPeriodEnd : Bool := false
  pendingPlanCode : Option PlanCode := none
  pendingPlanAt : Option Int := none
  stripeScheduleId : Option Nat := none
  stripeChangeOperation : Option Nat := none
  stripeCheckoutAttemptAt : Option Int := none
  stripeCustomerAttemptAt : Option Int := none
  stripeSubscriptionAttemptAt : Option Int := none
  stripePlanAttemptAt : Option Int := none
  stripePlanConfirmed : Bool := false
  stripePlanEmployees : Option Nat := none
  stripeCheckoutEmployees : Option Nat := none
  stripeCheckoutOperation : Option Nat := none
  stripeCheckoutSessionId : Option Nat := none
  stripeCheckoutPlan : Option PlanCode := none
  stripeSyncedAt : Option Int := none
  stripeMeterStartedAt : Option Int := none
  stripeNextSyncAt : Option Int := none
deriving DecidableEq, Repr

/-- The plan a capacity check uses beside the current one: the queued plan, or the current one again. -/
def Subscription.targetPlan (subscription : Subscription) : PlanCode :=
  subscription.pendingPlanCode.getD subscription.planCode

end DataVault.Subscriptions
