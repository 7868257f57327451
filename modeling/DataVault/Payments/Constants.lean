/-
Module: DataVault.Payments.Constants
Layer: Model
Purpose: The enumerations and durations of payments/payment.constants.ts, and the failures the services
  raise. Durations and instants are milliseconds.
Imports: DataVault.Plans.Catalog
Trusted boundary: human-reviewed spec
Main exports: PaymentAccess, PaymentSyncIssue, UsageDeliveryState, StripeSubscriptionStatus,
  isTerminalStripeStatus, stripeLeaseMs, stripeRetryWindowMs, Failure
-/
import DataVault.Plans.Catalog

namespace DataVault.Payments

open DataVault.Plans

inductive PaymentAccess where
  | unmanaged
  | deferred
  | active
  | suspended
deriving DecidableEq, Repr

inductive PaymentSyncIssue where
  | none
  | retryRequired
  | reconciliationRequired
  | planConflict
deriving DecidableEq, Repr

inductive UsageDeliveryState where
  | pending
  | submitted
  | reconciliationRequired
deriving DecidableEq, Repr

/-- `STRIPE_SUBSCRIPTION_STATUSES`. -/
inductive StripeSubscriptionStatus where
  | incomplete
  | incompleteExpired
  | trialing
  | active
  | pastDue
  | canceled
  | unpaid
  | paused
deriving DecidableEq, Repr

/-- `isTerminalStripeStatus`; a missing status is not terminal. -/
def isTerminalStripeStatus (status : Option StripeSubscriptionStatus) : Bool :=
  status = some .canceled || status = some .incompleteExpired

/-- `STRIPE_LEASE_MS`. -/
def stripeLeaseMs : Int := 5 * 60 * 1000

/-- `STRIPE_RETRY_WINDOW_MS`. -/
def stripeRetryWindowMs : Int := 23 * 60 * 60 * 1000

/-- `Number.isSafeInteger`, of an integer. -/
def isSafeInteger (n : Int) : Bool := -9007199254740991 ≤ n ∧ n ≤ 9007199254740991

/-- The exceptions of the services, with what they carry. `companyLeaseBusy` and the two plan limits are
conflicts, `paymentSyncValidation` and `checkoutMappingPending` are service-unavailable errors; `stripe`,
`database` and `duplicateKey` are errors raised by the Stripe client and the database driver. -/
inductive Failure where
  | badRequest (message : String)
  | forbidden (message : String)
  | notFound (message : String)
  | conflict (message : String)
  | planEmployeeLimit (message : String) (planCode : PlanCode) (limit employees pendingInvitations : Nat)
  | planFileLimit (message : String) (planCode : PlanCode) (limit storedFiles : Nat)
  | companyLeaseBusy (message : String)
  | employeeLimitReached (message : String) (limit employees pendingInvitations : Nat)
  | fileLimitReached (message : String) (limit : Nat)
  | internalServerError (message : String)
  | serviceUnavailable (message : String)
  | paymentSyncValidation (message : String)
  | checkoutMappingPending
  | invalidBillingPeriod
  | stripe
  | database
  | duplicateKey
deriving DecidableEq, Repr

/-- `error instanceof ConflictException`. -/
def Failure.isConflict : Failure → Bool
  | .conflict _ | .planEmployeeLimit .. | .planFileLimit .. | .companyLeaseBusy _ => true
  | _ => false

end DataVault.Payments
