import DataVault.Subscriptions.CleanupLaw
import DataVault.Ai.ConversationLimit
import DataVault.Ai.AgentLoop
import DataVault.Auth.OnboardingLaw
import DataVault.Admin.AccessProvenance
import DataVault.Auth.CredentialRevocation
import DataVault.Interleaving.Process
import DataVault.Interleaving.Contract
import DataVault.Subscriptions.BillingPeriod
import DataVault.Control.Fallible
import DataVault.Invitations.Lifecycle
import DataVault.Invitations.SeatCapacity
import DataVault.Maintenance.FreeRecovery
import DataVault.Maintenance.PromptSequences
import DataVault.Workbook.Redaction
import DataVault.Files.StoredFileCapacity
import DataVault.Payments.UsageDelivery
import DataVault.Control.Rerun
import DataVault.Interleaving.Following
import DataVault.Guard.SanitizedCopies
import DataVault.Guard.SubmissionLaw
import DataVault.Payments.AnniversaryCheck
import DataVault.Payments.CanonicalAccess
import DataVault.Payments.DocumentHistory
import DataVault.Payments.FreeAccess
import DataVault.Payments.LeaseFencing
import DataVault.Payments.SingleSubscription
import DataVault.Payments.TransactionReruns
import DataVault.Payments.UnknownEvents
import DataVault.Subscriptions.PeriodTiling
import DataVault.Store.Ledger
import DataVault.Subscriptions.Billing
import DataVault.Subscriptions.UsageAccounting
import DataVault.Payments.DraftRelease
import DataVault.Files.UploadCompensation
import DataVault.Files.ClientPaging
import DataVault.Workbook.ArchiveAgreement
import DataVault.Admin.StatusAudit
import DataVault.Ai.ContextHistory
import DataVault.Subscriptions.QuotaPreview
import DataVault.Files.Disposition
import DataVault.Workbook.LuhnCheck
import DataVault.Workbook.DetectionContext
import DataVault.Guard.ListingLaw
import DataVault.Ai.UsageExactness
import DataVault.Runner.Agreement
import DataVault.Maintenance.DisposableDeletion
import DataVault.Maintenance.SmokeRecovery
import DataVault.Payments.SyncFairness
