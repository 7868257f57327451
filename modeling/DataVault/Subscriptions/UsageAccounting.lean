/-
Module: DataVault.Subscriptions.UsageAccounting
Layer: Proof
Purpose: The accounting of uploads over whole runs of `recordFileUploads`: the counters of the period rows and the
  metered usage rows, against a log of the committed uploads that the code does not keep. Between two uploads
  anything may happen to the subscriptions but to whose they are, to the stored files and to the delivery of the
  usage rows.
Imports: Mathlib.Algebra.Ring.Int.Defs, DataVault.Payments.Transition, DataVault.Store.Ledger, DataVault.Subscriptions.Billing
Trusted boundary: human-reviewed spec
Main exports: AccountingDb, AccountingDb.recordFileUploads, AccountingEvent, Accounted, usage_accounting
-/
import Mathlib.Algebra.Ring.Int.Defs
import DataVault.Payments.Transition
import DataVault.Store.Ledger
import DataVault.Subscriptions.Billing

namespace DataVault.Subscriptions

open DataVault.Control DataVault.Plans DataVault.Payments DataVault.Store

/-! ### The collections -/

/-- The unique index of the period rows. -/
def SubscriptionPeriod.key (row : SubscriptionPeriod) : Nat × Int := (row.companyId, row.startsAt)

/-- The period a usage row is charged to. -/
def periodKey (usage : StripeUsage) : Nat × Int := (usage.companyId, usage.periodStartsAt)

/-- A committed upload: the period it was counted in, the overage it added to the row of the period, and whether
Stripe managed the company. -/
structure UploadEntry where
  key : Nat × Int
  quantity : Nat
  cents : Nat
  managed : Bool
deriving DecidableEq, Repr

/-- The subscriptions and the number of stored files by company, the two collections that uploads write, and the
log of the uploads, newest first. -/
structure AccountingDb where
  subscriptions : Nat → Option Subscription := fun _ => none
  storedFiles : Nat → Nat := fun _ => 0
  periods : List SubscriptionPeriod := []
  usages : UsageTable := UsageTable.empty
  uploads : List UploadEntry := []

namespace AccountingDb

variable (db : AccountingDb)

def periodRow (key : Nat × Int) : Option SubscriptionPeriod := db.periods.find? fun row => row.key = key

/-- The counters of the row of a period, 0 where there is none yet. -/
def uploadedFiles (key : Nat × Int) : Nat := ((db.periodRow key).map (·.uploadedFiles)).getD 0

def overageCents (key : Nat × Int) : Nat := ((db.periodRow key).map (·.fileOverageCents)).getD 0

/-- The quantities of the usage rows of a period. -/
def meteredQuantity (key : Nat × Int) : Int :=
  ((db.usages.rows.filter fun usage => periodKey usage = key).map (·.quantity)).sum

/-- What the log says of a period. -/
def loggedFiles (key : Nat × Int) : Nat := tally (fun entry => entry.key = key) (·.quantity) db.uploads

def loggedCents (key : Nat × Int) : Nat := tally (fun entry => entry.key = key) (·.cents) db.uploads

def loggedManagedCents (key : Nat × Int) : Nat :=
  tally (fun entry => entry.key = key && entry.managed) (·.cents) db.uploads

/-- `usages.create`, where the upload is metered. -/
def storeUsage (usages : UsageTable) : Option StripeUsage → Except Failure UsageTable
  | none => .ok usages
  | some row => orFail (usages.insert row) .duplicateKey

/-- `recordFileUploads` in its transaction. -/
def recordFileUploads (enabled : Bool) (companyId quantity : Nat) (instant : Int) : Except Failure AccountingDb := do
  require (isSafeInteger quantity && 1 ≤ quantity) (.badRequest "File quantity must be a positive integer")
  let found ← orFail (db.subscriptions companyId) (.notFound "Company subscription not found")
  let subscription := { found with revision := found.revision + 1 }
  let record ← Subscriptions.recordFileUploads enabled subscription
    (fun period => db.periodRow (companyId, period.startsAt)) (db.storedFiles companyId) quantity instant
  let usages ← storeUsage db.usages record.usage
  let entry : UploadEntry :=
    { key := record.period.key
      quantity := quantity
      cents := record.period.fileOverageCents - db.overageCents record.period.key
      managed := subscription.stripeManaged }
  pure { db with
    subscriptions := Function.update db.subscriptions companyId (some subscription)
    periods := upsert SubscriptionPeriod.key record.period db.periods
    usages := usages
    uploads := entry :: db.uploads }

end AccountingDb

/-- What can happen: an upload, whose transaction may fail after its callback; a change of a subscription; files
stored or deleted; a delivery of a usage row. -/
inductive AccountingEvent where
  | recordFileUploads (enabled : Bool) (companyId quantity : Nat) (instant : Int) (commits : Bool)
  | subscription (doc : Subscription)
  | storedFiles (companyId count : Nat)
  | delivery (identifier : UsageIdentifier) (delivery : DeliveryUpdate)

namespace AccountingDb

variable (db : AccountingDb)

def next : AccountingEvent → AccountingDb
  | .recordFileUploads enabled companyId quantity instant commits =>
      match db.recordFileUploads enabled companyId quantity instant with
      | .ok after => if commits then after else db
      | .error _ => db
  | .subscription doc => { db with subscriptions := Function.update db.subscriptions doc.companyId (some doc) }
  | .storedFiles companyId count => { db with storedFiles := Function.update db.storedFiles companyId count }
  | .delivery identifier delivery => { db with usages := db.usages.update identifier delivery }

/-- A run from the empty collections. -/
def after (events : List AccountingEvent) : AccountingDb := events.foldl next {}

end AccountingDb

/-! ### One upload -/

/-- The overage of an upload is 50 cents for each of at most all its files. -/
theorem additionalOverage_sound {code : PlanCode} {storedFiles quantity cents : Nat}
    (charged : calculateAdditionalOverageCents (planCatalog code) storedFiles (storedFiles + quantity) = .ok cents) :
    50 ∣ cents ∧ cents ≤ 50 * quantity := by
  have unit : ∀ price, (planCatalog code).extraFilePriceCents = some price → price = 50 := by
    intro price priced
    cases code <;> cases priced
    rfl
  unfold calculateAdditionalOverageCents at charged
  split at charged
  · cases charged
  · split at charged
    · cases charged
      exact ⟨Nat.dvd_zero 50, Nat.zero_le _⟩
    · rename_i price priced
      obtain rfl := unit price priced
      dsimp only at charged
      split at charged
      · cases charged
      · cases charged
        have few : storedFiles + quantity - (planCatalog code).includedFilesPerMonth -
            (storedFiles - (planCatalog code).includedFilesPerMonth) ≤ quantity := by omega
        exact ⟨Nat.dvd_mul_left .., (Nat.mul_le_mul_right 50 few).trans_eq (Nat.mul_comm ..)⟩

/-- The row of a metered upload: its quantity is the overage in files, its identifier names the period and the
counter. -/
theorem enqueueOverage_quantity {enabled : Bool} {subscription : Subscription} {period : BillingPeriod}
    {sequence cents now : Int} {row : StripeUsage}
    (recorded : enqueueOverage enabled subscription period sequence cents now = .ok (some row)) :
    50 * row.quantity = cents ∧
      row.identifier = ⟨subscription.companyId, period.startsAt, sequence⟩ ∧
      periodKey row = (subscription.companyId, period.startsAt) := by
  simp only [enqueueOverage] at recorded
  repeat' split at recorded
  all_goals cases recorded
  rename_i whole late
  simp only [Bool.or_eq_true, not_or, bne_iff_ne, ne_eq, not_not] at whole
  exact ⟨(Int.mul_comm ..).trans whole.2, rfl, rfl⟩

/-- Under payments, a managed upload without a row adds no overage. -/
theorem enqueueOverage_none {subscription : Subscription} {period : BillingPeriod} {sequence cents now : Int}
    (managed : subscription.stripeManaged = true)
    (recorded : enqueueOverage true subscription period sequence cents now = .ok none) : cents = 0 := by
  simp only [enqueueOverage, managed, Bool.not_true, Bool.false_or, beq_iff_eq] at recorded
  repeat' split at recorded
  all_goals first
    | assumption
    | cases recorded

/-- What an upload of `quantity` files recorded against the row `before` of its period. -/
structure RecordedUpload (subscription : Subscription) (before : SubscriptionPeriod) (quantity cents : Nat)
    (record : UploadRecord) : Prop where
  unit : 50 ∣ cents
  few : cents ≤ 50 * quantity
  period : record.period =
    { before with
      uploadedFiles := before.uploadedFiles + quantity
      fileOverageCents := before.fileOverageCents + cents }
  unmetered : record.usage = none → subscription.stripeManaged = true → cents = 0
  metered : ∀ row, record.usage = some row → subscription.stripeManaged = true ∧ 50 * row.quantity = cents ∧
    row.identifier = ⟨before.companyId, before.startsAt, (before.uploadedFiles + quantity : Nat)⟩ ∧
    periodKey row = before.key

/-- The row of a period, or the one that the upsert inserts. -/
def rowOf (companyId : Nat) (usageOf : BillingPeriod → Option SubscriptionPeriod) (period : BillingPeriod) :
    SubscriptionPeriod :=
  (usageOf period).getD { companyId := companyId, startsAt := period.startsAt, endsAt := period.endsAt }

theorem rowOf_key {companyId : Nat} {usageOf : BillingPeriod → Option SubscriptionPeriod}
    (stored : ∀ period row, usageOf period = some row → row.key = (companyId, period.startsAt))
    (period : BillingPeriod) : (rowOf companyId usageOf period).key = (companyId, period.startsAt) := by
  unfold rowOf
  cases found : usageOf period with
  | none => rfl
  | some row => exact stored period row found

theorem recordFileUploads_recorded {enabled : Bool} {subscription : Subscription}
    {usageOf : BillingPeriod → Option SubscriptionPeriod} {storedFiles quantity : Nat} {instant : Int}
    {record : UploadRecord}
    (stored : ∀ period row, usageOf period = some row → row.key = (subscription.companyId, period.startsAt))
    (recorded : recordFileUploads enabled subscription usageOf storedFiles quantity instant = .ok record) :
    1 ≤ quantity ∧ ∃ (period : BillingPeriod) (cents : Nat),
      RecordedUpload subscription (rowOf subscription.companyId usageOf period) quantity cents record := by
  obtain ⟨_, valid, recorded⟩ := bind_ok_iff.mp recorded
  obtain ⟨_, access, recorded⟩ := bind_ok_iff.mp recorded
  obtain ⟨period, _, recorded⟩ := bind_ok_iff.mp recorded
  obtain ⟨_, _, recorded⟩ := bind_ok_iff.mp recorded
  obtain ⟨cents, charged, recorded⟩ := bind_ok_iff.mp recorded
  obtain ⟨unit, few⟩ := additionalOverage_sound charged
  have keyed := rowOf_key stored period
  have positive : 1 ≤ quantity := by
    simp only [require_ok_iff, Bool.and_eq_true, decide_eq_true_eq] at valid
    exact valid.2
  refine ⟨positive, period, cents, ?_⟩
  split at recorded
  · rename_i managed
    obtain ⟨usage, enqueued, recorded⟩ := bind_ok_iff.mp recorded
    cases recorded
    refine ⟨unit, few, rfl, ?_, ?_⟩
    · rintro rfl _
      have under : enabled = true := by
        cases enabled with
        | true => rfl
        | false => cases managed.symm.trans ((assertPaymentAccess_disabled _ _).mp access)
      rw [under] at enqueued
      exact Int.ofNat_eq_zero.mp (enqueueOverage_none managed enqueued)
    · rintro row rfl
      obtain ⟨quantities, identifier, key⟩ := enqueueOverage_quantity enqueued
      have company : (rowOf subscription.companyId usageOf period).companyId = subscription.companyId :=
        congrArg Prod.fst keyed
      have starts : (rowOf subscription.companyId usageOf period).startsAt = period.startsAt :=
        congrArg Prod.snd keyed
      refine ⟨managed, quantities, ?_, key.trans keyed.symm⟩
      rw [identifier, company, starts]
      rfl
  · rename_i unmanaged
    cases recorded
    exact ⟨unit, few, rfl, fun _ managed => absurd managed unmanaged, fun row metered => by cases metered⟩

/-! ### The books balance

The code keeps no log of uploads. The log is added to the state, and the invariant `Accounted` says that the
counters of a period, its charges and its metered quantities are the sums over the log; every event keeps it, and
the claims about single rows are read off it. -/

/-- The counters of every period are what the log says, the log is sound, the usage rows are named after counters
that were reached, and they meter the overage that was added under Stripe. -/
structure Accounted (db : AccountingDb) : Prop where
  owned : ∀ companyId subscription, db.subscriptions companyId = some subscription →
    subscription.companyId = companyId
  unique : (db.periods.map SubscriptionPeriod.key).Nodup
  files : ∀ key, db.uploadedFiles key = db.loggedFiles key
  cents : ∀ key, db.overageCents key = db.loggedCents key
  entries : ∀ entry ∈ db.uploads, 50 ∣ entry.cents ∧ entry.cents ≤ 50 * entry.quantity
  named : ∀ usage ∈ db.usages.rows, (usage.identifier.companyId, usage.identifier.periodStartsAt) = periodKey usage ∧
    usage.identifier.sequence ≤ (db.uploadedFiles (periodKey usage) : Nat)
  metered : ∀ key, 50 * db.meteredQuantity key = (db.loggedManagedCents key : Nat)

namespace Accounted

variable {db db' : AccountingDb}

theorem empty : Accounted {} where
  owned _ _ found := by cases found
  unique := List.nodup_nil
  files _ := rfl
  cents _ := rfl
  entries _ mem := absurd mem List.not_mem_nil
  named _ mem := absurd mem List.not_mem_nil
  metered _ := rfl

/-- The rows are sound. -/
theorem sound (accounted : Accounted db) : ∀ row ∈ db.periods, row.Sound := by
  intro row mem
  have found : db.periodRow row.key = some row := find_of_mem accounted.unique mem
  have files := accounted.files row.key
  have cents := accounted.cents row.key
  simp only [AccountingDb.uploadedFiles, AccountingDb.overageCents, found, Option.map_some, Option.getD_some]
    at files cents
  obtain ⟨extraFiles, total⟩ : 50 ∣ db.loggedCents row.key := dvd_tally fun entry mem => (accounted.entries entry mem).1
  have few : db.loggedCents row.key ≤ 50 * db.loggedFiles row.key := by
    calc db.loggedCents row.key
        ≤ tally (fun entry : UploadEntry => entry.key = row.key) (fun entry => 50 * entry.quantity) db.uploads :=
          tally_le fun entry mem => (accounted.entries entry mem).2
      _ = 50 * db.loggedFiles row.key := tally_mul 50
  exact ⟨extraFiles, by omega, by omega⟩

/-- A row is found under its own key. -/
theorem periodRow_key (db : AccountingDb) (companyId : Nat) (period : BillingPeriod) (row : SubscriptionPeriod)
    (found : db.periodRow (companyId, period.startsAt) = some row) : row.key = (companyId, period.startsAt) := by
  have matched := List.find?_some found
  exact of_decide_eq_true matched

/-- The counters of the row that an upload starts from. -/
theorem rowOf_counters (db : AccountingDb) (companyId : Nat) (period : BillingPeriod) :
    let before := rowOf companyId (fun period => db.periodRow (companyId, period.startsAt)) period
    before.key = (companyId, period.startsAt) ∧ db.uploadedFiles before.key = before.uploadedFiles ∧
      db.overageCents before.key = before.fileOverageCents := by
  have keyed := rowOf_key (periodRow_key db companyId) period
  dsimp only
  rw [keyed]
  constructor
  · rfl
  · simp only [rowOf, AccountingDb.uploadedFiles, AccountingDb.overageCents]
    cases db.periodRow (companyId, period.startsAt) with
    | none => exact ⟨rfl, rfl⟩
    | some row => exact ⟨rfl, rfl⟩

/-- What a successful upload does to the collections. -/
inductive Uploaded (db : AccountingDb) (companyId quantity : Nat) : AccountingDb → Prop
  | recorded {subscription : Subscription} {before : SubscriptionPeriod} {cents : Nat} {record : UploadRecord}
      {usages : UsageTable}
      (owned : subscription.companyId = companyId) (positive : 1 ≤ quantity)
      (upload : RecordedUpload subscription before quantity cents record)
      (files : db.uploadedFiles before.key = before.uploadedFiles)
      (overage : db.overageCents before.key = before.fileOverageCents)
      (metered : ∀ row, record.usage = some row → db.usages.insert row = some usages)
      (unmetered : record.usage = none → usages = db.usages) :
      Uploaded db companyId quantity
        { db with
          subscriptions := Function.update db.subscriptions companyId (some subscription)
          periods := upsert SubscriptionPeriod.key record.period db.periods
          usages := usages
          uploads := ⟨before.key, quantity, cents, subscription.stripeManaged⟩ :: db.uploads }

theorem uploaded (accounted : Accounted db) {enabled : Bool} {companyId quantity : Nat} {instant : Int}
    (committed : db.recordFileUploads enabled companyId quantity instant = .ok db') :
    Uploaded db companyId quantity db' := by
  obtain ⟨_, _, committed⟩ := bind_ok_iff.mp committed
  obtain ⟨found, locked, committed⟩ := bind_ok_iff.mp committed
  obtain ⟨record, recorded, committed⟩ := bind_ok_iff.mp committed
  obtain ⟨usages, stored, committed⟩ := bind_ok_iff.mp committed
  cases committed
  have owned := accounted.owned companyId found (orFail_ok_iff.mp locked)
  subst owned
  obtain ⟨positive, period, cents, upload⟩ := recordFileUploads_recorded (periodRow_key db _) recorded
  obtain ⟨_, files, overage⟩ := rowOf_counters db found.companyId period
  have charged : record.period.key = (rowOf found.companyId (fun period => db.periodRow
      (found.companyId, period.startsAt)) period).key := by
    rw [upload.period]
    rfl
  have added : record.period.fileOverageCents - db.overageCents record.period.key = cents := by
    rw [charged]
    have total := congrArg SubscriptionPeriod.fileOverageCents upload.period
    dsimp only at total overage
    omega
  have metered : ∀ row, record.usage = some row → db.usages.insert row = some usages := by
    intro row metered
    rw [metered] at stored
    exact orFail_ok_iff.mp stored
  have unmetered : record.usage = none → usages = db.usages := by
    intro unmetered
    rw [unmetered] at stored
    cases stored
    rfl
  have done := Uploaded.recorded rfl positive upload files overage metered unmetered
  rwa [← added, ← charged] at done

/-- The counters after an upload: those of the period it was counted in have grown. -/
theorem counters_upload {before row : SubscriptionPeriod} {quantity cents : Nat} {key : Nat × Int}
    (files : db.uploadedFiles before.key = before.uploadedFiles)
    (overage : db.overageCents before.key = before.fileOverageCents)
    (charged : row = { before with
      uploadedFiles := before.uploadedFiles + quantity
      fileOverageCents := before.fileOverageCents + cents })
    (stored : db'.periods = upsert SubscriptionPeriod.key row db.periods) :
    db'.uploadedFiles key = (if before.key = key then quantity else 0) + db.uploadedFiles key ∧
      db'.overageCents key = (if before.key = key then cents else 0) + db.overageCents key := by
  have keyed : row.key = before.key := by
    rw [charged]
    rfl
  by_cases same : before.key = key
  · subst same
    have found : db'.periodRow before.key = some row := by
      rw [← keyed, AccountingDb.periodRow, stored]
      exact find_upsert_self
    simp only [AccountingDb.uploadedFiles, AccountingDb.overageCents, found] at files overage ⊢
    rw [files, overage, charged]
    exact ⟨by simp [Nat.add_comm], by simp [Nat.add_comm]⟩
  · have kept : db'.periodRow key = db.periodRow key := by
      rw [AccountingDb.periodRow, stored]
      exact find_upsert_other fun equal => same (keyed.symm.trans equal.symm)
    simp only [AccountingDb.uploadedFiles, AccountingDb.overageCents, kept, if_neg same, Nat.zero_add]
    exact ⟨trivial, trivial⟩

/-- The quantities metered after an upload. -/
theorem meteredQuantity_insert {row : StripeUsage} {key : Nat × Int}
    (inserted : db.usages.insert row = some db'.usages) :
    db'.meteredQuantity key = (if periodKey row = key then row.quantity else 0) + db.meteredQuantity key := by
  unfold AccountingDb.meteredQuantity
  rw [PaymentStep.insert_rows inserted]
  by_cases same : periodKey row = key
  · simp [same]
  · simp [same]

/-- A subscription stays with its company. -/
theorem owned_update {subscriptions : Nat → Option Subscription} {doc : Subscription}
    (owned : ∀ companyId subscription, subscriptions companyId = some subscription →
      subscription.companyId = companyId) :
    ∀ companyId subscription, Function.update subscriptions doc.companyId (some doc) companyId = some subscription →
      subscription.companyId = companyId := by
  intro companyId subscription found
  by_cases same : companyId = doc.companyId
  · subst same
    rw [Function.update_self] at found
    cases found
    rfl
  · rw [Function.update_of_ne same] at found
    exact owned companyId subscription found

/-- An upload keeps the books. -/
theorem upload (accounted : Accounted db) {companyId quantity : Nat} (done : Uploaded db companyId quantity db') :
    Accounted db' := by
  cases done with
  | @recorded subscription before cents record usages owned positive upload files overage metered unmetered =>
      let after : AccountingDb := { db with
        subscriptions := Function.update db.subscriptions companyId (some subscription)
        periods := upsert SubscriptionPeriod.key record.period db.periods
        usages := usages
        uploads := ⟨before.key, quantity, cents, subscription.stripeManaged⟩ :: db.uploads }
      have counters := fun key => @counters_upload db after before record.period quantity cents key files overage
        upload.period rfl
      constructor
      case owned =>
        subst owned
        exact owned_update accounted.owned
      case unique => exact nodup_upsert accounted.unique
      case files =>
        intro key
        rw [(counters key).1, accounted.files key]
        simp [AccountingDb.loggedFiles]
      case cents =>
        intro key
        rw [(counters key).2, accounted.cents key]
        simp [AccountingDb.loggedCents]
      case entries =>
        intro entry mem
        rcases List.mem_cons.mp mem with rfl | mem
        · exact ⟨upload.unit, upload.few⟩
        · exact accounted.entries entry mem
      case named =>
        have older : ∀ usage ∈ db.usages.rows,
            (usage.identifier.companyId, usage.identifier.periodStartsAt) = periodKey usage ∧
              usage.identifier.sequence ≤
                ((if before.key = periodKey usage then quantity else 0) + db.uploadedFiles (periodKey usage) : Nat) := by
          intro usage mem
          obtain ⟨keyed, reached⟩ := accounted.named usage mem
          exact ⟨keyed, reached.trans (Int.ofNat_le.mpr (Nat.le_add_left ..))⟩
        intro usage mem
        rw [(counters (periodKey usage)).1]
        cases recorded : record.usage with
        | none =>
            rw [unmetered recorded] at mem
            exact older usage mem
        | some row =>
            rw [PaymentStep.insert_rows (metered row recorded)] at mem
            rcases List.mem_cons.mp mem with rfl | mem
            · obtain ⟨_, _, identifier, keyed⟩ := upload.metered usage recorded
              rw [identifier, keyed, if_pos rfl, files]
              exact ⟨rfl, Int.ofNat_le.mpr (Nat.add_comm ..).le⟩
            · exact older usage mem
      case metered =>
        intro key
        cases recorded : record.usage with
        | none =>
            have same := unmetered recorded
            subst same
            have free : (if before.key = key && subscription.stripeManaged then cents else 0) = 0 := by
              cases managed : subscription.stripeManaged with
              | true => simp [upload.unmetered recorded managed]
              | false => simp
            have unchanged := accounted.metered key
            simp only [AccountingDb.loggedManagedCents, tally_cons] at unchanged ⊢
            rw [free, Nat.zero_add]
            exact unchanged
        | some row =>
            obtain ⟨managed, whole, _, keyed⟩ := upload.metered row recorded
            rw [@meteredQuantity_insert db _ row key (metered row recorded), keyed, Int.mul_add, accounted.metered key]
            simp only [AccountingDb.loggedManagedCents, tally_cons, managed, Bool.and_true, decide_eq_true_eq]
            by_cases same : before.key = key
            · rw [if_pos same, if_pos same, whole]
              exact (Int.natCast_add ..).symm
            · rw [if_neg same, if_neg same, Int.mul_zero, Int.zero_add, Nat.zero_add]

/-- The identifier of an upload is new: the counter it names has not been reached. -/
theorem fresh (accounted : Accounted db) {subscription : Subscription} {before : SubscriptionPeriod}
    {quantity cents : Nat} {record : UploadRecord} {row : StripeUsage} (positive : 1 ≤ quantity)
    (upload : RecordedUpload subscription before quantity cents record)
    (files : db.uploadedFiles before.key = before.uploadedFiles) (metered : record.usage = some row) :
    row.identifier ∉ db.usages.rows.map StripeUsage.identifier := by
  intro taken
  obtain ⟨usage, mem, same⟩ := List.mem_map.mp taken
  obtain ⟨_, _, identifier, _⟩ := upload.metered row metered
  obtain ⟨keyed, reached⟩ := accounted.named usage mem
  rw [same, identifier] at keyed reached
  rw [← keyed] at reached
  have grown := Int.ofNat_le.mp (reached.trans (Int.ofNat_le.mpr files.le))
  omega

/-- What is left to fail in an upload is not the unique index. -/
theorem stores (accounted : Accounted db) {subscription : Subscription} {before : SubscriptionPeriod}
    {quantity cents : Nat} {record : UploadRecord} (positive : 1 ≤ quantity)
    (upload : RecordedUpload subscription before quantity cents record)
    (files : db.uploadedFiles before.key = before.uploadedFiles) :
    AccountingDb.storeUsage db.usages record.usage ≠ .error .duplicateKey := by
  cases metered : record.usage with
  | none =>
      intro failed
      cases failed
  | some row =>
      have new := accounted.fresh positive upload files metered
      simp only [AccountingDb.storeUsage, UsageTable.insert, dif_pos new, orFail]
      intro failed
      cases failed

/-- A delivery moves no row to another period and meters nothing. -/
theorem delivery (accounted : Accounted db) (identifier : UsageIdentifier) (delivery : DeliveryUpdate) :
    Accounted { db with usages := db.usages.update identifier delivery } := by
  have charge : ∀ usage, (if usage.identifier = identifier then delivery.apply usage else usage).quantity =
      usage.quantity ∧ periodKey (if usage.identifier = identifier then delivery.apply usage else usage) =
        periodKey usage ∧
      (if usage.identifier = identifier then delivery.apply usage else usage).identifier = usage.identifier := by
    intro usage
    split
    · cases delivery <;> exact ⟨rfl, rfl, rfl⟩
    · exact ⟨rfl, rfl, rfl⟩
  constructor
  case owned => exact accounted.owned
  case unique => exact accounted.unique
  case files => exact accounted.files
  case cents => exact accounted.cents
  case entries => exact accounted.entries
  case named =>
    intro usage mem
    obtain ⟨old, stored, rfl⟩ := List.mem_map.mp mem
    obtain ⟨_, keyed, named⟩ := charge old
    rw [keyed, named]
    exact accounted.named old stored
  case metered =>
    intro key
    have same : AccountingDb.meteredQuantity { db with usages := db.usages.update identifier delivery } key =
        db.meteredQuantity key := by
      simp only [AccountingDb.meteredQuantity, UsageTable.update, List.filter_map, List.map_map]
      have kept : (fun usage => decide (periodKey usage = key)) ∘ (fun usage : StripeUsage =>
          if usage.identifier = identifier then delivery.apply usage else usage) =
          fun usage => decide (periodKey usage = key) := by
        funext usage
        rw [Function.comp, (charge usage).2.1]
      have quantities : (fun usage : StripeUsage => usage.quantity) ∘ (fun usage : StripeUsage =>
          if usage.identifier = identifier then delivery.apply usage else usage) = fun usage => usage.quantity :=
        funext fun usage => (charge usage).1
      rw [kept, quantities]
    rw [same]
    exact accounted.metered key

/-- Every event keeps the books. -/
theorem next (accounted : Accounted db) (event : AccountingEvent) : Accounted (db.next event) := by
  cases event with
  | recordFileUploads enabled companyId quantity instant commits =>
      unfold AccountingDb.next
      dsimp only
      split
      · rename_i after committed
        split
        · exact accounted.upload (accounted.uploaded committed)
        · exact accounted
      · exact accounted
  | subscription doc => exact { accounted with owned := owned_update accounted.owned }
  | storedFiles companyId count => exact { accounted with }
  | delivery identifier delivery => exact accounted.delivery identifier delivery

theorem after (events : List AccountingEvent) : Accounted (AccountingDb.after events) := by
  suffices run : ∀ db, Accounted db → Accounted (events.foldl AccountingDb.next db) from run {} empty
  induction events with
  | nil => exact fun _ accounted => accounted
  | cons event rest ih => exact fun db accounted => ih (db.next event) (accounted.next event)

end Accounted

/-! ### No upload meets its own identifier again

The identifier of a usage row names the period and the counter before the upload. Counters only grow, so an
identifier that is stored names a counter that was passed, and the unique index never rejects an upload. -/

theorem enqueueOverage_unique {enabled : Bool} {subscription : Subscription} {period : BillingPeriod}
    {sequence cents now : Int} :
    enqueueOverage enabled subscription period sequence cents now ≠ .error .duplicateKey := by
  intro failed
  simp only [enqueueOverage] at failed
  repeat' split at failed
  all_goals cases failed

/-- Nothing before the write of the usage row fails with a duplicate key. -/
theorem recordFileUploads_unique {enabled : Bool} {subscription : Subscription}
    {usageOf : BillingPeriod → Option SubscriptionPeriod} {storedFiles quantity : Nat} {instant : Int} :
    recordFileUploads enabled subscription usageOf storedFiles quantity instant ≠ .error .duplicateKey := by
  have access : assertPaymentAccess subscription enabled instant ≠ .error .duplicateKey := by
    unfold assertPaymentAccess
    repeat' split
    all_goals exact fun failed => by cases failed
  have limit : ∀ plan target files, storedFileLimit plan target files ≠ .error .duplicateKey := by
    intro plan target files
    unfold storedFileLimit
    split <;> exact fun failed => by cases failed
  have charge : ∀ plan before after, calculateAdditionalOverageCents plan before after ≠ .error .duplicateKey := by
    intro plan before after failed
    simp only [calculateAdditionalOverageCents] at failed
    repeat' split at failed
    all_goals cases failed
  refine bind_ne_error (require_ne_error nofun) fun _ _ => bind_ne_error access fun _ _ => ?_
  refine bind_ne_error (orFail_ne_error nofun) fun period _ => bind_ne_error (limit _ _ _) fun _ _ => ?_
  refine bind_ne_error (charge _ _ _) fun cents _ => ?_
  split
  · exact bind_ne_error enqueueOverage_unique fun _ _ failed => by cases failed
  · exact fun failed => by cases failed

/-- An upload from balanced books does not fail with a duplicate key. -/
theorem Accounted.no_duplicate {db : AccountingDb} (accounted : Accounted db) (enabled : Bool)
    (companyId quantity : Nat) (instant : Int) :
    db.recordFileUploads enabled companyId quantity instant ≠ .error .duplicateKey := by
  refine bind_ne_error (require_ne_error nofun) fun _ _ =>
    bind_ne_error (orFail_ne_error nofun) fun found locked => ?_
  have owned := accounted.owned companyId found (orFail_ok_iff.mp locked)
  subst owned
  refine bind_ne_error recordFileUploads_unique fun record recorded => ?_
  obtain ⟨counted, period, cents, upload⟩ := recordFileUploads_recorded (periodRow_key db _) recorded
  obtain ⟨_, files, _⟩ := rowOf_counters db found.companyId period
  exact bind_ne_error (accounted.stores counted upload files) fun _ _ failed => by cases failed

/-! ### Over whole runs -/

/-- The accounting of uploads is exact in every run: each row charges 50 cents for at most its uploads, so that
the calculation accepts it; the identifiers of the usage rows differ, without any upload having failed for it; the
counters of a period are the sums over the committed uploads; and its usage rows meter what was added under
Stripe. -/
theorem usage_accounting (events : List AccountingEvent) :
    let db := AccountingDb.after events
    (∀ row ∈ db.periods, row.Sound) ∧
    (∀ row ∈ db.periods, ∀ subscription (employeeCount : Nat) instant, isSafeInteger row.uploadedFiles →
      isSafeInteger row.fileOverageCents → isSafeInteger employeeCount →
      calculate subscription (some row) employeeCount instant ≠ .error invalidAccounting) ∧
    (db.usages.rows.map StripeUsage.identifier).Nodup ∧
    (∀ enabled companyId quantity instant,
      db.recordFileUploads enabled companyId quantity instant ≠ .error .duplicateKey) ∧
    (∀ key, db.uploadedFiles key = db.loggedFiles key ∧ db.overageCents key = db.loggedCents key) ∧
    ∀ key, 50 * db.meteredQuantity key = db.loggedManagedCents key := by
  have accounted := Accounted.after events
  dsimp only
  refine ⟨accounted.sound, ?_, (AccountingDb.after events).usages.unique, accounted.no_duplicate, ?_,
    accounted.metered⟩
  · intro row mem subscription employeeCount instant uploads cents counted
    apply calculate_accepts counted
    intro stored found
    cases found
    exact ⟨accounted.sound row mem, uploads, cents⟩
  · intro key
    exact ⟨accounted.files key, accounted.cents key⟩

/-- A company on the premium plan that Stripe manages. -/
def managedPremium : Subscription :=
  { companyId := 7
    planCode := .premium
    activatedAt := 0
    planChangedAt := 0
    stripeManaged := true
    stripeCustomerId := some 1
    stripeSubscriptionId := some 2
    stripeStatus := some .active
    paymentAccess := .active
    stripeSyncedAt := some 0 }

/-- Three files on 999 stored ones; one more, whose transaction fails; and, after a deletion and a delivery, two
more. -/
def extraFiles : List AccountingEvent :=
  [.subscription managedPremium, .storedFiles 7 999, .recordFileUploads true 7 3 60000 true,
    .storedFiles 7 1002, .recordFileUploads true 7 1 61000 false, .storedFiles 7 1001,
    .delivery ⟨7, 0, 3⟩ (.submitted 62000), .recordFileUploads true 7 2 63000 true]

theorem usage_accounting_extra_files :
    ∃ row ∈ (AccountingDb.after extraFiles).periods, row.uploadedFiles = 5 ∧ row.fileOverageCents = 200 ∧
      calculate managedPremium (some row) 4 64000 ≠ .error invalidAccounting ∧
      50 * (AccountingDb.after extraFiles).meteredQuantity row.key = 200 := by
  have played : ((AccountingDb.after extraFiles).periods.any fun row =>
      row.uploadedFiles = 5 ∧ row.fileOverageCents = 200 ∧
        (AccountingDb.after extraFiles).loggedManagedCents row.key = 200) = true := by decide +kernel
  obtain ⟨row, mem, reached⟩ := List.any_eq_true.mp played
  obtain ⟨uploads, cents, managed⟩ := of_decide_eq_true reached
  obtain ⟨_, accepted, _, _, _, metered⟩ := usage_accounting extraFiles
  refine ⟨row, mem, uploads, cents, ?_, ?_⟩
  · apply accepted row mem
    · rw [uploads]
      rfl
    · rw [cents]
      rfl
    · rfl
  · rw [metered row.key, managed]
    rfl

end DataVault.Subscriptions
