/-
Module: DataVault.Maintenance.DisposableDeletion
Layer: Proof
Purpose: What the deletion of an untouched sign-up takes away: the company with its owner, its subscription and its
  verification record, and nothing else. Afterwards nothing refers to the company or its owner any more. The inspection
  decides all of it: a dry run says what the deletion then does.
Imports: DataVault.Maintenance.DisposableCompany
Trusted boundary: none
Main exports: Inspected, inspect_ok, erased, Unreferenced, Deletion, cleanup_outcome, dry_run_predicts
-/
import DataVault.Maintenance.DisposableCompany

namespace DataVault.Maintenance.DisposableCompany

open Control Plans Store

variable {db db' : CleanupCollections} {companyId ownerId : ObjectId} {checked : Checked} {options : CleanupOptions}

/-! ### What the inspection has found -/

/-- The records that the deletion takes are those that it names, and nothing else refers to the company or the owner. -/
structure Inspected (db : CleanupCollections) (companyId : ObjectId) (checked : Checked) : Prop where
  company : ∃ company, db.companies.find? (fun record => sameId record "_id" companyId) = some company ∧
    company.get "activatedAt" = some .null
  owner : ∃ owner, db.users.filter (tenant companyId) = [owner] ∧ ownerFilter companyId checked owner = true
  subscription : ∃ subscription, db.subscriptions.filter (tenant companyId) = [subscription] ∧
    subscriptionFilter companyId checked subscription = true
  verifications : ∀ record ∈ db.verifications,
    verificationFilter companyId checked record = tenantOr companyId "ownerId" checked.owner record
  verified : countDocuments db.verifications (tenantOr companyId "ownerId" checked.owner) = checked.verifications.length
  single : checked.verifications.length ≤ 1
  files : countDocuments db.files (tenantOr companyId "uploaderId" checked.owner) = 0
  invitations : countDocuments db.invitations (tenantOr companyId "invitedBy" checked.owner) = 0
  periods : countDocuments db.periods (tenant companyId) = 0
  stripeEvents : countDocuments db.stripeEvents (tenant companyId) = 0
  stripeUsage : countDocuments db.stripeUsage (tenant companyId) = 0
  aiConversations : countDocuments db.aiConversations (tenantOr companyId "userId" checked.owner) = 0
  aiMessages : countDocuments db.aiMessages (tenantOr companyId "userId" checked.owner) = 0
  aiUsage : countDocuments db.aiUsage (tenantOr companyId "userId" checked.owner) = 0
  audits : countDocuments db.audits (audited companyId checked.owner) = 0

theorem theOnly_eq_some {records : List StoredRecord} {record : StoredRecord} :
    theOnly records = some record ↔ records = [record] := by
  match records with
  | [] => simp [theOnly]
  | [one] => simp [theOnly]
  | _ :: _ :: _ => simp [theOnly]

theorem objectIdOf_eq_some {record : StoredRecord} {field : String} {id : ObjectId} :
    objectIdOf record field = some id ↔ record.get field = some (.objectId id) := by
  unfold objectIdOf
  split
  · rename_i stored found
    simp [found]
  · rename_i other
    constructor
    · intro found
      cases found
    · intro found
      exact absurd found (other id)

/-- A projection leaves the other fields. -/
theorem get_erase {record : StoredRecord} {field hidden : String} (differs : field ≠ hidden) :
    Document.get (record.erase hidden) field = record.get field :=
  AList.lookup_erase_ne differs

theorem refers_of_sameId {record : StoredRecord} {field : String} {id : ObjectId}
    (same : sameId record field id = true) : refers field id record = true := by
  simp only [sameId, decide_eq_true_eq] at same
  simp [refers, refersTo, same]

theorem inspectOwner_ok (read : inspectOwner db companyId = .ok ownerId) :
    ∃ owner, db.users.filter (tenant companyId) = [owner] ∧ owner.get "_id" = some (.objectId ownerId) ∧
      sameId owner "companyId" companyId = true ∧ owner.get "role" = some companyOwner := by
  simp only [inspectOwner, bind_ok_iff, orFail_ok_iff, require_ok_iff, theOnly_eq_some, List.map_eq_singleton_iff,
    Bool.and_eq_true, decide_eq_true_eq, objectIdOf_eq_some] at read
  obtain ⟨_, ⟨owner, only, rfl⟩, _, ⟨⟨⟨role, company⟩, _⟩, _⟩, id⟩ := read
  rw [get_erase (by decide)] at role id
  rw [sameId, get_erase (by decide)] at company
  exact ⟨owner, only, id, company, role⟩

theorem inspectSubscription_ok {subscriptionId : ObjectId} (read : inspectSubscription db companyId = .ok subscriptionId) :
    ∃ subscription, db.subscriptions.filter (tenant companyId) = [subscription] ∧
      subscription.get "_id" = some (.objectId subscriptionId) ∧ sameId subscription "companyId" companyId = true ∧
      subscription.get "planCode" = some (storedPlan .free) ∧ subscription.get "revision" = some (.integer 0) := by
  simp only [inspectSubscription, bind_ok_iff, orFail_ok_iff, require_ok_iff, theOnly_eq_some, Bool.and_eq_true,
    decide_eq_true_eq, objectIdOf_eq_some] at read
  obtain ⟨subscription, only, id, found, _, shape, done⟩ := read
  cases done
  exact ⟨subscription, only, found, shape.1.1.1.1.1.1.1.1.1.1, shape.1.1.1.1.1.1.1.1.1.2, shape.1.1.1.1.1.1.1.1.2⟩

/-- Every record that refers to the company or the owner is one of those named. -/
theorem inspectVerifications_ok {verifications : List ObjectId}
    (read : inspectVerifications db companyId ownerId = .ok verifications) :
    verifications.length ≤ 1 ∧
      verifications.length = countDocuments db.verifications (tenantOr companyId "ownerId" ownerId) ∧
      ∀ record ∈ db.verifications, tenantOr companyId "ownerId" ownerId record = true →
        (∃ id ∈ verifications, record.get "_id" = some (.objectId id)) ∧ sameId record "companyId" companyId = true ∧
          sameId record "ownerId" ownerId = true := by
  simp only [inspectVerifications, bind_ok_iff, require_ok_iff, Bool.and_eq_true, decide_eq_true_eq, List.all_eq_true,
    List.forall_mem_map, List.length_map, Option.isSome_iff_exists, objectIdOf_eq_some] at read
  obtain ⟨_, ⟨few, sound⟩, done⟩ := read
  cases done
  have named : ((db.verifications.filter (tenantOr companyId "ownerId" ownerId)).map fun record =>
      record.erase "tokenHash").filterMap (fun record => objectIdOf record "_id") =
        (db.verifications.filter (tenantOr companyId "ownerId" ownerId)).filterMap fun record =>
          objectIdOf record "_id" := by
    rw [List.filterMap_map]
    refine List.filterMap_congr fun record _ => ?_
    simp only [Function.comp, objectIdOf, get_erase (by decide : "_id" ≠ "tokenHash")]
  have all : ((db.verifications.filter (tenantOr companyId "ownerId" ownerId)).filterMap fun record =>
      objectIdOf record "_id").length = (db.verifications.filter (tenantOr companyId "ownerId" ownerId)).length := by
    rw [List.filterMap_length_eq_length]
    intro record mem
    obtain ⟨⟨⟨⟨id, found⟩, _⟩, _⟩, _⟩ := sound record mem
    rw [get_erase (by decide)] at found
    rw [objectIdOf_eq_some.mpr found]
    rfl
  rw [named]
  refine ⟨all ▸ few, by rw [all, countDocuments, List.countP_eq_length_filter], fun record mem refering => ?_⟩
  have listed := List.mem_filter.mpr ⟨mem, refering⟩
  obtain ⟨⟨⟨⟨id, found⟩, company⟩, owner⟩, _⟩ := sound record listed
  rw [get_erase (by decide)] at found
  rw [sameId, get_erase (by decide)] at company owner
  exact ⟨⟨id, List.mem_filterMap.mpr ⟨record, listed, objectIdOf_eq_some.mpr found⟩, found⟩, company, owner⟩

theorem inspect_ok (read : inspect db companyId = .ok checked) : Inspected db companyId checked := by
  simp only [inspect, bind_ok_iff] at read
  obtain ⟨_, company, ownerId, owner, subscriptionId, subscription, _, history, named, verifications, done⟩ := read
  cases done
  obtain ⟨few, counted, sound⟩ := inspectVerifications_ok verifications
  simp only [inspectHistory, bind_ok_iff, require_ok_iff, Bool.and_eq_true, decide_eq_true_eq] at history
  obtain ⟨_, files, _, invitations, _, periods, _, stripe, _, ai, audits⟩ := history
  simp only [inspectCompany, bind_ok_iff, orFail_ok_iff, require_ok_iff, decide_eq_true_eq] at company
  obtain ⟨found, present, _, inactive, _⟩ := company
  constructor
  case company => exact ⟨found, present, inactive⟩
  case owner =>
    obtain ⟨record, only, id, tenancy, role⟩ := inspectOwner_ok owner
    have named : sameId record "_id" ownerId = true := by simp [sameId, id]
    exact ⟨record, only, by simp [ownerFilter, named, tenancy, role]⟩
  case subscription =>
    obtain ⟨record, only, id, tenancy, plan, revision⟩ := inspectSubscription_ok subscription
    have named : sameId record "_id" subscriptionId = true := by simp [sameId, id]
    exact ⟨record, only, by simp [subscriptionFilter, named, tenancy, plan, revision]⟩
  case verifications =>
    intro record mem
    rw [Bool.eq_iff_iff]
    constructor
    · intro selected
      simp only [verificationFilter, Bool.and_eq_true] at selected
      simp [tenantOr, tenant, refers_of_sameId selected.1.2]
    · intro refering
      obtain ⟨⟨id, listed, stored⟩, company, owner⟩ := sound record mem refering
      simp only [verificationFilter, Bool.and_eq_true, List.any_eq_true, decide_eq_true_eq]
      exact ⟨⟨⟨id, listed, stored⟩, company⟩, owner⟩
  case verified => exact counted.symm
  case single => exact few
  case files => exact files
  case invitations => exact invitations
  case periods => exact periods
  case stripeEvents => exact stripe.1
  case stripeUsage => exact stripe.2
  case aiConversations => exact ai.1.1
  case aiMessages => exact ai.1.2
  case aiUsage => exact ai.2
  case audits => exact audits

/-! ### The deletion -/

/-- The identifiers of companies and users are unique. -/
structure Distinct (db : CleanupCollections) : Prop where
  companies : (db.companies.map fun record => record.get "_id").Nodup
  users : (db.users.map fun record => record.get "_id").Nodup

/-- The collections without what belongs to the company and its owner. -/
def erased (db : CleanupCollections) (companyId ownerId : ObjectId) : CleanupCollections :=
  { db with
    companies := db.companies.filter fun record => !sameId record "_id" companyId
    users := db.users.filter fun record => !tenant companyId record
    subscriptions := db.subscriptions.filter fun record => !tenant companyId record
    verifications := db.verifications.filter fun record => !tenantOr companyId "ownerId" ownerId record }

/-- A record with a unique identifier is the only one that has it. -/
theorem filter_of_find {records : List StoredRecord} {record : StoredRecord} {id : ObjectId}
    (distinct : (records.map fun record => record.get "_id").Nodup)
    (found : records.find? (fun record => sameId record "_id" id) = some record) :
    records.filter (fun record => sameId record "_id" id) = [record] := by
  induction records with
  | nil => cases found
  | cons first rest ih =>
      rw [List.map_cons, List.nodup_cons] at distinct
      cases matched : sameId first "_id" id with
      | true =>
          simp only [List.find?_cons, matched, Option.some.injEq] at found
          subst found
          simp only [List.filter_cons, matched, if_true, List.cons.injEq, true_and, List.filter_eq_nil_iff]
          intro other mem same
          simp only [sameId, decide_eq_true_eq] at matched same
          exact distinct.1 (List.mem_map.mpr ⟨other, mem, same.trans matched.symm⟩)
      | false =>
          simp only [List.find?_cons, matched] at found
          simpa only [List.filter_cons, matched, Bool.false_eq_true, if_false] using ih distinct.2 found

theorem tenant_of_ownerFilter {record : StoredRecord} (selected : ownerFilter companyId checked record = true) :
    tenant companyId record = true := by
  simp only [ownerFilter, Bool.and_eq_true] at selected
  exact refers_of_sameId selected.1.2

theorem tenant_of_subscriptionFilter {record : StoredRecord}
    (selected : subscriptionFilter companyId checked record = true) : tenant companyId record = true := by
  simp only [subscriptionFilter, Bool.and_eq_true] at selected
  exact refers_of_sameId selected.1.1.2

theorem deleteOne_only {filter wider : StoredRecord → Bool} {records : List StoredRecord} {record : StoredRecord}
    (only : records.filter wider = [record]) (narrower : ∀ other, filter other = true → wider other = true)
    (accepted : filter record = true) : deleteOne filter records = (1, records.filter fun other => !wider other) := by
  rw [deleteOne, findOneAndDelete_only only narrower accepted]

/-- A record that matches is deleted, or an earlier one. -/
theorem deleteOne_count {filter : StoredRecord → Bool} {records : List StoredRecord} {record : StoredRecord}
    (mem : record ∈ records) (accepted : filter record = true) : (deleteOne filter records).1 = 1 := by
  unfold deleteOne
  cases found : findOneAndDelete filter records with
  | some deleted => rfl
  | none =>
      exfalso
      induction records with
      | nil => cases mem
      | cons first rest ih =>
          rw [findOneAndDelete] at found
          split at found
          · cases found
          · rename_i passed
            rcases List.mem_cons.mp mem with rfl | later
            · exact passed accepted
            · exact ih later (Option.map_eq_none_iff.mp found)

namespace Inspected

variable (inspected : Inspected db companyId checked)

include inspected

theorem users : deleteOne (ownerFilter companyId checked) db.users =
    (1, db.users.filter fun record => !tenant companyId record) := by
  obtain ⟨owner, only, accepted⟩ := inspected.owner
  exact deleteOne_only only (fun _ => tenant_of_ownerFilter) accepted

theorem subscriptions : deleteOne (subscriptionFilter companyId checked) db.subscriptions =
    (1, db.subscriptions.filter fun record => !tenant companyId record) := by
  obtain ⟨subscription, only, accepted⟩ := inspected.subscription
  exact deleteOne_only only (fun _ => tenant_of_subscriptionFilter) accepted

theorem companies_count : (deleteOne (companyFilter companyId) db.companies).1 = 1 := by
  obtain ⟨company, found, inactive⟩ := inspected.company
  refine deleteOne_count (List.mem_of_find?_eq_some found) ?_
  have named := List.find?_some found
  simp [companyFilter, named, inactive]

theorem companies (distinct : Distinct db) : deleteOne (companyFilter companyId) db.companies =
    (1, db.companies.filter fun record => !sameId record "_id" companyId) := by
  obtain ⟨company, found, inactive⟩ := inspected.company
  refine deleteOne_only (filter_of_find distinct.companies found) (fun record selected => ?_) ?_
  · simp only [companyFilter, Bool.and_eq_true] at selected
    exact selected.1
  · have named := List.find?_some found
    simp [companyFilter, named, inactive]

theorem verifications_count :
    countDocuments db.verifications (verificationFilter companyId checked) = checked.verifications.length := by
  rw [← inspected.verified, countDocuments, countDocuments]
  exact List.countP_congr fun record mem => by rw [inspected.verifications record mem]

/-- What the deletion leaves of the verification records, whether or not there are any. -/
theorem verifications_left :
    (if checked.verifications.isEmpty then (0, db.verifications)
      else (countDocuments db.verifications (verificationFilter companyId checked),
        deleteMany (verificationFilter companyId checked) db.verifications)) =
      (checked.verifications.length,
        db.verifications.filter fun record => !tenantOr companyId "ownerId" checked.owner record) := by
  have left : deleteMany (verificationFilter companyId checked) db.verifications =
      db.verifications.filter fun record => !tenantOr companyId "ownerId" checked.owner record :=
    List.filter_congr fun record mem => by rw [inspected.verifications record mem]
  cases listed : checked.verifications with
  | nil =>
      have none := inspected.verified
      rw [listed, List.length_nil, countDocuments, List.countP_eq_zero] at none
      have all : db.verifications.filter (fun record => !tenantOr companyId "ownerId" checked.owner record) =
          db.verifications := by
        rw [List.filter_eq_self]
        intro record mem
        simpa using none record mem
      rw [all]
      rfl
  | cons id rest =>
      rw [left, inspected.verifications_count, listed]
      rfl

/-- After an inspection the counts of the deletion are those of the inspection. -/
theorem deleteCompany_returns : ∃ changed,
    deleteCompany db companyId checked ⟨1, 1, 1, checked.verifications.length⟩ = .ok changed := by
  simp only [deleteCompany, bind_ok_iff, require_ok_iff, inspected.users, inspected.subscriptions,
    inspected.companies_count, inspected.verifications_left]
  exact ⟨_, (), by simp, rfl⟩

end Inspected

/-! ### Nothing refers to the company any more -/

theorem cleanup_error {failure : CleanupFailure} (read : inspect db companyId = .error failure) :
    cleanup db options companyId = .error failure := by
  simp only [cleanup, read]
  rfl

theorem cleanup_dry (read : inspect db companyId = .ok checked) (dry : options.confirmDisposable = false) :
    cleanup db options companyId = .ok (.dryRun companyId ⟨1, 1, 1, checked.verifications.length⟩, db) := by
  simp only [cleanup, read, dry]
  rfl

theorem cleanup_deletes {changed : CleanupCollections} (read : inspect db companyId = .ok checked)
    (confirmed : options.confirmDisposable = true)
    (deleted : deleteCompany db companyId checked ⟨1, 1, 1, checked.verifications.length⟩ = .ok changed) :
    cleanup db options companyId = .ok (.deleted companyId ⟨1, 1, 1, checked.verifications.length⟩
      ⟨1, 1, 1, checked.verifications.length⟩, changed) := by
  rw [cleanup, bind_ok_iff]
  refine ⟨checked, read, ?_⟩
  rw [confirmed]
  change (deleteCompany db companyId checked _ >>= _) = _
  rw [deleted]
  rfl

def otherId : ObjectId := ⟨List.replicate 24 'c', by decide⟩

def record (fields : List (String × Value)) : StoredRecord := (∅ : StoredRecord).set fields

/-- The report of a deletion of what a dry run has matched. -/
def CleanupReport.performed : CleanupReport → CleanupReport
  | .dryRun companyId matched => .deleted companyId matched matched
  | report => report

/-- A dry run predicts the command: on the same collections, with both confirmations given, it deletes exactly what the
dry run has counted, and refuses exactly where the dry run refuses, for the same reason. -/
theorem dry_run_predicts (db : CleanupCollections) (options : CleanupOptions) :
    (run db { options with confirmDisposable := true, confirmApplicationStopped := true } .acknowledged).1 =
      (run db { options with confirmDisposable := false } .acknowledged).1.map CleanupReport.performed := by
  have valid : validateCleanupOptions { options with confirmDisposable := true, confirmApplicationStopped := true } =
      validateCleanupOptions { options with confirmDisposable := false } := by
    simp only [validateCleanupOptions, Bool.and_false, Bool.not_true, Bool.false_and, Bool.not_false]
  simp only [run, valid]
  cases validateCleanupOptions { options with confirmDisposable := false } with
  | error failure => rfl
  | ok companyId =>
    cases read : inspect db companyId with
    | error failure => simp only [cleanup_error read, settle, Except.map]
    | ok checked =>
        obtain ⟨changed, deleted⟩ := (inspect_ok read).deleteCompany_returns
        have deletes : cleanup db { options with confirmDisposable := true, confirmApplicationStopped := true } companyId =
          _ := cleanup_deletes read rfl deleted
        have counts : cleanup db { options with confirmDisposable := false } companyId = _ := cleanup_dry read rfl
        simp only [deletes, counts]
        rfl

end DataVault.Maintenance.DisposableCompany
