/-
Module: DataVault.Subscriptions.Excess
Layer: Specification
Purpose: What of a company a plan leaves no room for, said of the documents alone: the files with as many newer ones as
  the plan includes, the members it does not fit together with the older ones, and the live invitations it does not fit
  together with all members and the older invitations. The three lists of a snapshot are cut where these begin.
Imports: DataVault.Subscriptions.DowngradeCleanup
Trusted boundary: human-reviewed spec
Main exports: CleanupDb.ExcessFile, CleanupDb.ExcessMember, CleanupDb.ExcessInvitation, CleanupDb.withoutFile,
  mem_fileIds, mem_employeeIds, mem_invitationIds
-/
import DataVault.Subscriptions.DowngradeCleanup

namespace DataVault.Subscriptions

open DataVault.Invitations DataVault.Plans DataVault.Store DataVault.Users

namespace CleanupDb

variable (db : CleanupDb) (companyId : Nat) (code : PlanCode)

def companyFiles : List Files.StoredFile := db.files.filter fun file => file.companyId = companyId

def members : List (Dated User) := db.users.filter (·.isMember companyId)

def liveInvitations (instant : Int) : List (Dated EmployeeInvitation) :=
  db.invitations.filter (·.isLive companyId instant)

/-- A file of the company that has at least as many newer ones as the plan includes: one of the oldest. -/
def ExcessFile (id : Nat) : Prop :=
  ∃ file ∈ db.companyFiles companyId, file.id = id ∧
    (planCatalog code).includedFilesPerMonth ≤
      (db.companyFiles companyId).countP fun other => decide (file.stamp.Older other.stamp)

/-- A member that does not fit the plan together with the older members: one of the newest. -/
def ExcessMember (id : Nat) : Prop :=
  ∃ user ∈ db.members companyId, user.document.id = id ∧
    ¬code.fitsEmployees
      (((db.members companyId).countP fun other => decide (other.userStamp.Older user.userStamp)) + 1)

/-- A live invitation that does not fit the plan together with `seats` members and the older live invitations: one of
the latest. -/
def ExcessInvitation (seats : Nat) (instant : Int) (id : Nat) : Prop :=
  ∃ invitation ∈ db.liveInvitations companyId instant, invitation.document.id = id ∧
    ¬code.fitsEmployees
      (seats + ((db.liveInvitations companyId instant).countP
        fun other => decide (other.invitationStamp.Older invitation.invitationStamp)) + 1)

instance (id : Nat) : Decidable (db.ExcessMember companyId code id) :=
  inferInstanceAs (Decidable (∃ user ∈ db.members companyId, _))

instance (seats : Nat) (instant : Int) (id : Nat) : Decidable (db.ExcessInvitation companyId code seats instant id) :=
  inferInstanceAs (Decidable (∃ invitation ∈ db.liveInvitations companyId instant, _))

/-- The collection without the file. -/
def withoutFile (id : Nat) : CleanupDb :=
  { db with
    files := db.files.filter (·.id ≠ id)
    distinctFiles := db.distinctFiles.sublist (List.filter_sublist.map _) }

/-- A deletion takes the file with the id away, or nothing where none matches. -/
theorem deleteFile_cases (file : Files.StoredFile) :
    db.deleteFile companyId file = db ∨
      ∃ deleted ∈ db.files, deleted.companyId = companyId ∧ deleted.id = file.id ∧
        db.deleteFile companyId file = db.withoutFile deleted.id := by
  unfold deleteFile
  split
  · exact .inl rfl
  · rename_i deleted files found
    obtain ⟨stored, matched, rfl⟩ := findOneAndDelete_filter db.distinctFiles found
    simp only [Bool.and_eq_true, decide_eq_true_eq] at matched
    exact .inr ⟨deleted, stored, matched.1.2, matched.1.1, rfl⟩

/-! ### The documents behind an excess id

An `_id` stands for one document, so what is said of an excess id holds of every document with that id. -/

variable {db companyId code}

theorem member_of_excess {user : Dated User} (mem : user ∈ db.users)
    (excess : db.ExcessMember companyId code user.document.id) : user.isMember companyId := by
  obtain ⟨other, there, same, _⟩ := excess
  obtain ⟨stored, isMember⟩ := List.mem_filter.mp there
  rw [List.inj_on_of_nodup_map db.distinctUsers mem stored same.symm]
  exact isMember

theorem live_of_excess {seats : Nat} {instant : Int} {invitation : Dated EmployeeInvitation}
    (mem : invitation ∈ db.invitations)
    (excess : db.ExcessInvitation companyId code seats instant invitation.document.id) :
    invitation.isLive companyId instant := by
  obtain ⟨other, there, same, _⟩ := excess
  obtain ⟨stored, isLive⟩ := List.mem_filter.mp there
  rw [List.inj_on_of_nodup_map db.distinctInvitations mem stored same.symm]
  exact isLive

/-! ### The lists of a snapshot -/

theorem filesOf_listsIds :
    ListsIds Files.StoredFile.stamp (fun one two => two.Older one) (db.companyFiles companyId)
      ((db.filesOf companyId).map (·.id)) :=
  newerFirst_listsIds (db.distinctFiles.sublist (List.filter_sublist.map _))

theorem employeesOf_listsIds :
    ListsIds Dated.userStamp Stamp.Older (db.members companyId)
      ((db.employeesOf companyId).map (·.document.id)) :=
  olderFirst_listsIds (db.distinctUsers.sublist (List.filter_sublist.map _))

theorem invitationsOf_listsIds {instant : Int} :
    ListsIds Dated.invitationStamp Stamp.Older (db.liveInvitations companyId instant)
      ((db.invitationsOf companyId instant).map (·.document.id)) :=
  olderFirst_listsIds (db.distinctInvitations.sublist (List.filter_sublist.map _))

end CleanupDb

/-! ### Where the lists are cut

The code computes how many employees and invitations to keep from the lengths of its lists. Against the documents, an
employee is cut off where the older ones already fill the plan, and an invitation where all employees and the older
invitations do. -/

theorem not_fits_succ_iff {code : PlanCode} {count : Nat} :
    ¬code.fitsEmployees (count + 1) ↔ ∃ limit, (planCatalog code).maxEmployees = some limit ∧ limit ≤ count := by
  unfold PlanCode.fitsEmployees
  constructor
  · intro exceeds
    by_contra none
    refine exceeds fun limit capped => ?_
    by_contra less
    exact none ⟨limit, capped, by omega⟩
  · rintro ⟨limit, capped, full⟩ fits
    have := fits limit capped
    omega

variable {lists : PreviewLists} {db : CleanupDb} {companyId id : Nat}

theorem mem_fileIds
    (files : ListsIds Files.StoredFile.stamp (fun one two => two.Older one) (db.companyFiles companyId) lists.files) :
    id ∈ lists.fileIds ↔ db.ExcessFile companyId lists.code id :=
  files.mem_drop fun _ _ older => older.asymm

theorem mem_employeeIds
    (employees : ListsIds Dated.userStamp Stamp.Older (db.members companyId) lists.employees) :
    id ∈ lists.employeeIds ↔ db.ExcessMember companyId lists.code id := by
  unfold CleanupDb.ExcessMember PreviewLists.employeeIds PreviewLists.keepEmployees PreviewLists.plan
  simp only [not_fits_succ_iff]
  cases capped : (planCatalog lists.code).maxEmployees with
  | none => simp
  | some limit =>
      have cut : lists.employees.drop (min limit lists.employees.length) = lists.employees.drop limit := by
        rcases Nat.le_total limit lists.employees.length with few | many
        · rw [Nat.min_eq_left few]
        · rw [Nat.min_eq_right many, List.drop_length, List.drop_eq_nil_of_le many]
      rw [cut, employees.mem_drop fun _ _ older => older.asymm]
      simp [Dated.userStamp]

theorem mem_invitationIds {seats : Nat} {instant : Int} (counted : lists.employees.length = seats)
    (invitations :
      ListsIds Dated.invitationStamp Stamp.Older (db.liveInvitations companyId instant) lists.invitations) :
    id ∈ lists.invitationIds ↔ db.ExcessInvitation companyId lists.code seats instant id := by
  unfold CleanupDb.ExcessInvitation PreviewLists.invitationIds PreviewLists.keepInvitations PreviewLists.keepEmployees
    PreviewLists.plan
  simp only [not_fits_succ_iff]
  cases capped : (planCatalog lists.code).maxEmployees with
  | none => simp
  | some limit =>
      have room : ∀ older, limit - min limit seats ≤ older ↔ limit ≤ seats + older := by omega
      rw [counted, invitations.mem_drop fun _ _ older => older.asymm]
      simp [room, Dated.invitationStamp]

end DataVault.Subscriptions
