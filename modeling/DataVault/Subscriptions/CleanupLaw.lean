/-
Module: DataVault.Subscriptions.CleanupLaw
Layer: Proof
Purpose: What a cleanup removes: files, members and invitations of the actor's company that were in excess of the lower
  plan where the cleanup listed them, in lists with the hash that was accepted; members and invitations together, and
  enough of them for the lower plan. Nothing is asked of what else happens to the database at any time.
Imports: DataVault.Interleaving.Monitor, DataVault.Subscriptions.Excess
Trusted boundary: none
Main exports: Confirmation, MembershipRemoved, CleanupStep, cleanup_law
-/
import DataVault.Interleaving.Monitor
import DataVault.Subscriptions.Excess

namespace DataVault.Subscriptions

open DataVault.Control DataVault.Files DataVault.Guard DataVault.Interleaving DataVault.Invitations DataVault.Payments
open DataVault.Plans DataVault.Store DataVault.Users

/-! ### Confirmed lists -/

/-- What a cleanup has read before it goes on: lists whose hash is the token of the request, each sorted, complete and
of the state in which the cleanup asked for it. Other requests may change the database between the reads, and the three
lists need not be of one state. -/
structure Confirmation (config : CleanupConfig) (actor : AuthenticatedUser) (code : PlanCode) (token : Nat)
    (asked : CleanupAct → CleanupWorld → Prop) where
  lists : PreviewLists
  planAt : CleanupWorld
  filesAt : CleanupWorld
  employeesAt : CleanupWorld
  invitationsAt : CleanupWorld
  instant : Int
  owner : actor.role = .companyOwner
  company : lists.companyId = actor.companyId
  target : lists.code = code
  token : config.digest lists = token
  planAsked : asked (.getSubscription actor.companyId) planAt
  plan : ∃ subscription, planAt.db.subscriptions actor.companyId = some subscription ∧
    lists.currentPlan = subscription.planCode
  lower : rank code < rank lists.currentPlan
  filesAsked : asked (.findFiles actor.companyId) filesAt
  files : ListsIds Files.StoredFile.stamp (fun one two => two.Older one) (filesAt.db.companyFiles actor.companyId)
    lists.files
  employeesAsked : asked (.findEmployees actor.companyId) employeesAt
  employees : ListsIds Dated.userStamp Stamp.Older (employeesAt.db.members actor.companyId) lists.employees
  invitationsAsked : asked (.findInvitations actor.companyId) invitationsAt
  past : instant ≤ invitationsAt.clock
  invitations : ListsIds Dated.invitationStamp Stamp.Older
    (invitationsAt.db.liveInvitations actor.companyId instant) lists.invitations

variable {config : CleanupConfig} {actor : AuthenticatedUser} {code : PlanCode} {token : Nat}
variable {asked : CleanupAct → CleanupWorld → Prop}

namespace Confirmation

variable (confirmed : Confirmation config actor code token asked)

/-- The file was in excess when the files were listed. -/
def ExcessFile (id : Nat) : Prop := confirmed.filesAt.db.ExcessFile actor.companyId code id

/-- The member was in excess when the members were listed. -/
def ExcessMember (id : Nat) : Prop := confirmed.employeesAt.db.ExcessMember actor.companyId code id

/-- The invitation was in excess when the invitations were listed, beside the members listed before. -/
def ExcessInvitation (id : Nat) : Prop :=
  confirmed.invitationsAt.db.ExcessInvitation actor.companyId code
    (confirmed.employeesAt.db.members actor.companyId).length confirmed.instant id

theorem mem_fileIds {id : Nat} : id ∈ confirmed.lists.fileIds ↔ confirmed.ExcessFile id := by
  rw [Subscriptions.mem_fileIds confirmed.files, confirmed.target]
  rfl

theorem mem_employeeIds {id : Nat} : id ∈ confirmed.lists.employeeIds ↔ confirmed.ExcessMember id := by
  rw [Subscriptions.mem_employeeIds confirmed.employees, confirmed.target]
  rfl

theorem mem_invitationIds {id : Nat} : id ∈ confirmed.lists.invitationIds ↔ confirmed.ExcessInvitation id := by
  rw [Subscriptions.mem_invitationIds confirmed.employees.length_eq confirmed.invitations, confirmed.target]
  rfl

end Confirmation

/-- The members and the invitations of a company that a plan counts. -/
def CleanupDb.seats (db : CleanupDb) (companyId : Nat) (instant : Int) : Nat :=
  countDocuments db.users (·.isMember companyId) + countDocuments db.invitations (·.isLive companyId instant)

/-- All members and invitations in excess are gone, those that were live at `instant`, nothing else has changed but the
subscription of the company, and what stays fits the plan. -/
structure MembershipRemoved (companyId : Nat) (code : PlanCode) (instant revokedAt now : Int) (db db' : CleanupDb) :
    Prop where
  users : db'.users = db.users.filter fun user => !decide (db.ExcessMember companyId code user.document.id)
  invitations : db'.invitations = db.invitations.map fun invitation =>
    if db.ExcessInvitation companyId code (db.members companyId).length instant invitation.document.id then
      invitation.revoke revokedAt
    else invitation
  files : db'.files = db.files
  subscriptions : ∀ other, other ≠ companyId → db'.subscriptions other = db.subscriptions other
  spared : ∀ user ∈ db.users, user.document.role = .companyOwner ∨ user.document.companyId ≠ companyId →
    user ∈ db'.users
  fits : code.fitsEmployees (db'.seats companyId now)

/-- What a step of a cleanup does: nothing, the object or the row of one file in excess, the whole membership in excess,
or the change of the plan. What is in excess where the membership is removed is what was when it was listed. -/
inductive CleanupStep (config : CleanupConfig) (actor : AuthenticatedUser) (code : PlanCode) (token : Nat)
    (asked : CleanupAct → CleanupWorld → Prop) (w w' : CleanupWorld) : Prop where
  | unchanged (same : w' = w)
  | object (confirmed : Confirmation config actor code token asked) (file : Files.StoredFile) (seenAt : CleanupWorld)
      (seen : asked (.findFile actor.companyId file.id) seenAt) (stored : file ∈ seenAt.db.files)
      (company : file.companyId = actor.companyId) (excess : confirmed.ExcessFile file.id)
      (becomes : w' = { w with objects := w.objects.filter fun key => key ≠ file.storageKey })
  | file (confirmed : Confirmation config actor code token asked) (file : Files.StoredFile)
      (stored : file ∈ w.db.files) (company : file.companyId = actor.companyId)
      (excess : confirmed.ExcessFile file.id) (becomes : w' = { w with db := w.db.withoutFile file.id })
  | membership (confirmed : Confirmation config actor code token asked) (instant revokedAt : Int)
      (past : instant ≤ w.clock)
      (members : ∀ id, w.db.ExcessMember actor.companyId code id ↔ confirmed.ExcessMember id)
      (invitations : ∀ id, w.db.ExcessInvitation actor.companyId code (w.db.members actor.companyId).length instant id ↔
        confirmed.ExcessInvitation id)
      (removed : MembershipRemoved actor.companyId code instant revokedAt w.clock w.db w'.db)
      (rest : w'.clock = w.clock ∧ w'.objects = w.objects)
  | plan (subscription : Option Subscription)
      (becomes : w' = { w with
        db := { w.db with
          subscriptions := Function.update w.db.subscriptions actor.companyId subscription } })

/-! ### What a cleanup asks for -/

/-- Queries answer with what the database holds where they are asked. -/
def PossibleRead (asked : CleanupAct → CleanupWorld → Prop) : (act : CleanupAct) → act.Res → Prop
  | .getSubscription companyId, answer => ∀ subscription, answer = .ok (some subscription) →
      ∃ w, asked (.getSubscription companyId) w ∧ w.db.subscriptions companyId = some subscription
  | .findFiles companyId, answer => ∀ files, answer = .ok files →
      ∃ w, asked (.findFiles companyId) w ∧ files = w.db.filesOf companyId
  | .findEmployees companyId, answer => ∀ employees, answer = .ok employees →
      ∃ w, asked (.findEmployees companyId) w ∧ employees = w.db.employeesOf companyId
  | .findInvitations companyId, answer => ∀ invitations, answer = .ok invitations →
      ∃ w instant, asked (.findInvitations companyId) w ∧ instant ≤ w.clock ∧
        invitations = w.db.invitationsOf companyId instant
  | .findFile companyId fileId, answer => ∀ file, answer = .ok (some file) →
      file.companyId = companyId ∧ file.id = fileId ∧ ∃ w, asked (.findFile companyId fileId) w ∧ file ∈ w.db.files
  | _, _ => True

/-- What a cleanup may remove. -/
def Removable (config : CleanupConfig) (actor : AuthenticatedUser) (code : PlanCode) (token : Nat)
    (asked : CleanupAct → CleanupWorld → Prop) : CleanupAct → Prop
  | .deleteObject file => file.companyId = actor.companyId ∧
      (∃ w, asked (.findFile actor.companyId file.id) w ∧ file ∈ w.db.files) ∧
      ∃ confirmed : Confirmation config actor code token asked, confirmed.ExcessFile file.id
  | .deleteFile companyId file => companyId = actor.companyId ∧
      ∃ confirmed : Confirmation config actor code token asked, confirmed.ExcessFile file.id
  | .cleanupMembership actor' code' employeeIds invitationIds => actor' = actor ∧ code' = code ∧
      ∃ confirmed : Confirmation config actor code token asked,
        employeeIds = confirmed.lists.employeeIds ∧ invitationIds = confirmed.lists.invitationIds
  | .changePlan actor' _ => actor' = actor
  | _ => True

/-- Watches one cleanup. -/
def cleanupMonitor (config : CleanupConfig) (actor : AuthenticatedUser) (code : PlanCode) (token : Nat)
    (asked : CleanupAct → CleanupWorld → Prop) : Monitor CleanupAct CleanupAct.Res Unit where
  allowed _ act := Removable config actor code token asked act
  after _ _ _ := ()

/-- What a part of a cleanup obeys that ends in `Q`. -/
abbrev Cleans {α : Type} (config : CleanupConfig) (actor : AuthenticatedUser) (code : PlanCode) (token : Nat)
    (asked : CleanupAct → CleanupWorld → Prop) (Q : α → Prop)
    (process : Process CleanupAct CleanupAct.Res (Except CleanupFailure α)) : Prop :=
  (cleanupMonitor config actor code token asked).Obeys (PossibleRead asked) (Ends (fun value _ => Q value) Any) process
    ()

theorem cleans_getSubscription {companyId : Nat} :
    Cleans config actor code token asked
      (fun subscription => ∃ w, asked (.getSubscription companyId) w ∧ w.db.subscriptions companyId = some subscription)
      (getSubscription companyId).run := by
  refine Monitor.obeys_lift trivial fun found read => ?_
  refine Monitor.obeys_liftExcept (fun found answered => ?_) fun _ _ => trivial
  cases found with
  | none => trivial
  | some subscription => exact read subscription answered

/-- A snapshot whose lists have the hash of the request confirms them. -/
theorem cleans_snapshot :
    Cleans config actor code token asked
      (fun lists => config.digest lists = token →
        ∃ confirmed : Confirmation config actor code token asked, confirmed.lists = lists)
      (snapshot config actor code).run := by
  refine Monitor.obeys_liftExcept (fun _ allowed => ?_) fun _ _ => trivial
  refine Monitor.obeys_bind cleans_getSubscription fun subscription _ readPlan => ?_
  obtain ⟨planAt, planAsked, plan⟩ := readPlan
  refine Monitor.obeys_liftExcept (fun _ checked => ?_) fun _ _ => trivial
  refine Monitor.obeys_lift trivial fun files readFiles => ?_
  refine Monitor.obeys_liftExcept (fun files found => ?_) fun _ _ => trivial
  obtain ⟨filesAt, filesAsked, rfl⟩ := readFiles files found
  refine Monitor.obeys_lift trivial fun employees readEmployees => ?_
  refine Monitor.obeys_liftExcept (fun employees found => ?_) fun _ _ => trivial
  obtain ⟨employeesAt, employeesAsked, rfl⟩ := readEmployees employees found
  refine Monitor.obeys_lift trivial fun invitations readInvitations => ?_
  refine Monitor.obeys_liftExcept (fun invitations found => ?_) fun _ _ => trivial
  obtain ⟨invitationsAt, instant, invitationsAsked, past, rfl⟩ := readInvitations invitations found
  intro sameToken
  have lower : rank code < rank subscription.planCode := by
    obtain ⟨_, _, checked⟩ := bind_ok_iff.mp checked
    exact of_decide_eq_true (require_ok_iff.mp checked)
  let confirmed : Confirmation config actor code token asked :=
    { planAt, filesAt, employeesAt, invitationsAt, instant, planAsked, filesAsked, employeesAsked, invitationsAsked
      past, lower
      lists := listsOf actor.companyId code subscription (filesAt.db.filesOf actor.companyId)
        (employeesAt.db.employeesOf actor.companyId) (invitationsAt.db.invitationsOf actor.companyId instant)
      owner := of_decide_eq_true (require_ok_iff.mp allowed)
      company := rfl
      target := rfl
      token := sameToken
      plan := ⟨subscription, plan, rfl⟩
      files := CleanupDb.filesOf_listsIds
      employees := CleanupDb.employeesOf_listsIds
      invitations := CleanupDb.invitationsOf_listsIds }
  exact ⟨confirmed, rfl⟩

theorem cleans_removeFiles (confirmed : Confirmation config actor code token asked) (ids : List Nat)
    (excess : ∀ id ∈ ids, confirmed.ExcessFile id) :
    Cleans config actor code token asked (fun _ => True) (removeFiles actor.companyId ids).run := by
  induction ids with
  | nil => trivial
  | cons id ids ih =>
      have rest := ih fun other mem => excess other (List.mem_cons_of_mem _ mem)
      refine Monitor.obeys_lift trivial fun found read => ?_
      refine Monitor.obeys_liftExcept (fun found answered => ?_) fun _ _ => trivial
      cases found with
      | none => exact rest
      | some file =>
          obtain ⟨company, rfl, seen⟩ := read file answered
          have there : ∃ confirmed : Confirmation config actor code token asked, confirmed.ExcessFile file.id :=
            ⟨confirmed, excess _ List.mem_cons_self⟩
          refine Monitor.obeys_lift ⟨company, seen, there⟩ fun _ _ => ?_
          refine Monitor.obeys_liftExcept (fun _ _ => ?_) fun _ _ => trivial
          refine Monitor.obeys_lift ⟨rfl, there⟩ fun _ _ => ?_
          exact Monitor.obeys_liftExcept (fun _ _ => rest) fun _ _ => trivial

theorem cleans_cleanup :
    Cleans config actor code token asked (fun _ => True) (cleanup config actor code token).run := by
  refine Monitor.obeys_bind cleans_snapshot fun lists _ confirms => ?_
  refine Monitor.obeys_liftExcept (fun _ same => ?_) fun _ _ => trivial
  obtain ⟨confirmed, rfl⟩ := confirms (of_decide_eq_true (require_ok_iff.mp same))
  refine Monitor.obeys_bind cleans_getSubscription fun subscription _ _ => ?_
  refine Monitor.obeys_liftExcept (fun _ _ => ?_) fun _ _ => trivial
  refine Monitor.obeys_bind (Q := fun _ _ => True) ?_ fun _ _ _ => ?_
  · refine Monitor.obeys_recover (E := Any) ?_ fun _ _ _ => trivial
    have excess : ∀ id ∈ confirmed.lists.fileIds.reverse, confirmed.ExcessFile id :=
      fun id mem => confirmed.mem_fileIds.mp (List.mem_reverse.mp mem)
    refine Monitor.obeys_bind (cleans_removeFiles confirmed _ excess) fun _ _ _ => ?_
    refine Monitor.obeys_lift ⟨rfl, rfl, confirmed, rfl, rfl⟩ fun removed _ => ?_
    cases removed <;> trivial
  · refine Monitor.obeys_lift rfl fun changed _ => ?_
    exact Monitor.obeys_liftExcept (fun _ _ => trivial) fun _ _ => trivial

/-! ### What its actions do -/

variable {w w' : CleanupWorld} {choice : CleanupChoice} {db : CleanupDb}

theorem possibleRead_exec (run : Nat) {act : CleanupAct} {answer : act.Res} (reads : asked act w)
    (executed : cleanupExec config run choice act w = some (answer, w')) : PossibleRead asked act answer := by
  have delivered : ∀ {α : Type} {stored value : α}, choice.query stored = .ok value → value = stored := by
    intro α stored value found
    unfold CleanupChoice.query at found
    split at found <;> cases found
    rfl
  cases act with
  | getSubscription companyId =>
      cases executed
      exact fun subscription found => ⟨w, reads, (delivered found).symm⟩
  | findFiles companyId =>
      cases executed
      exact fun files found => ⟨w, reads, delivered found⟩
  | findEmployees companyId =>
      cases executed
      exact fun employees found => ⟨w, reads, delivered found⟩
  | findInvitations companyId =>
      cases executed
      have past : w.clock - choice.stale ≤ w.clock := Int.sub_le_self _ (Int.natCast_nonneg _)
      exact fun invitations found => ⟨w, _, reads, past, delivered found⟩
  | findFile companyId fileId =>
      cases executed
      intro file found
      have first := (delivered found).symm
      have matched := List.find?_some first
      simp only [Bool.and_eq_true, decide_eq_true_eq] at matched
      exact ⟨matched.2, matched.1, w, reads, List.mem_of_find?_eq_some first⟩
  | _ => trivial

theorem transact_cases {World : Type} {before after : World} {work : Except CleanupFailure (Unit × World)}
    {answer : Except CleanupFailure Unit} (done : choice.transact before work = (answer, after)) :
    after = before ∨ ∃ value, work = .ok (value, after) := by
  unfold CleanupChoice.transact at done
  split at done
  · cases done
    exact .inl rfl
  · rename_i value result
    cases fate : choice.fate <;> rw [fate] at done <;> cases done
    · exact .inr ⟨value, rfl⟩
    · exact .inr ⟨value, rfl⟩
    · exact .inl rfl

/-! ### The transaction

It computes what is in excess of the membership that it sees, once more, and goes on only if this is what was listed.
So what it removes is in excess both where it commits and where the lists were read, and what it leaves is at most what
the code keeps of a list: `keepEmployees` and `keepInvitations`, which together fit the plan. -/

/-- Of the members, those whose id is not cut off are at most as many as are kept. -/
theorem members_after {companyId : Nat} {invitationIds : List Nat} {revokedAt : Int} {keep : Nat} :
    countDocuments (db.removeMembership companyId (((db.employeesOf companyId).drop keep).map (·.document.id))
      invitationIds revokedAt).users (·.isMember companyId) ≤ keep := by
  have kept := countDocuments_kept (fun user : Dated User => user.document.id) keep
    (olderFirst_perm Dated.userStamp (db.users.filter (·.isMember companyId)))
  refine Nat.le_trans (Nat.le_of_eq ?_) kept
  simp only [CleanupDb.removeMembership, deleteMany, countDocuments, List.countP_filter]
  refine List.countP_congr fun user _ => ?_
  cases user.isMember companyId <;> simp [CleanupDb.employeesOf]

/-- Of the invitations, those whose id is not cut off are at most as many as are kept; time does not bring any back. -/
theorem invitations_after {companyId : Nat} {employeeIds : List Nat} {instant now revokedAt : Int} {keep : Nat}
    (later : instant ≤ now) :
    countDocuments (db.removeMembership companyId employeeIds
      (((db.invitationsOf companyId instant).drop keep).map (·.document.id)) revokedAt).invitations
        (·.isLive companyId now) ≤ keep := by
  have kept := countDocuments_kept (fun invitation : Dated EmployeeInvitation => invitation.document.id) keep
    (olderFirst_perm Dated.invitationStamp (db.invitations.filter (·.isLive companyId instant)))
  refine Nat.le_trans ?_ kept
  simp only [CleanupDb.removeMembership, updateMany, countDocuments, List.countP_map]
  refine List.countP_mono_left fun invitation _ live => ?_
  simp only [Function.comp] at live
  split at live
  · simp [Dated.isLive, Dated.revoke] at live
  · rename_i spared
    simp only [Dated.isLive, Bool.and_eq_true, decide_eq_true_eq] at live
    obtain ⟨⟨company, pending⟩, alive⟩ := live
    have before : invitation.isLive companyId instant := by
      simp [Dated.isLive, company, pending, Int.lt_of_le_of_lt later alive]
    simp only [company, pending, decide_true, Bool.true_and] at spared
    rw [Bool.and_eq_true]
    refine ⟨before, ?_⟩
    rw [Bool.not_eq_true', ← Bool.not_eq_true]
    exact spared

/-- What the lists let stay fits their plan. -/
theorem keep_fits (lists : PreviewLists) {kept : Nat} (fits : kept ≤ lists.keepEmployees + lists.keepInvitations) :
    lists.code.fitsEmployees kept := by
  intro limit capped
  simp only [PreviewLists.keepInvitations, PreviewLists.keepEmployees, PreviewLists.plan, capped] at fits
  omega

/-- Without the ids that its own lists cut off, the membership fits the plan. -/
theorem listed_fits {companyId : Nat} {subscription : Subscription} {files : List Files.StoredFile}
    {instant revokedAt now : Int} {current : PreviewLists} (later : instant ≤ now)
    (same : current = listsOf companyId code subscription files (db.employeesOf companyId)
      (db.invitationsOf companyId instant)) :
    code.fitsEmployees
      ((db.removeMembership companyId current.employeeIds current.invitationIds revokedAt).seats companyId now) := by
  subst same
  refine keep_fits (listsOf companyId code subscription files (db.employeesOf companyId)
    (db.invitationsOf companyId instant)) ?_
  apply Nat.add_le_add
  · rw [PreviewLists.employeeIds, listsOf, ← List.map_drop]
    exact members_after
  · rw [PreviewLists.invitationIds, listsOf, ← List.map_drop]
    exact invitations_after later

/-- The two writes, for ids that are those in excess, remove the membership in excess. -/
theorem removeMembership_removes {companyId : Nat} {employeeIds invitationIds : List Nat} {instant : Int}
    (revokedAt : Int)
    (employees : ∀ id, id ∈ employeeIds ↔ db.ExcessMember companyId code id)
    (invitations : ∀ id, id ∈ invitationIds ↔
      db.ExcessInvitation companyId code (db.members companyId).length instant id) :
    (db.removeMembership companyId employeeIds invitationIds revokedAt).users =
        db.users.filter (fun user => !decide (db.ExcessMember companyId code user.document.id)) ∧
      (db.removeMembership companyId employeeIds invitationIds revokedAt).invitations =
        db.invitations.map fun invitation =>
          if db.ExcessInvitation companyId code (db.members companyId).length instant invitation.document.id then
            invitation.revoke revokedAt
          else invitation := by
  constructor
  · refine List.filter_congr fun user mem => ?_
    have belongs : db.ExcessMember companyId code user.document.id → user.isMember companyId :=
      CleanupDb.member_of_excess mem
    rw [← employees] at belongs
    simp only [← employees, List.contains_eq_mem]
    by_cases listed : user.document.id ∈ employeeIds
    · simp [listed, belongs listed]
    · simp [listed]
  · refine List.map_congr_left fun invitation mem => ?_
    have belongs : db.ExcessInvitation companyId code (db.members companyId).length instant invitation.document.id →
      invitation.isLive companyId instant := CleanupDb.live_of_excess mem
    rw [← invitations] at belongs
    simp only [← invitations, List.contains_eq_mem]
    by_cases listed : invitation.document.id ∈ invitationIds
    · have live := belongs listed
      simp only [Dated.isLive, Bool.and_eq_true] at live
      simp [listed, live.1.1, live.1.2]
    · simp [listed]

/-- No owner and nobody of another company is in excess. -/
theorem not_excess_of_foreign {companyId : Nat} {user : Dated User} (mem : user ∈ db.users)
    (foreign : user.document.role = .companyOwner ∨ user.document.companyId ≠ companyId) :
    ¬db.ExcessMember companyId code user.document.id := by
  intro excess
  have belongs := CleanupDb.member_of_excess mem excess
  simp only [Dated.isMember, Bool.and_eq_true, decide_eq_true_eq] at belongs
  rcases foreign with owner | elsewhere
  · rw [owner] at belongs
    cases belongs.2
  · exact elsewhere belongs.1

theorem acquireLock_cases {companyId : Nat} {locked : CleanupDb} (lock : db.acquireLock companyId = .ok locked) :
    ∃ subscription, locked = { db with
      subscriptions := Function.update db.subscriptions companyId (some subscription) } := by
  obtain ⟨subscription, _, lock⟩ := bind_ok_iff.mp lock
  cases lock
  exact ⟨_, rfl⟩

theorem cleanupMembership_removes {employeeIds invitationIds : List Nat} {instant revokedAt now : Int} {value : Unit}
    {after : CleanupDb} (later : instant ≤ now)
    (done : db.cleanupMembership config actor code employeeIds invitationIds instant revokedAt = .ok (value, after)) :
    (∀ id, id ∈ employeeIds ↔ db.ExcessMember actor.companyId code id) ∧
      (∀ id, id ∈ invitationIds ↔
        db.ExcessInvitation actor.companyId code (db.members actor.companyId).length instant id) ∧
      MembershipRemoved actor.companyId code instant revokedAt now db after := by
  obtain ⟨locked, lock, done⟩ := bind_ok_iff.mp done
  obtain ⟨current, found, done⟩ := bind_ok_iff.mp done
  obtain ⟨_, same, done⟩ := bind_ok_iff.mp done
  cases done
  obtain ⟨_, rfl⟩ := acquireLock_cases lock
  obtain ⟨_, _, found⟩ := bind_ok_iff.mp found
  obtain ⟨subscription, _, found⟩ := bind_ok_iff.mp found
  obtain ⟨_, _, found⟩ := bind_ok_iff.mp found
  have listed : current = listsOf actor.companyId code subscription (db.filesOf actor.companyId)
      (db.employeesOf actor.companyId) (db.invitationsOf actor.companyId instant) := (Except.ok.inj found).symm
  simp only [require_ok_iff, Bool.and_eq_true, decide_eq_true_eq] at same
  obtain ⟨rfl, rfl⟩ := same
  have excessMembers : ∀ id, id ∈ current.employeeIds ↔ db.ExcessMember actor.companyId code id := by
    rw [listed]
    exact fun _ => mem_employeeIds CleanupDb.employeesOf_listsIds
  have excessInvitations : ∀ id, id ∈ current.invitationIds ↔
      db.ExcessInvitation actor.companyId code (db.members actor.companyId).length instant id := by
    rw [listed]
    exact fun _ => mem_invitationIds CleanupDb.employeesOf_listsIds.length_eq CleanupDb.invitationsOf_listsIds
  obtain ⟨users, invitations⟩ := removeMembership_removes revokedAt excessMembers excessInvitations
  refine ⟨excessMembers, excessInvitations, users, invitations, rfl, ?_, ?_, ?_⟩
  · exact fun other differs => Function.update_of_ne differs _ _
  · intro user mem foreign
    have stays : ¬db.ExcessMember actor.companyId code user.document.id := not_excess_of_foreign mem foreign
    have kept : user ∈ (db.removeMembership actor.companyId current.employeeIds current.invitationIds
        revokedAt).users := by
      rw [users]
      exact List.mem_filter.mpr ⟨mem, by simp [stays]⟩
    exact kept
  · exact listed_fits later listed

/-- What a cleanup may remove, its actions remove. -/
theorem cleanupStep_exec (run : Nat) {act : CleanupAct} {answer : act.Res}
    (removable : Removable config actor code token asked act)
    (executed : cleanupExec config run choice act w = some (answer, w')) :
    CleanupStep config actor code token asked w w' := by
  cases act with
  | getSubscription | findFiles | findEmployees | findInvitations | findFile =>
      cases executed
      exact .unchanged rfl
  | deleteObject file =>
      obtain ⟨company, ⟨seenAt, seen, stored⟩, confirmed, excess⟩ := removable
      rcases transact_cases (Option.some.inj executed) with same | ⟨_, done⟩
      · exact .unchanged same
      · cases done
        exact .object confirmed file seenAt seen stored company excess rfl
  | deleteFile companyId file =>
      obtain ⟨rfl, confirmed, excess⟩ := removable
      rcases transact_cases (Option.some.inj executed) with same | ⟨_, done⟩
      · exact .unchanged same
      · cases done
        rcases CleanupDb.deleteFile_cases w.db actor.companyId file with
          same | ⟨deleted, stored, company, sameId, becomes⟩
        · rw [same]
          exact .unchanged rfl
        · rw [becomes]
          exact .file confirmed deleted stored company (sameId ▸ excess) rfl
  | cleanupMembership actor' code' employeeIds invitationIds =>
      obtain ⟨rfl, rfl, confirmed, rfl, rfl⟩ := removable
      simp only [cleanupExec, Option.some.injEq, Prod.mk.injEq] at executed
      obtain ⟨_, rfl⟩ := executed
      rcases outcome : choice.transact w.db (w.db.cleanupMembership config actor' code' confirmed.lists.employeeIds
        confirmed.lists.invitationIds (w.clock - choice.stale) (w.clock - choice.recent)) with ⟨answered, after⟩
      rcases transact_cases outcome with rfl | ⟨_, done⟩
      · exact .unchanged rfl
      · have past : w.clock - choice.stale ≤ w.clock := Int.sub_le_self _ (Int.natCast_nonneg _)
        obtain ⟨members, invitations, removed⟩ := cleanupMembership_removes past done
        refine .membership confirmed _ _ past (fun id => ?_) (fun id => ?_) removed ⟨rfl, rfl⟩
        · rw [← members, confirmed.mem_employeeIds]
        · rw [← invitations, confirmed.mem_invitationIds]
  | changePlan actor' code' =>
      obtain rfl : actor' = actor := removable
      cases executed
      exact .plan _ rfl

/-! ### The law of a cleanup -/

/-- Every step that a cleanup takes, from its arrival in any system on and in every interleaving, removes what was
confirmed alone, and the membership only as a whole and so that what stays fits the lower plan. What was confirmed is
what this very cleanup read, each list in the state in which it asked for it. -/
theorem cleanup_law {s s₀ s₁ s' : System CleanupAct CleanupAct.Res CleanupWorld (Except CleanupFailure CleanupReply)}
    {events : List (Event CleanupChoice (Nat × CleanupDb × List StorageKey) CleanupJob)}
    (arrived : (cleanupMachine config).apply s (.arrive (.cleanup actor code token)) = some s₀)
    (reached : (cleanupMachine config).Run (fun _ _ => True) s₀ events s₁)
    (taken : (cleanupMachine config).apply s₁ (.step s.runs.length choice) = some s') :
    CleanupStep config actor code token ((cleanupMachine config).PerformedIn s.runs.length s₀ events) s₁.world
      s'.world := by
  obtain ⟨present, _⟩ := Machine.apply_arrive arrived
  let watch := cleanupMonitor config actor code token ((cleanupMachine config).PerformedIn s.runs.length s₀ events)
  have start : watch.Obeys (PossibleRead _) Any ((cleanupMachine config).handler (.cleanup actor code token)) () :=
    cleans_cleanup.mono fun _ _ _ => trivial
  obtain ⟨process, there, obeys⟩ :=
    reached.follows_performed (fun process => watch.Obeys (PossibleRead _) Any process ())
    (fun _ _ _ _ _ _ obeys performed executed =>
      obeys.2 _ (possibleRead_exec s.runs.length performed executed)) present start
  rcases Machine.apply_run there taken with ⟨_, foreign⟩ | ⟨_, act, resume, answer, same, rfl, executed, _⟩
  · exact absurd rfl (foreign choice)
  · cases same
    exact cleanupStep_exec s.runs.length obeys.1 executed

/-! ### A run -/

/-- A basic company with one member, one invitation and a file more than the free plan includes. -/
def smallCompany : CleanupWorld where
  clock := 1000
  db :=
    { distinctFiles := by decide
      subscriptions := fun _ => some { companyId := 1, planCode := .basic, activatedAt := 0, planChangedAt := 0 }
      files := (List.range 11).map fun n =>
        { id := n, companyId := 1, uploaderId := 5, storageKey := .upload 1 n, fileType := .csv, size := 1
          originalFilename := "", mimeType := "", createdAt := n, updatedAt := n }
      users := [⟨{ id := 5, email := "", companyId := 1, role := .companyOwner }, 0⟩,
        ⟨{ id := 6, email := "", companyId := 1 }, 1⟩]
      invitations := [⟨{ id := 7, companyId := 1, invitedBy := 5, email := "", tokenHash := none, expiresAt := 2000
                         lastSentAt := 0 }, 2⟩] }
  objects := (List.range 11).map fun n => .upload 1 n

/-- A hash of the number of ids. -/
def countDigest : CleanupConfig where
  paymentsEnabled := false
  digest lists := lists.files.length * 10000 + lists.employees.length * 100 + lists.invitations.length

def companyOwner : AuthenticatedUser := { id := 5, companyId := 1, role := .companyOwner }

/-- The oldest file goes first, then the member and the invitation in one step. -/
theorem cleanup_law_downgrade :
    ∃ s₁ s' : System CleanupAct CleanupAct.Res CleanupWorld (Except CleanupFailure CleanupReply),
      CleanupStep countDigest companyOwner .free 110101
          ((cleanupMachine countDigest).PerformedIn 0
            ⟨smallCompany, [(cleanupMachine countDigest).handler (.cleanup companyOwner .free 110101)]⟩
            (List.replicate 8 (.step 0 {})))
          s₁.world s'.world ∧
        s₁.world.db.files.map (·.id) = (List.range 11).tail ∧ s₁.world.db.users.map (·.document.id) = [5, 6] ∧
        s'.world.db.users.map (·.document.id) = [5] ∧
        s'.world.db.invitations.map (·.document.status) = [.revoked] := by
  have plays : ((cleanupMachine countDigest).play (List.replicate 8 (.step 0 {}))
      ⟨smallCompany, [(cleanupMachine countDigest).handler (.cleanup companyOwner .free 110101)]⟩).any fun s₁ =>
        ((cleanupMachine countDigest).apply s₁ (.step 0 {})).any fun s' => Decidable.decide
          (s₁.world.db.files.map (·.id) = (List.range 11).tail ∧ s₁.world.db.users.map (·.document.id) = [5, 6] ∧
            s'.world.db.users.map (·.document.id) = [5] ∧
            s'.world.db.invitations.map (·.document.status) = [.revoked]) := by
    decide +kernel
  obtain ⟨s₁, played, later⟩ := (Option.any_eq_true ..).mp plays
  obtain ⟨s', taken, checked⟩ := (Option.any_eq_true ..).mp later
  exact ⟨s₁, s', cleanup_law (s := ⟨smallCompany, []⟩) rfl (Machine.run_of_play played) taken,
    of_decide_eq_true checked⟩

end DataVault.Subscriptions
