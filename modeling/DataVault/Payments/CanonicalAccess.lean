/-
Module: DataVault.Payments.CanonicalAccess
Layer: Proof
Purpose: Paid access is never granted without canonical proof. What `applyCanonical` settles on is the plan that
  the snapshot leads to, or the plan of the document without access; a document that passes
  `assertPaymentAccess` right after the commit shows a plan that the snapshot proves and the company fits.
Imports: DataVault.Payments.Policy, DataVault.Payments.World
Trusted boundary: none
Main exports: Execution, Lands, settlePlan_planCode, settlePlan_access, AccessProof, access_proved
-/
import DataVault.Payments.Policy
import DataVault.Payments.World

namespace DataVault.Payments

open DataVault.Control DataVault.Plans DataVault.Subscriptions

/-- What one execution of a callback sees beside the document in memory: the counts on its snapshot of the
database, the identifier that `randomUUID` yields in it, and the time. -/
structure Execution where
  company : CompanyState
  operation : Nat
  now : Int
deriving DecidableEq, Repr

/-! ### The plan a snapshot leads to -/

/-- The snapshot leads to a plan in an execution: to Free where the subscription has ended, to its own plan
where it gives access, if the company fits that plan. -/
def Lands (remote : RemoteSubscription) (execution : Execution) (code : PlanCode) : Prop :=
  (if isTerminalStripeStatus remote.status then code = .free
    else remoteAccess remote ≠ .suspended ∧ remotePlan remote = .ok code) ∧
  (execution.company.fits code execution.now).isOk

instance (remote : RemoteSubscription) (execution : Execution) (code : PlanCode) :
    Decidable (Lands remote execution code) :=
  inferInstanceAs (Decidable ((if isTerminalStripeStatus remote.status then code = .free
    else remoteAccess remote ≠ .suspended ∧ remotePlan remote = .ok code) ∧
      (execution.company.fits code execution.now).isOk))

theorem Lands.unique {remote : RemoteSubscription} {first second : Execution} {code other : PlanCode}
    (lands : Lands remote first code) (alsoLands : Lands remote second other) : other = code := by
  obtain ⟨leads, _⟩ := lands
  obtain ⟨alsoLeads, _⟩ := alsoLands
  split at leads
  · rename_i ended
    rw [if_pos ended] at alsoLeads
    rw [leads, alsoLeads]
  · rename_i alive
    rw [if_neg alive] at alsoLeads
    exact Except.ok.inj (alsoLeads.2.symm.trans leads.2)

/-- What `settlePlan` and the access leave as the plan: the one the snapshot leads to, else the one the
document in memory has. -/
theorem settlePlan_planCode (execution : Execution) (doc : Subscription) {remote : RemoteSubscription}
    {target : PlanCode} (issue : PaymentSyncIssue) (planned : remotePlan remote = .ok target) :
    let outcome := settlePlan execution.company doc remote target issue execution.now
    let planCode := if outcome.2.1 = .suspended then doc.planCode else outcome.1
    Lands remote execution planCode ∨
      planCode = doc.planCode ∧ ∀ code, ¬ Lands remote execution code := by
  simp only [settlePlan, Lands]
  by_cases ended : isTerminalStripeStatus remote.status = true
  · simp only [ended, if_true]
    cases fits : execution.company.fits .free execution.now with
    | ok employees =>
        exact .inl ⟨rfl, by simp [fits, Except.isOk, Except.toBool]⟩
    | error failure =>
        refine .inr ⟨by simp, ?_⟩
        rintro code ⟨rfl, passes⟩
        simp [fits, Except.isOk, Except.toBool] at passes
  · simp only [ended, if_false, Bool.false_eq_true]
    by_cases suspended : remoteAccess remote = .suspended
    · exact .inr ⟨by simp [suspended], fun code lands => lands.1.1 suspended⟩
    · simp only [ne_eq, suspended, not_false_eq_true, if_true]
      cases fits : execution.company.fits target execution.now with
      | ok employees =>
          refine .inl ⟨⟨trivial, by simpa [suspended] using planned⟩, ?_⟩
          simp [suspended, fits, Except.isOk, Except.toBool]
      | error failure =>
          refine .inr ⟨by simp, ?_⟩
          rintro code ⟨⟨_, same⟩, passes⟩
          cases planned.symm.trans same
          simp [fits, Except.isOk, Except.toBool] at passes

/-- Access goes with the plan the snapshot leads to, and leaves the issue as it is. -/
theorem settlePlan_access (execution : Execution) (doc : Subscription) {remote : RemoteSubscription}
    {target : PlanCode} (issue : PaymentSyncIssue) (planned : remotePlan remote = .ok target)
    (granted : (settlePlan execution.company doc remote target issue execution.now).2.1 ≠ .suspended) :
    Lands remote execution (settlePlan execution.company doc remote target issue execution.now).1 ∧
      (settlePlan execution.company doc remote target issue execution.now).2.2 = issue := by
  have inactive : isTerminalStripeStatus remote.status = true → remoteAccess remote = .suspended := by
    intro ended
    unfold remoteAccess
    rw [if_neg]
    rintro ⟨active, _⟩
    rw [active] at ended
    cases ended
  simp only [settlePlan, Lands] at granted ⊢
  by_cases ended : isTerminalStripeStatus remote.status = true
  · simp only [ended, if_true] at granted ⊢
    cases fits : execution.company.fits .free execution.now with
    | ok employees => simp [fits, Except.isOk, Except.toBool]
    | error failure =>
        rw [fits] at granted
        exact absurd (inactive ended) granted
  · simp only [ended, if_false, Bool.false_eq_true] at granted ⊢
    by_cases suspended : remoteAccess remote = .suspended
    · rw [if_neg (not_not.mpr suspended)] at granted
      exact absurd suspended granted
    · rw [if_pos suspended] at granted ⊢
      cases fits : execution.company.fits target execution.now with
      | ok employees => simp [fits, suspended, planned, Except.isOk, Except.toBool]
      | error failure =>
          rw [fits] at granted
          exact absurd rfl granted

/-! ### The gate after a commit -/

/-- A snapshot that gives access is active, collected automatically and not paused, and its latest invoice is
paid, a draft or absent. -/
theorem remoteAccess_granted {remote : RemoteSubscription} (granted : remoteAccess remote ≠ .suspended) :
    remote.status = some .active ∧ remote.pauseCollection = false ∧ remote.chargeAutomatically = true ∧
      ∀ invoice ∈ remote.latestInvoice, invoice.status = some .paid ∨ invoice.status = some .draft := by
  unfold remoteAccess at granted
  split at granted
  · rename_i entitled
    obtain ⟨active, running, automatic⟩ := entitled
    refine ⟨active, by simpa using running, automatic, ?_⟩
    intro invoice latest
    rw [Option.mem_def] at latest
    simp only [latest] at granted
    by_contra neither
    obtain ⟨unpaid, final⟩ := not_or.mp neither
    rw [if_neg unpaid, if_neg final] at granted
    exact granted rfl
  · exact absurd rfl granted

/-- What a document with access must be able to show for itself when its snapshot is committed. -/
structure AccessProof (db : BillingDb) (remote : RemoteSubscription) (draftsHeld : Bool) (planCode : PlanCode)
    (now : Int) : Prop where
  usage : ∀ row ∈ db.usages.rows, row.state ≠ .reconciliationRequired
  drafts : draftsHeld = false
  plan : (remote.terminal ∧ planCode = .free) ∨
    (remote.status = some .active ∧ remote.pauseCollection = false ∧ remote.chargeAutomatically = true ∧
      (∀ invoice ∈ remote.latestInvoice, invoice.status = some .paid ∨ invoice.status = some .draft) ∧
      remotePlan remote = .ok planCode)
  fits : ∃ employees, db.company.fits planCode now = .ok employees

theorem Lands.fits {remote : RemoteSubscription} {execution : Execution} {code : PlanCode}
    (lands : Lands remote execution code) :
    ∃ employees, execution.company.fits code execution.now = .ok employees := by
  have passes := lands.2
  cases fits : execution.company.fits code execution.now with
  | ok employees => exact ⟨employees, rfl⟩
  | error failure =>
      rw [fits] at passes
      cases passes

theorem Lands.proof {remote : RemoteSubscription} {execution : Execution} {code : PlanCode}
    (lands : Lands remote execution code) :
    (remote.terminal ∧ code = .free) ∨
      (remote.status = some .active ∧ remote.pauseCollection = false ∧ remote.chargeAutomatically = true ∧
        (∀ invoice ∈ remote.latestInvoice, invoice.status = some .paid ∨ invoice.status = some .draft) ∧
        remotePlan remote = .ok code) := by
  have leads := lands.1
  split at leads
  · rename_i ended
    exact .inl ⟨ended, leads⟩
  · obtain ⟨active, running, automatic, invoice⟩ := remoteAccess_granted leads.1
    exact .inr ⟨active, running, automatic, invoice, leads.2⟩

/-- The access and the issue of a commit, and its plan where it gives access. -/
theorem canonicalFields_granted {execution : Execution} {doc : Subscription}
    {status : StripeSubscriptionStatus} {remote : RemoteSubscription} {draftsHeld : Bool}
    {fields : CanonicalFields}
    (computed : canonicalFields execution.company doc status remote draftsHeld execution.now = .ok fields)
    (granted : fields.paymentAccess ≠ .suspended) :
    Lands remote execution fields.planCode ∧
      fields.paymentSyncIssue =
        if execution.company.unresolvedUsage || draftsHeld then .reconciliationRequired else .none := by
  obtain ⟨target, planned, computed⟩ := bind_ok_iff.mp computed
  dsimp only at computed
  generalize (if execution.company.unresolvedUsage || draftsHeld then PaymentSyncIssue.reconciliationRequired
    else .none) = issue at computed ⊢
  have access := settlePlan_access execution doc issue planned
  generalize settlePlan execution.company doc remote target issue execution.now = outcome at access computed
  cases computed
  dsimp only at granted ⊢
  rw [if_neg granted]
  exact access granted

/-- A commit changes the plan only to one that the company fits. -/
theorem canonicalFields_changed {execution : Execution} {doc : Subscription}
    {status : StripeSubscriptionStatus} {remote : RemoteSubscription} {draftsHeld : Bool}
    {fields : CanonicalFields}
    (computed : canonicalFields execution.company doc status remote draftsHeld execution.now = .ok fields)
    (changed : fields.planCode ≠ doc.planCode) :
    ∃ employees, execution.company.fits fields.planCode execution.now = .ok employees := by
  obtain ⟨target, planned, computed⟩ := bind_ok_iff.mp computed
  dsimp only at computed
  generalize (if execution.company.unresolvedUsage || draftsHeld then PaymentSyncIssue.reconciliationRequired
    else .none) = issue at computed
  have plan := settlePlan_planCode execution doc issue planned
  generalize settlePlan execution.company doc remote target issue execution.now = outcome at plan computed
  cases computed
  rcases plan with lands | ⟨same, _⟩
  · exact lands.fits
  · exact absurd same changed

/-- Whatever the document, the snapshot, the counts, the usage rows and the drafts: a document that passes the
gate at the time of the commit has its proof, and a changed plan fits the company in the same transaction. -/
theorem access_proved {db db' : BillingDb} {enabled gate : Bool} {run step : Nat} {clock : Int}
    {published : Except Failure Unit} {doc : Subscription} {status : StripeSubscriptionStatus}
    {remote : RemoteSubscription} {event : Option Nat} {draftsHeld : Bool} {fields : CanonicalFields}
    (loaded : db.subscription.planCode = doc.planCode)
    (commits : db.execute enabled run step clock published
      (.applyCanonical doc status remote event draftsHeld) = .ok (fields, db')) :
    (assertPaymentAccess db'.subscription gate clock = .ok () →
      AccessProof db remote draftsHeld db'.subscription.planCode clock) ∧
    (db'.subscription.planCode ≠ db.subscription.planCode →
      ∃ employees, db.company.fits db'.subscription.planCode clock = .ok employees) := by
  obtain ⟨fields', computed, commits⟩ := bind_ok_iff.mp commits
  obtain ⟨_, _, commits⟩ := bind_ok_iff.mp commits
  obtain ⟨_, _, commits⟩ := bind_ok_iff.mp commits
  cases commits
  let execution : Execution := ⟨db.company, step, clock⟩
  have computed : canonicalFields execution.company doc status remote draftsHeld execution.now = .ok fields :=
    computed
  constructor
  · intro passes
    have order := (assertPaymentAccess_managed rfl gate clock).mp passes
    simp only [paymentInOrder, Bool.and_eq_true, Bool.or_eq_true, bne_iff_ne, beq_iff_eq] at order
    obtain ⟨⟨⟨_, resolved⟩, access⟩, _⟩ := order
    have granted : fields.paymentAccess ≠ .suspended := by
      intro suspended
      rcases access with active | deferred
      · cases suspended.symm.trans active
      · cases suspended.symm.trans deferred
    obtain ⟨lands, issue⟩ := canonicalFields_granted computed granted
    have clear : (execution.company.unresolvedUsage || draftsHeld) = false := by
      by_contra pending
      rw [if_pos ((Bool.not_eq_false _).mp pending)] at issue
      exact resolved issue
    obtain ⟨usage, drafts⟩ := Bool.or_eq_false_iff.mp clear
    refine ⟨?_, drafts, lands.proof, lands.fits⟩
    intro row mem unresolved
    have exists_row : db.company.unresolvedUsage = true :=
      List.any_eq_true.mpr ⟨row, mem, by simpa using unresolved⟩
    rw [show db.company.unresolvedUsage = false from usage] at exists_row
    cases exists_row
  · intro changed
    refine canonicalFields_changed computed ?_
    rw [← loaded]
    exact changed

/-- A Free company under the lease of run 0. -/
def freeDb : BillingDb where
  subscription :=
    { companyId := 1
      planCode := .free
      activatedAt := 0
      planChangedAt := 0 }
  lease := some ⟨0, 300000⟩

def firstSnapshot : RemoteSubscription :=
  { (default : RemoteSubscription) with
    status := some .active
    chargeAutomatically := true
    items := [⟨1, .basic, some 1, 0, 2678400⟩] }

/-- The commit of its first, active Basic snapshot. -/
theorem access_proved_purchase :
    ∃ result, freeDb.execute true 0 9 60000 (.ok ())
        (.applyCanonical freeDb.subscription .active firstSnapshot none false) = .ok result ∧
      result.2.subscription.planCode = .basic ∧
      AccessProof freeDb firstSnapshot false result.2.subscription.planCode 60000 := by
  have runs : (freeDb.execute true 0 9 60000 (.ok ())
      (.applyCanonical freeDb.subscription .active firstSnapshot none false)).toOption.any fun result =>
        result.2.subscription.planCode = .basic &&
          assertPaymentAccess result.2.subscription true 60000 = .ok () := by decide +kernel
  cases commits : freeDb.execute true 0 9 60000 (.ok ())
      (.applyCanonical freeDb.subscription .active firstSnapshot none false) with
  | error failure =>
      rw [commits] at runs
      cases runs
  | ok result =>
      rw [commits] at runs
      obtain ⟨basic, passes⟩ : result.2.subscription.planCode = .basic ∧
          assertPaymentAccess result.2.subscription true 60000 = .ok () := by
        simpa [Except.toOption] using runs
      exact ⟨result, rfl, basic, (access_proved rfl commits).1 passes⟩

end DataVault.Payments
