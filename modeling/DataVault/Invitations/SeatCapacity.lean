/-
Module: DataVault.Invitations.SeatCapacity
Layer: Proof
Purpose: How many seats a company uses, over all interleavings of the operations on seats. Every operation
  but `resend` leaves the seats counted at the latest captured `now` within the plan, although each counts
  the pending invitations with its own, possibly older, clock: the number of pending invitations only falls
  as the instant grows. A resend may revive an invitation that a later clock has already counted as expired.
Imports: DataVault.Interleaving.Contract, DataVault.Invitations.Service
Trusted boundary: none
Main exports: Database.seats, SeatsFit, RevivesWithin, seatContract_sound, seatsFit_run
-/
import DataVault.Interleaving.Contract
import DataVault.Invitations.Service

namespace DataVault.Invitations

open DataVault.Control DataVault.Interleaving DataVault.Payments DataVault.Plans DataVault.Store
open DataVault.Subscriptions DataVault.Users

/-- Accepted members and pending invitations that expire after an instant. -/
def Database.seats (db : Database) (companyId : Nat) (instant : Int) : Nat :=
  db.countEmployees companyId + db.countPending companyId instant

/-- The seats counted at an instant fit the current plan of the company. -/
def SeatsFit (db : Database) (companyId : Nat) (instant : Int) : Prop :=
  ∀ subscription, db.subscriptions companyId = some subscription →
    subscription.planCode.fitsEmployees (db.seats companyId instant)

/-! ### Seats and clocks

Every transaction counts pending invitations with the clock of its request, which may be older than the clock of
another that has committed. What makes these counts comparable is monotony: a later instant counts fewer pending
invitations. -/

theorem countPending_antitone (db : Database) (companyId : Nat) {earlier later : Int}
    (le : earlier ≤ later) : db.countPending companyId later ≤ db.countPending companyId earlier := by
  refine countDocuments_le _ fun invitation counts => ?_
  simp only [Bool.and_eq_true, decide_eq_true_eq] at counts ⊢
  exact ⟨counts.1, by omega⟩

theorem SeatsFit.later {db : Database} {companyId : Nat} {earlier later : Int}
    (fits : SeatsFit db companyId earlier) (le : earlier ≤ later) : SeatsFit db companyId later :=
  fun subscription found =>
    PlanCode.fitsEmployees_mono (Nat.add_le_add_left (countPending_antitone db companyId le) _)
      (fits subscription found)

/-- Fewer seats under the same plan still fit. -/
theorem SeatsFit.of_le {db db' : Database} {companyId : Nat} {instant : Int}
    (fits : SeatsFit db companyId instant)
    (plan : ∀ subscription, db'.subscriptions companyId = some subscription →
      ∃ before, db.subscriptions companyId = some before ∧ before.planCode = subscription.planCode)
    (le : db'.seats companyId instant ≤ db.seats companyId instant) : SeatsFit db' companyId instant := by
  intro subscription found
  obtain ⟨before, foundBefore, same⟩ := plan subscription found
  rw [← same]
  exact PlanCode.fitsEmployees_mono le (fits before foundBefore)

/-- The lock rewrites the locked subscription and keeps its plan. -/
theorem acquireLock_ok {db locked : Database} {companyId : Nat} {subscription : Subscription}
    (lock : db.acquireLock companyId = .ok (subscription, locked)) :
    locked = db.saveSubscription companyId subscription ∧
      ∃ before, db.subscriptions companyId = some before ∧ before.planCode = subscription.planCode := by
  unfold Database.acquireLock at lock
  split at lock
  · cases lock
  · rename_i before found
    cases lock
    exact ⟨rfl, before, found, rfl⟩

/-- Saving a subscription leaves the plans of the other companies as they were. -/
theorem saveSubscription_other {db : Database} {companyId other : Nat} {saved after : Subscription}
    (ne : other ≠ companyId)
    (found : (db.saveSubscription companyId saved).subscriptions other = some after) :
    ∃ before, db.subscriptions other = some before ∧ before.planCode = after.planCode := by
  simp only [Database.saveSubscription, Function.update_of_ne ne] at found
  exact ⟨after, found, rfl⟩

theorem saveSubscription_self {db : Database} {companyId : Nat} {saved after : Subscription}
    (found : (db.saveSubscription companyId saved).subscriptions companyId = some after) :
    after = saved := by
  simp only [Database.saveSubscription, Function.update_self] at found
  cases found
  rfl

/-! ### One transaction

Each transaction is compared at the latest captured instant, not at its own. All but the resend add at most the
seats that they have checked for; a resend checks nothing, and adds one seat exactly where the invitation no longer
counted. -/

section Transactions

variable {db db' : Database} {companyId : Nat} {now lastNow : Int}

/-- An expired invitation no longer counts, so expiring some never raises the count. -/
theorem countPending_expireStale_le (db : Database) (companyId : Nat) (now lastNow : Int)
    (email : String) :
    (db.expireStaleInvitation email now).countPending companyId lastNow ≤
      db.countPending companyId lastNow := by
  refine countDocuments_updateMany_le _ fun invitation _ counts => ?_
  simp at counts

/-- An invitation that stops being pending frees its seat. -/
theorem countPending_settle_le (companyId : Nat) (lastNow : Int) {filter : EmployeeInvitation → Bool}
    {update : EmployeeInvitation → EmployeeInvitation} {updated : EmployeeInvitation}
    {invitations : List EmployeeInvitation}
    (found : findOneAndUpdate filter update db.invitations = some (updated, invitations))
    (settles : ∀ invitation, (update invitation).status ≠ .pending) :
    Database.countPending { db with invitations := invitations } companyId lastNow ≤
      db.countPending companyId lastNow := by
  obtain ⟨invitation, _, _, _, count⟩ := countDocuments_update
    (fun invitation => invitation.companyId = companyId && invitation.status = .pending &&
      invitation.expiresAt > lastNow) found
  simp only [settles, decide_false, Bool.and_false, Bool.false_and, Bool.false_eq_true, if_false]
    at count
  simp only [Database.countPending]
  omega

/-- What passed the capacity check of a transaction at its own `now` still fits at a later instant, as long
as the transaction adds no more seats than it asked for. -/
theorem seatsFit_of_capacity {subscription : Subscription} {employees pending : Nat} (additional : Nat)
    (capacity : assertEmployeeCapacity false subscription employees pending additional now = .ok ())
    (plan : ∀ after, db'.subscriptions companyId = some after → after.planCode = subscription.planCode)
    (le : db'.seats companyId lastNow ≤ employees + pending + additional) :
    SeatsFit db' companyId lastNow := by
  intro after found
  rw [plan after found]
  exact PlanCode.fitsEmployees_mono le (assertEmployeeCapacity_fits capacity)

theorem invite_seatsFit {actor : AuthenticatedUser} {email : String} {tokenHash : Nat}
    {answer : EmployeeInvitation × String} (captured : now ≤ lastNow)
    (fits : SeatsFit db companyId lastNow)
    (committed : db.invite actor email tokenHash now = .ok (answer, db')) :
    SeatsFit db' companyId lastNow := by
  obtain ⟨⟨subscription, locked⟩, lock, committed⟩ := bind_ok_iff.mp committed
  obtain ⟨rfl, _⟩ := acquireLock_ok lock
  obtain ⟨_, capacity, committed⟩ := bind_ok_iff.mp committed
  obtain ⟨_, _, committed⟩ := bind_ok_iff.mp committed
  obtain ⟨company, _, committed⟩ := bind_ok_iff.mp committed
  obtain ⟨_, _, committed⟩ := bind_ok_iff.mp committed
  obtain ⟨_, _, committed⟩ := bind_ok_iff.mp committed
  cases committed
  have expired := countPending_expireStale_le db companyId now lastNow email
  by_cases own : companyId = actor.companyId
  · subst own
    refine seatsFit_of_capacity 1 capacity ?_ ?_
    · intro after found
      rw [saveSubscription_self found]
    · have older := countPending_antitone db actor.companyId captured
      simp only [Database.seats, Database.countEmployees, Database.countPending,
        Database.expireStaleInvitation, Database.saveSubscription, countDocuments_cons]
        at expired older ⊢
      split <;> omega
  · refine fits.of_le (fun after found => saveSubscription_other own found) ?_
    simp only [Database.seats, Database.countEmployees, Database.countPending,
      Database.expireStaleInvitation, Database.saveSubscription, countDocuments_cons, Ne.symm own,
      decide_false, Bool.false_and, Bool.false_eq_true, if_false] at expired ⊢
    omega

theorem accept_seatsFit {tokenHash : Nat} (captured : now ≤ lastNow)
    (fits : SeatsFit db companyId lastNow) (committed : db.accept tokenHash now = .ok ((), db')) :
    SeatsFit db' companyId lastNow := by
  obtain ⟨invitation, _, committed⟩ := bind_ok_iff.mp committed
  obtain ⟨company, _, committed⟩ := bind_ok_iff.mp committed
  obtain ⟨_, _, committed⟩ := bind_ok_iff.mp committed
  obtain ⟨⟨subscription, locked⟩, lock, committed⟩ := bind_ok_iff.mp committed
  obtain ⟨rfl, _⟩ := acquireLock_ok lock
  obtain ⟨_, capacity, committed⟩ := bind_ok_iff.mp committed
  obtain ⟨_, _, committed⟩ := bind_ok_iff.mp committed
  obtain ⟨⟨accepted, invitations⟩, updated, committed⟩ := bind_ok_iff.mp committed
  cases committed
  have settled := countPending_settle_le companyId lastNow
    (orFail_ok_iff.mp updated) fun _ => by simp
  by_cases own : companyId = invitation.companyId
  · subst own
    refine seatsFit_of_capacity 0 capacity ?_ ?_
    · intro after found
      rw [saveSubscription_self found]
    · -- At `now` the accepted invitation counted: its seat is the one the member takes.
      obtain ⟨other, _, matched, _, pendingAtNow⟩ := countDocuments_update
        (fun other => other.companyId = invitation.companyId && other.status = .pending &&
          other.expiresAt > now) (orFail_ok_iff.mp updated)
      simp only [Database.acceptable, Bool.and_eq_true, decide_eq_true_eq] at matched
      have older := countPending_antitone
        { db with invitations := invitations } invitation.companyId captured
      simp [Database.seats, Database.countEmployees, Database.countPending,
        Database.saveSubscription, matched] at pendingAtNow older ⊢
      omega
  · refine fits.of_le (fun after found => saveSubscription_other own found) ?_
    simp only [Database.seats, Database.countEmployees, Database.countPending,
      Database.saveSubscription, countDocuments_cons, Ne.symm own, decide_false, Bool.false_and,
      Bool.false_eq_true, if_false] at settled ⊢
    omega

theorem revoke_seatsFit {actor : AuthenticatedUser} {invitationId : Nat}
    {answer : Option EmployeeInvitation} (fits : SeatsFit db companyId lastNow)
    (committed : db.revoke actor invitationId now = .ok (answer, db')) :
    SeatsFit db' companyId lastNow := by
  unfold Database.revoke at committed
  split at committed
  · cases committed
    exact fits
  · rename_i invitation invitations found
    cases committed
    have settled := countPending_settle_le companyId lastNow found
      fun _ => by simp
    exact fits.of_le (fun after same => ⟨after, same, rfl⟩) (Nat.add_le_add_left settled _)

theorem deleteUser_seatsFit {actor : AuthenticatedUser} {targetUserId : Nat} {answer : Option User}
    (fits : SeatsFit db companyId lastNow)
    (committed : db.deleteUser actor targetUserId = .ok (answer, db')) :
    SeatsFit db' companyId lastNow := by
  unfold Database.deleteUser at committed
  split at committed
  · cases committed
    exact fits
  · rename_i user users found
    cases committed
    exact fits.of_le (fun after same => ⟨after, same, rfl⟩)
      (Nat.add_le_add_right (countDocuments_delete_le found) _)

theorem changePlan_seatsFit {actor : AuthenticatedUser} {planCode : PlanCode} (captured : now ≤ lastNow)
    (fits : SeatsFit db companyId lastNow)
    (committed : db.changePlan actor planCode now = .ok ((), db')) : SeatsFit db' companyId lastNow := by
  obtain ⟨⟨subscription, locked⟩, lock, committed⟩ := bind_ok_iff.mp committed
  obtain ⟨rfl, _⟩ := acquireLock_ok lock
  obtain ⟨changed, change, committed⟩ := bind_ok_iff.mp committed
  cases committed
  by_cases own : companyId = actor.companyId
  · subst own
    intro after found
    obtain ⟨plan, _, capacity, _⟩ := changePlan_fits change
    rw [saveSubscription_self found, plan]
    exact PlanCode.fitsEmployees_mono
      (Nat.add_le_add_left (countPending_antitone db actor.companyId captured) _) capacity
  · refine fits.of_le (fun after found => ?_) (Nat.le_refl _)
    obtain ⟨before, foundBefore, same⟩ := saveSubscription_other own found
    obtain ⟨original, foundOriginal, sameOriginal⟩ := saveSubscription_other own foundBefore
    exact ⟨original, foundOriginal, sameOriginal.trans same⟩

/-- A resend adds at most the seat of the invitation it extends, and adds one only if that invitation no
longer counted. -/
theorem resend_seatsFit {actor : AuthenticatedUser} {invitationId tokenHash : Nat}
    {answer : Option (String × String)} (fits : SeatsFit db companyId lastNow)
    (revives : ∀ invitation,
      db.invitations.find? (Database.resendable actor invitationId now) = some invitation →
      invitation.companyId = companyId → invitation.expiresAt ≤ lastNow →
      lastNow < now + invitationTokenTtlMs → ∀ subscription,
      db.subscriptions companyId = some subscription →
        subscription.planCode.fitsEmployees (db.seats companyId lastNow + 1))
    (committed : db.resend actor invitationId tokenHash now = .ok (answer, db')) :
    SeatsFit db' companyId lastNow := by
  unfold Database.resend at committed
  split at committed
  · cases committed
    exact fits
  · rename_i invitation invitations found
    split at committed
    · cases committed
      obtain ⟨original, first, matched, _, count⟩ := countDocuments_update
        (fun other => other.companyId = companyId && other.status = .pending &&
          other.expiresAt > lastNow) found
      intro subscription foundSubscription
      have room := revives original first
      have fitsNow := fits subscription foundSubscription
      simp only [Bool.and_eq_true, decide_eq_true_eq] at count
      by_cases counted : (original.companyId = companyId ∧ original.status = .pending) ∧
          lastNow < now + invitationTokenTtlMs
      · by_cases alive : original.expiresAt > lastNow
        · refine PlanCode.fitsEmployees_mono ?_ fitsNow
          simp only [counted, alive, and_self, if_true] at count
          simp only [Database.seats, Database.countEmployees, Database.countPending] at count ⊢
          omega
        · refine PlanCode.fitsEmployees_mono ?_
            (room counted.1.1 (by omega) counted.2 subscription foundSubscription)
          simp only [counted, alive, and_false, and_self, if_true, if_false] at count
          simp only [Database.seats, Database.countEmployees, Database.countPending] at count ⊢
          omega
      · refine PlanCode.fitsEmployees_mono ?_ fitsNow
        simp only [gt_iff_lt, counted, if_false] at count
        simp only [Database.seats, Database.countEmployees, Database.countPending, gt_iff_lt]
        omega
    · cases committed

/-- The condition of `resend_seatsFit` is exact: a committed resend that revives an expired invitation
without a free seat overfills the company. -/
theorem resend_overfills {actor : AuthenticatedUser} {invitationId tokenHash : Nat}
    {answer : Option (String × String)} {invitation : EmployeeInvitation} {subscription : Subscription}
    (found : db.invitations.find? (Database.resendable actor invitationId now) = some invitation)
    (own : invitation.companyId = companyId) (expired : invitation.expiresAt ≤ lastNow)
    (revived : lastNow < now + invitationTokenTtlMs)
    (managed : db.subscriptions companyId = some subscription)
    (full : ¬ subscription.planCode.fitsEmployees (db.seats companyId lastNow + 1))
    (committed : db.resend actor invitationId tokenHash now = .ok (answer, db')) :
    ¬ SeatsFit db' companyId lastNow := by
  unfold Database.resend at committed
  split at committed
  · rename_i absent
    rw [findOneAndUpdate_none_iff, found] at absent
    cases absent
  · rename_i updated invitations update
    split at committed
    · cases committed
      obtain ⟨original, first, matched, _, count⟩ := countDocuments_update
        (fun other => other.companyId = companyId && other.status = .pending &&
          other.expiresAt > lastNow) update
      cases found.symm.trans first
      simp only [Database.resendable, Bool.and_eq_true, decide_eq_true_eq] at matched
      intro fits
      refine full (PlanCode.fitsEmployees_mono ?_ (fits subscription managed))
      simp only [own, matched, Int.not_lt.mpr expired, revived, decide_true, decide_false, Bool.and_self,
        Bool.and_false, Bool.false_eq_true, if_true, if_false, gt_iff_lt] at count
      simp only [Database.seats, Database.countEmployees, Database.countPending, gt_iff_lt]
      omega
    · cases committed

end Transactions

/-! ### All interleavings

Transactions take effect one at a time, so a run is a sequence of the steps above. What is left to show is that
every request carries a clock it has captured before, which is the contract below. -/

/-- The `now` an action carries from the start of its request. -/
def SeatAct.capturedAt : SeatAct → Option Int
  | .invite _ _ _ instant | .resend _ _ _ instant | .accept _ instant | .revoke _ _ instant
  | .changePlan _ _ instant => some instant
  | _ => none

/-- A resend that commits and revives an invitation expired by the latest captured `now` finds a free seat
for it. No other action is restricted, and no resend whose transaction fails. -/
def RevivesWithin (companyId : Nat) (choice : SeatChoice) : SeatAct → SeatWorld → Prop
  | .resend actor invitationId tokenHash now, w => choice.aborted = false →
      (w.db.resend actor invitationId tokenHash now).isOk = true → ∀ invitation,
      w.db.invitations.find? (Database.resendable actor invitationId now) = some invitation →
      invitation.companyId = companyId → invitation.expiresAt ≤ w.lastNow →
      w.lastNow < now + invitationTokenTtlMs → ∀ subscription,
      w.db.subscriptions companyId = some subscription →
        subscription.planCode.fitsEmployees (w.db.seats companyId w.lastNow + 1)
  | _, _ => True

/-- A request relies on the latest captured `now` growing only; at every action it knows that its own `now`
is not later. -/
def seatContract (hashToken : Nat → Nat) : Contract (seatMachine hashToken) where
  rely _ w w' := w.lastNow ≤ w'.lastNow
  inv _ := True
  needs _ act w := ∀ now, act.capturedAt = some now → now ≤ w.lastNow
  ends _ _ _ := True

theorem transact_lastNow {α : Type} {choice : SeatChoice} {w w' : SeatWorld}
    {work : Except Failure (α × Database)} {answer : Except Failure α}
    (executed : transact choice w work = some (answer, w')) : w'.lastNow = w.lastNow := by
  unfold transact at executed
  repeat' split at executed
  all_goals cases executed
  all_goals rfl

theorem seatExec_lastNow (run : Nat) {choice : SeatChoice} {act : SeatAct} {w w' : SeatWorld}
    {answer : act.Res} (executed : seatExec run choice act w = some (answer, w')) :
    w.lastNow ≤ w'.lastNow := by
  cases act with
  | now =>
      cases executed
      exact Int.le_max_left _ _
  | generateToken => cases executed; exact Int.le_refl _
  | sendEmployeeInvitation => cases executed; exact Int.le_refl _
  | invite | resend | accept | revoke | findUser | deleteUser | changePlan =>
      simp only [seatExec] at executed
      exact Int.le_of_eq (transact_lastNow executed).symm

/-- The `now` a request has just captured stays behind the latest one. -/
theorem meets_now {hashToken : Nat → Nat} {run : Nat} {w : SeatWorld}
    {next : Int → SeatHandler SeatReply}
    (continues : ∀ now w', now ≤ w'.lastNow →
      (seatContract hashToken).Meets run (Ends Any Any) (next now).run w') :
    (seatContract hashToken).Meets run (Ends Any Any) (ask .now >>= next).run w := by
  refine Contract.meets_lift fun w₁ _ _ => ⟨fun now captured => (by cases captured), ?_⟩
  intro choice answer w₂ executed
  cases executed
  exact continues _ _ (Int.le_max_right _ _)

/-- An action that carries no `now`, or one that is not later than the latest. -/
theorem meets_ask {hashToken : Nat → Nat} {run : Nat} {w : SeatWorld} {act : SeatAct}
    {next : act.Res → SeatHandler SeatReply} {now : Int} (captured : now ≤ w.lastNow)
    (carries : ∀ carried, act.capturedAt = some carried → carried = now)
    (continues : ∀ answer w', now ≤ w'.lastNow →
      (seatContract hashToken).Meets run (Ends Any Any) (next answer).run w') :
    (seatContract hashToken).Meets run (Ends Any Any) (ask act >>= next).run w := by
  refine Contract.meets_lift fun w₁ relied _ => ⟨fun carried same => ?_, ?_⟩
  · rw [carries carried same]
    exact Int.le_trans captured relied
  · intro choice answer w₂ executed
    have grown := seatExec_lastNow run executed
    exact continues answer w₂ (Int.le_trans captured (Int.le_trans relied grown))

/-- Every handler captures its `now` before the action that carries it. -/
theorem seatHandler_meets (hashToken : Nat → Nat) (job : SeatJob) (run : Nat) (w : SeatWorld) :
    (seatContract hashToken).Meets run (Ends Any Any) (job.handler hashToken).run w := by
  cases job with
  | invite actor email =>
      refine meets_now fun now w captured => ?_
      refine Contract.meets_liftExcept (fun _ _ => ?_) fun _ _ => trivial
      refine meets_ask captured (fun _ none => by cases none) fun token w captured => ?_
      refine meets_ask captured (fun _ same => by cases same; rfl) fun answer w captured => ?_
      split
      · trivial
      · trivial
      · refine meets_ask captured (fun _ none => by cases none) fun sent w captured => ?_
        split <;> trivial
  | resend actor invitationId =>
      refine meets_now fun now w captured => ?_
      refine Contract.meets_liftExcept (fun _ _ => ?_) fun _ _ => trivial
      refine meets_ask captured (fun _ none => by cases none) fun token w captured => ?_
      refine meets_ask captured (fun _ same => by cases same; rfl) fun answer w captured => ?_
      split
      · trivial
      · trivial
      · exact meets_ask captured (fun _ none => by cases none) fun sent w captured => trivial
  | accept token =>
      refine meets_now fun now w captured => ?_
      refine meets_ask captured (fun _ same => by cases same; rfl) fun answer w captured => ?_
      split <;> trivial
  | revoke actor invitationId =>
      refine meets_now fun now w captured => ?_
      refine Contract.meets_liftExcept (fun _ _ => ?_) fun _ _ => trivial
      refine meets_ask captured (fun _ same => by cases same; rfl) fun answer w captured => ?_
      split <;> trivial
  | deleteUser actor targetUserId =>
      refine Contract.meets_liftExcept (fun _ _ => ?_) fun _ _ => trivial
      refine meets_ask (Int.le_refl _) (fun _ none => by cases none) fun answer w captured => ?_
      split
      · trivial
      · trivial
      · split
        · trivial
        · refine meets_ask captured (fun _ none => by cases none) fun answer w captured => ?_
          split <;> trivial
  | changePlan actor planCode =>
      refine Contract.meets_liftExcept (fun _ _ => ?_) fun _ _ => trivial
      refine meets_now fun now w captured => ?_
      refine meets_ask captured (fun _ same => by cases same; rfl) fun answer w captured => ?_
      split <;> trivial

theorem seatContract_sound (hashToken : Nat → Nat) (companyId : Nat) :
    (seatContract hashToken).Sound (fun _ choice act w => RevivesWithin companyId choice act w)
      fun _ _ => True where
  refl _ _ := Int.le_refl _
  trans := Int.le_trans
  step {run choice act w answer w'} _ _ _ executed _ _ := seatExec_lastNow run executed
  keeps _ _ _ _ := trivial
  drift {change w w'} _ _ drifted _ := by
    cases change with
    | tick | company | files => cases drifted; exact Int.le_refl _
    | purge =>
        obtain ⟨_, _, rfl⟩ := Option.map_eq_some_iff.mp drifted
        exact Int.le_refl _
  driftKeeps _ _ _ := trivial
  handler job run w := (seatHandler_meets hashToken job run w).mono fun _ _ _ => trivial
  ended _ _ := trivial

/-- A transaction keeps what its committed result keeps. -/
theorem transact_keeps {α : Type} {choice : SeatChoice} {w w' : SeatWorld} {companyId : Nat}
    {work : Except Failure (α × Database)} {answer : Except Failure α}
    (fits : SeatsFit w.db companyId w.lastNow)
    (keeps : choice.aborted = false → ∀ value db', work = .ok (value, db') → SeatsFit db' companyId w.lastNow)
    (executed : transact choice w work = some (answer, w')) : SeatsFit w'.db companyId w'.lastNow := by
  unfold transact at executed
  split at executed
  · cases executed
    exact fits
  · rename_i committed
    split at executed <;> cases executed
    · exact fits
    · exact keeps (Bool.not_eq_true _ ▸ committed) _ _ rfl

/-- One action keeps the seats within the plan, counted at the latest captured `now`. -/
theorem seatExec_seatsFit {hashToken : Nat → Nat} {companyId run : Nat} {choice : SeatChoice}
    {act : SeatAct} {w w' : SeatWorld} {answer : act.Res} (fits : SeatsFit w.db companyId w.lastNow)
    (needs : (seatContract hashToken).needs run act w) (revives : RevivesWithin companyId choice act w)
    (executed : seatExec run choice act w = some (answer, w')) :
    SeatsFit w'.db companyId w'.lastNow := by
  cases act with
  | now =>
      cases executed
      exact fits.later (Int.le_max_left _ _)
  | generateToken => cases executed; exact fits
  | sendEmployeeInvitation => cases executed; exact fits
  | invite actor email tokenHash now =>
      exact transact_keeps fits (fun _ _ _ committed => invite_seatsFit (needs now rfl) fits committed)
        executed
  | resend actor invitationId tokenHash now =>
      refine transact_keeps fits (fun alive _ _ committed => resend_seatsFit fits (revives alive ?_) committed) executed
      rw [committed]
      rfl
  | accept tokenHash now =>
      exact transact_keeps fits (fun _ _ _ committed => accept_seatsFit (needs now rfl) fits committed)
        executed
  | revoke actor invitationId now =>
      exact transact_keeps fits (fun _ _ _ committed => revoke_seatsFit fits committed) executed
  | findUser actor targetUserId =>
      simp only [seatExec, Database.findUser] at executed
      exact transact_keeps fits (fun _ _ _ committed => by cases committed; exact fits) executed
  | deleteUser actor targetUserId =>
      exact transact_keeps fits (fun _ _ _ committed => deleteUser_seatsFit fits committed) executed
  | changePlan actor planCode changedAt =>
      exact transact_keeps fits
        (fun _ _ _ committed => changePlan_seatsFit (needs changedAt rfl) fits committed) executed

theorem seatDrift_seatsFit {companyId : Nat} {change : SeatDrift} {w w' : SeatWorld}
    (fits : SeatsFit w.db companyId w.lastNow) (drifted : seatDrift change w = some w') :
    SeatsFit w'.db companyId w'.lastNow := by
  cases change with
  | tick | company | files => cases drifted; exact fits
  | purge invitationId =>
      obtain ⟨⟨_, invitations⟩, found, rfl⟩ := Option.map_eq_some_iff.mp drifted
      exact fits.of_le (fun after same => ⟨after, same, rfl⟩)
        (Nat.add_le_add_left (countDocuments_delete_le found) _)

/-- In every run whose resends revive an expired invitation only into a free seat, the seats of a company
that starts within its plan stay within it, at every instant from the latest captured `now` on. -/
theorem seatsFit_run (hashToken : Nat → Nat) {companyId : Nat}
    {s s' : System SeatAct SeatAct.Res SeatWorld (Except Failure SeatReply)}
    (events : List (Event SeatChoice SeatDrift SeatJob)) (idle : s.runs = [])
    (fits : SeatsFit s.world.db companyId s.world.lastNow)
    (run : (seatMachine hashToken).Run
      (Contract.Permits (fun _ choice act w => RevivesWithin companyId choice act w) fun _ _ => True)
      s events s') {instant : Int} (later : s'.world.lastNow ≤ instant) :
    SeatsFit s'.world.db companyId instant := by
  have invariant := (seatContract_sound hashToken companyId).invariant
    (fun w => SeatsFit w.db companyId w.lastNow)
    (fun _ _ _ _ _ _ _ fits needs revives executed => seatExec_seatsFit fits needs revives executed)
    (fun _ _ _ _ fits _ drifted => seatDrift_seatsFit fits drifted) run (.idle trivial idle) fits
  exact invariant.2.later later

/-! ### A late resend -/

/-- The owner of company 1. -/
def owner : AuthenticatedUser := { id := 0, companyId := 1, role := .companyOwner }

/-- Company 1 on Basic, with some members and one pending invitation that expires at 1000. -/
def crowded (members : Nat) : System SeatAct SeatAct.Res SeatWorld (Except Failure SeatReply) where
  world :=
    { clock := 999
      lastNow := 0
      db :=
        { users := (List.range members).map fun id => { id := id + 1, email := "", companyId := 1 }
          invitations :=
            [{ id := 100, companyId := 1, invitedBy := 0, email := "first", tokenHash := some 100
               expiresAt := 1000, lastSentAt := 1000 - invitationTokenTtlMs }]
          companies := fun _ => some { name := "", activatedAt := some 0 }
          subscriptions := fun companyId =>
            some { companyId := companyId, planCode := .basic, activatedAt := 0, planChangedAt := 0 }
          storedFiles := fun _ => 0
          nextId := 200 } }
  runs := []

/-- A resend captures its `now` while the invitation is alive, an invite counts it as expired a millisecond
later and commits first. -/
def lateResend : List (Event SeatChoice SeatDrift SeatJob) :=
  [.arrive (.resend owner 100), .step 0 {}, .step 0 { token := 101 }, .drift (.tick 1),
   .arrive (.invite owner "second"), .step 1 {}, .step 1 { token := 102 }, .step 1 {}, .step 0 {}]

/-- Nine members and one invitation fill Basic; the late resend leaves eleven seats taken. -/
theorem seatsFit_fails_after_late_resend :
    SeatsFit (crowded 9).world.db 1 (crowded 9).world.lastNow ∧
      ∃ s', (seatMachine id).play lateResend (crowded 9) = some s' ∧
        ¬ SeatsFit s'.world.db 1 s'.world.lastNow := by
  constructor
  · intro subscription found
    cases found
    decide
  · refine ⟨_, rfl, fun fits => ?_⟩
    exact absurd (fits _ rfl) (by decide)

/-- With one member less the same schedule meets the condition, and ten seats are taken. -/
theorem seatsFit_run_late_resend : ∃ s', (seatMachine id).play lateResend (crowded 8) = some s' ∧
    SeatsFit s'.world.db 1 s'.world.lastNow := by
  have fits : SeatsFit (crowded 8).world.db 1 (crowded 8).world.lastNow := by
    intro subscription found
    cases found
    decide
  refine ⟨_, rfl, seatsFit_run id (s := crowded 8) lateResend rfl fits ?_ (Int.le_refl _)⟩
  refine .cons trivial rfl (.cons ?_ rfl (.cons ?_ rfl (.cons trivial rfl (.cons trivial rfl
    (.cons ?_ rfl (.cons ?_ rfl (.cons ?_ rfl (.cons ?_ rfl (.nil _)))))))))
  all_goals
    intro act resume waiting
    cases waiting
  all_goals try exact trivial
  intro _ _ _ _ _ _ _ subscription found
  cases found
  decide

end DataVault.Invitations
