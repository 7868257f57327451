/-
Module: DataVault.Auth.OnboardingInvariants
Layer: Proof
Purpose: What holds in every state of the registrations: every company has one owner and one subscription, a stored
  verification is the latest one that was written, and every code is used by one request at most.
Imports: DataVault.Auth.OnboardingSteps
Trusted boundary: none
Main exports: CompaniesSound, VerificationsSound, CodesSound, CodeMove, Ready, Move.companiesSound,
  Move.verificationsSound, Move.codesSound
-/
import DataVault.Auth.OnboardingSteps

namespace DataVault.Auth.Onboarding

open DataVault.Companies DataVault.Control DataVault.Interleaving DataVault.Store DataVault.Subscriptions
open DataVault.Users

variable {lib : Libraries} {w w' : OnboardingWorld} {act : Option (Nat × OnboardingAct)}
variable {company : StoredCompany} {owner : Account} {subscription : Subscription}

/-! ### Companies -/

/-- Companies have distinct ids, one owner and one subscription. Ids below the next one alone are in use, so that a new
company finds neither an owner nor a subscription with its id. -/
structure CompaniesSound (w : OnboardingWorld) : Prop where
  ids : (w.stages.map (·.1)).Nodup
  allocated : ∀ stage ∈ w.stages, stage.1 < w.nextId
  owners : ∀ owner ∈ w.owners, ∀ companyId, owner.companyId = some companyId → companyId < w.nextId
  subscriptions : ∀ subscription ∈ w.subscriptions, subscription.companyId < w.nextId
  owned : ∀ stage ∈ w.stages, countDocuments w.owners (·.companyId = some stage.1) = 1
  subscribed : ∀ stage ∈ w.stages, countDocuments w.subscriptions (·.companyId = stage.1) = 1

theorem Created.stages (created : Created w w' company owner subscription) :
    w'.stages = (company.id, company.activatedAt) :: w.stages := by
  simp [OnboardingWorld.stages, created.companies]

theorem Created.owners (created : Created w w' company owner subscription) : w'.owners = owner :: w.owners := by
  simp [OnboardingWorld.owners, created.users, created.role]

theorem Created.companiesSound (created : Created w w' company owner subscription) (sound : CompaniesSound w) :
    CompaniesSound w' := by
  have stages := created.stages
  have people := created.owners
  have bills := created.subscriptions
  have named := created.named
  have more := created.allocated
  have mine := created.owned
  have billed := created.subscribed
  have new : ∀ stage ∈ w.stages, stage.1 ≠ company.id := fun stage mem same =>
    Nat.lt_irrefl _ (named ▸ same ▸ sound.allocated stage mem)
  have grows : ∀ {id : Nat}, id < w.nextId → id < w'.nextId := fun below => by omega
  have here : company.id < w'.nextId := by omega
  constructor
  case ids =>
    rw [stages, List.map_cons, List.nodup_cons]
    refine ⟨fun mem => ?_, sound.ids⟩
    obtain ⟨stage, there, same⟩ := List.mem_map.mp mem
    exact new stage there same
  case allocated =>
    intro stage mem
    rw [stages] at mem
    rcases List.mem_cons.mp mem with rfl | mem
    · exact here
    · exact grows (sound.allocated stage mem)
  case owners =>
    intro other mem companyId assigned
    rw [people] at mem
    rcases List.mem_cons.mp mem with rfl | mem
    · cases mine.symm.trans assigned
      exact here
    · exact grows (sound.owners other mem companyId assigned)
  case subscriptions =>
    intro other mem
    rw [bills] at mem
    rcases List.mem_cons.mp mem with rfl | mem
    · rw [billed]
      exact here
    · exact grows (sound.subscriptions other mem)
  case owned =>
    intro stage mem
    rw [stages] at mem
    rw [people, countDocuments_cons]
    rcases List.mem_cons.mp mem with rfl | mem
    · rw [countDocuments_eq_zero, mine]
      · simp
      · intro other there
        refine decide_eq_false fun assigned => ?_
        exact Nat.lt_irrefl _ (named ▸ sound.owners other there _ assigned)
    · rw [sound.owned stage mem, mine]
      simp [(new stage mem).symm]
  case subscribed =>
    intro stage mem
    rw [stages] at mem
    rw [bills, countDocuments_cons]
    rcases List.mem_cons.mp mem with rfl | mem
    · rw [countDocuments_eq_zero, billed]
      · simp
      · intro other there
        refine decide_eq_false fun assigned => ?_
        exact Nat.lt_irrefl _ (named ▸ assigned ▸ sound.subscriptions other there)
    · rw [sound.subscribed stage mem, billed]
      simp [(new stage mem).symm]

/-- Whatever leaves ids, owners and subscriptions alone. -/
theorem CompaniesSound.congr (sound : CompaniesSound w) (ids : w'.stages.map (·.1) = w.stages.map (·.1))
    (owners : w'.owners = w.owners) (subscriptions : w'.subscriptions = w.subscriptions)
    (allocated : w.nextId ≤ w'.nextId) : CompaniesSound w' := by
  have stage : ∀ {P : Nat → Prop}, (∀ stage ∈ w.stages, P stage.1) → ∀ stage ∈ w'.stages, P stage.1 := by
    intro P all stage mem
    obtain ⟨before, there, same⟩ := List.mem_map.mp (ids ▸ List.mem_map_of_mem (f := Prod.fst) mem)
    exact same ▸ all before there
  constructor
  case ids => exact ids ▸ sound.ids
  case allocated =>
    exact stage (P := (· < w'.nextId)) fun before mem => Nat.lt_of_lt_of_le (sound.allocated before mem) allocated
  case owners =>
    intro owner mem companyId assigned
    exact Nat.lt_of_lt_of_le (sound.owners owner (owners ▸ mem) companyId assigned) allocated
  case subscriptions =>
    intro subscription mem
    exact Nat.lt_of_lt_of_le (sound.subscriptions subscription (subscriptions ▸ mem)) allocated
  case owned =>
    rw [owners]
    exact stage (P := fun id => countDocuments w.owners (·.companyId = some id) = 1) sound.owned
  case subscribed =>
    rw [subscriptions]
    exact stage (P := fun id => countDocuments w.subscriptions (·.companyId = id) = 1) sound.subscribed

theorem Move.companiesSound (move : Move lib w w' act) (sound : CompaniesSound w) : CompaniesSound w' := by
  cases move
  case aside stages owners subscriptions _ _ ids _ _ _ _ =>
    exact sound.congr (congrArg _ stages) owners subscriptions ids
  case signedUp created _ _ _ _ _ _ _ _ _ _ => exact created.companiesSound sound
  case registered created _ _ _ _ _ _ _ _ => exact created.companiesSound sound
  case verified companies _ _ becomes =>
    rw [becomes]
    exact sound.congr (by simp [OnboardingWorld.stages, companies]) rfl rfl (Nat.le_refl _)
  case purgedVerification becomes | purgedExchange becomes | resent becomes | issued becomes | consumed becomes
    | signed becomes =>
    rw [becomes]
    exact sound.congr rfl rfl rfl (Nat.le_refl _)

/-! ### Verification tokens

An upsert may write a verification again after the expiry index has removed it, so a stored verification is not the
first of its company; it is the last one written, and the record of writes, not the collection, says which that is. -/

/-- A company has one verification at most, with the latest token that was written for it. -/
structure VerificationsSound (lib : Libraries) (w : OnboardingWorld) : Prop where
  unique : (w.verifications.map (·.companyId)).Nodup
  latest : ∀ verification ∈ w.verifications, ∃ write, w.latestWrite verification.companyId = some write ∧
    verification.tokenHash = lib.hashToken write.token ∧ verification.expiresAt = write.expiresAt

/-- Verifications that are removed. -/
theorem VerificationsSound.remove {before after : List CompanyVerification} {verification : CompanyVerification}
    (sound : VerificationsSound lib w) (split : w.verifications = before ++ verification :: after)
    (verifications : w'.verifications = before ++ after) (writes : w'.writes = w.writes) :
    VerificationsSound lib w' := by
  have fewer : List.Sublist (before ++ after) w.verifications := by
    rw [split]
    exact (List.sublist_cons_self _ _).append_left before
  constructor
  · rw [verifications]
    exact sound.unique.sublist (fewer.map _)
  · intro other mem
    rw [verifications] at mem
    obtain ⟨write, latest, digest⟩ := sound.latest other (fewer.subset mem)
    exact ⟨write, by rw [OnboardingWorld.latestWrite, writes, ← OnboardingWorld.latestWrite, latest], digest⟩

/-- A verification that is written with a new token, beside those of other companies. -/
theorem VerificationsSound.write (before after : List CompanyVerification) {verification : CompanyVerification}
    {write : VerificationWrite} (sound : VerificationsSound lib w)
    (digest : verification.companyId = write.companyId ∧ verification.tokenHash = lib.hashToken write.token ∧
      verification.expiresAt = write.expiresAt)
    (others : List.Sublist (before ++ after) w.verifications)
    (elsewhere : ∀ other ∈ before ++ after, other.companyId ≠ write.companyId)
    (verifications : w'.verifications = before ++ verification :: after) (writes : w'.writes = write :: w.writes) :
    VerificationsSound lib w' := by
  constructor
  · rw [verifications, List.map_append, List.map_cons, List.nodup_middle, List.nodup_cons, ← List.map_append]
    refine ⟨fun mem => ?_, sound.unique.sublist (others.map _)⟩
    obtain ⟨other, there, same⟩ := List.mem_map.mp mem
    exact elsewhere other there (same.trans digest.1)
  · intro other mem
    rw [verifications] at mem
    rcases List.mem_cons.mp (List.perm_middle.mem_iff.mp mem) with rfl | mem
    · exact ⟨write, by simp [OnboardingWorld.latestWrite, writes, digest.1], digest.2⟩
    · obtain ⟨earlier, latest, same⟩ := sound.latest other (others.subset mem)
      refine ⟨earlier, ?_, same⟩
      rw [OnboardingWorld.latestWrite, writes, List.find?_cons_of_neg (by simpa using (elsewhere other mem).symm)]
      exact latest

theorem Move.verificationsSound (move : Move lib w w' act) (sound : VerificationsSound lib w) :
    VerificationsSound lib w' := by
  have same : w'.verifications = w.verifications → w'.writes = w.writes → VerificationsSound lib w' := by
    intro verifications writes
    refine ⟨verifications ▸ sound.unique, fun verification mem => ?_⟩
    rw [OnboardingWorld.latestWrite, writes]
    exact sound.latest verification (verifications ▸ mem)
  cases move
  case aside verifications _ _ writes _ _ _ => exact same verifications writes
  case registered verifications writes _ _ _ => exact same verifications writes
  case purgedExchange becomes | issued becomes | consumed becomes | signed becomes =>
    rw [becomes] at same ⊢
    exact same rfl rfl
  case purgedVerification split becomes =>
    rw [becomes]
    exact sound.remove split rfl rfl
  case verified split _ _ _ _ becomes =>
    rw [becomes]
    exact sound.remove split rfl rfl
  case signedUp digest unique verifications writes _ _ _ _ =>
    exact sound.write [] w.verifications ⟨digest.1, digest.2, rfl⟩ (List.Sublist.refl _)
      (fun other mem => unique other mem) verifications writes
  case resent write earlier later verification digest replaced becomes =>
    rw [becomes]
    refine sound.write earlier later digest ?_ ?_ rfl rfl
    · rcases replaced with ⟨old, _, split⟩ | ⟨_, split⟩
      · rw [split]
        exact (List.sublist_cons_self _ _).append_left _
      · rw [split]
    · rcases replaced with ⟨old, mine, split⟩ | ⟨unique, split⟩
      · have unique := sound.unique
        rw [split, List.map_append, List.map_cons, List.nodup_middle, List.nodup_cons, ← List.map_append] at unique
        intro other mem same
        exact unique.1 (List.mem_map.mpr ⟨other, mem, same.trans mine.symm⟩)
      · rw [← split]
        exact unique

/-! ### Codes

A login code passes through three places: its digest is stored, the digest is deleted by one run, and that run signs a
token. Each is a set of digests that the next one empties, so that two requests cannot both be past the deletion. -/

/-- Every code has one digest, which is stored for its user until it is used; a token is signed for a used code, once
and for its user. -/
structure CodesSound (lib : Libraries) (w : OnboardingWorld) : Prop where
  codes : (w.codes.map (·.1)).Nodup
  consumed : (w.consumed.map (·.2)).Nodup
  exchanges : (w.exchanges.map (·.codeHash)).Nodup
  stored : ∀ exchange ∈ w.exchanges,
    (∃ code, exchange.codeHash = lib.hashToken code ∧ (code, exchange.userId) ∈ w.codes) ∧
      exchange.codeHash ∉ w.consumed.map (·.2)
  spent : ∀ codeHash ∈ w.consumed.map (·.2), ∃ issued ∈ w.codes, codeHash = lib.hashToken issued.1
  signed : ∀ token ∈ w.signed, ∀ codeHash, token.source = some codeHash → codeHash ∈ w.consumed.map (·.2) ∧
    ∃ code, codeHash = lib.hashToken code ∧ (code, some token.payload.id) ∈ w.codes
  once : ∀ codeHash, countDocuments w.signed (·.source = some codeHash) ≤ 1

/-- The run has used a code of this user and has signed nothing for it. -/
def Ready (lib : Libraries) (run codeHash userId : Nat) (w : OnboardingWorld) : Prop :=
  (run, codeHash) ∈ w.consumed ∧ (∀ token ∈ w.signed, token.source ≠ some codeHash) ∧
    ∃ code, codeHash = lib.hashToken code ∧ (code, some userId) ∈ w.codes

/-- What a run knows when it signs for a code: that it has consumed the exchange of the code, that the code was issued
for the user, and that nobody has signed for it. -/
def Signing (lib : Libraries) (w : OnboardingWorld) (act : Option (Nat × OnboardingAct)) : Prop :=
  ∀ run codeHash payload, act = some (run, .sign (some codeHash) payload) → Ready lib run codeHash payload.id w

/-- Exchanges may disappear. -/
theorem CodesSound.fewer (sound : CodesSound lib w) (exchanges : List.Sublist w'.exchanges w.exchanges)
    (codes : w'.codes = w.codes) (consumed : w'.consumed = w.consumed) (signed : w'.signed = w.signed) :
    CodesSound lib w' where
  codes := codes ▸ sound.codes
  consumed := consumed ▸ sound.consumed
  exchanges := sound.exchanges.sublist (exchanges.map _)
  stored exchange mem := codes ▸ consumed ▸ sound.stored exchange (exchanges.subset mem)
  spent := codes ▸ consumed ▸ sound.spent
  signed := codes ▸ consumed ▸ signed ▸ sound.signed
  once := signed ▸ sound.once

/-- A new code is the digest of nothing that is stored or was used. -/
theorem CodesSound.issue {code : Nat} {exchange : GoogleOAuthExchange} (sound : CodesSound lib w)
    (collisionFree : Function.Injective lib.hashToken) (digest : exchange.codeHash = lib.hashToken code)
    (fresh : ∀ issued ∈ w.codes, issued.1 ≠ code) :
    CodesSound lib { w with exchanges := exchange :: w.exchanges, codes := (code, exchange.userId) :: w.codes } := by
  have unspent : exchange.codeHash ∉ w.consumed.map (·.2) := by
    intro mem
    obtain ⟨issued, there, same⟩ := sound.spent _ mem
    exact fresh issued there (collisionFree (same.symm.trans digest))
  constructor
  case codes =>
    rw [List.map_cons, List.nodup_cons]
    refine ⟨fun mem => ?_, sound.codes⟩
    obtain ⟨issued, there, same⟩ := List.mem_map.mp mem
    exact fresh issued there same
  case consumed => exact sound.consumed
  case exchanges =>
    rw [List.map_cons, List.nodup_cons]
    refine ⟨fun mem => ?_, sound.exchanges⟩
    obtain ⟨other, there, same⟩ := List.mem_map.mp mem
    obtain ⟨⟨old, hashed, issued⟩, _⟩ := sound.stored other there
    exact fresh _ issued (collisionFree (hashed.symm.trans (same.trans digest)))
  case stored =>
    intro other mem
    rcases List.mem_cons.mp mem with rfl | mem
    · exact ⟨⟨code, digest, List.mem_cons_self⟩, unspent⟩
    · obtain ⟨⟨old, hashed, issued⟩, unused⟩ := sound.stored other mem
      exact ⟨⟨old, hashed, List.mem_cons_of_mem _ issued⟩, unused⟩
  case spent =>
    intro codeHash mem
    obtain ⟨issued, there, same⟩ := sound.spent codeHash mem
    exact ⟨issued, List.mem_cons_of_mem _ there, same⟩
  case signed =>
    intro token mem codeHash source
    obtain ⟨used, old, hashed, issued⟩ := sound.signed token mem codeHash source
    exact ⟨used, old, hashed, List.mem_cons_of_mem _ issued⟩
  case once => exact sound.once

/-- A stored code is used and gone. -/
theorem CodesSound.consume {run : Nat} {before after : List GoogleOAuthExchange} {exchange : GoogleOAuthExchange}
    (sound : CodesSound lib w) (split : w.exchanges = before ++ exchange :: after) :
    CodesSound lib { w with
      exchanges := before ++ after, consumed := (run, exchange.codeHash) :: w.consumed } := by
  obtain ⟨⟨code, hashed, issued⟩, unused⟩ := sound.stored exchange (by simp [split])
  have distinct := sound.exchanges
  rw [split, List.map_append, List.map_cons, List.nodup_middle, List.nodup_cons, ← List.map_append] at distinct
  constructor
  case codes => exact sound.codes
  case consumed =>
    rw [List.map_cons, List.nodup_cons]
    exact ⟨unused, sound.consumed⟩
  case exchanges => exact distinct.2
  case stored =>
    intro other mem
    have there : other ∈ w.exchanges := by
      rw [split]
      exact List.perm_middle.mem_iff.mpr (List.mem_cons_of_mem _ mem)
    obtain ⟨origin, unused⟩ := sound.stored other there
    refine ⟨origin, fun used => ?_⟩
    rcases List.mem_cons.mp used with same | used
    · exact distinct.1 (List.mem_map.mpr ⟨other, mem, same⟩)
    · exact unused used
  case spent =>
    intro codeHash mem
    rcases List.mem_cons.mp mem with rfl | mem
    · exact ⟨_, issued, hashed⟩
    · exact sound.spent codeHash mem
  case signed =>
    intro token mem codeHash source
    obtain ⟨used, origin⟩ := sound.signed token mem codeHash source
    exact ⟨List.mem_cons_of_mem _ used, origin⟩
  case once => exact sound.once

/-- A token is signed for a code that the run has used and nobody has signed for. -/
theorem CodesSound.sign (run : Nat) {source : Option Nat} {payload : TokenPayload} (sound : CodesSound lib w)
    (ready : ∀ codeHash, source = some codeHash → Ready lib run codeHash payload.id w) :
    CodesSound lib { w with signed := ⟨source, payload⟩ :: w.signed } := by
  have covered : ∀ token ∈ (⟨source, payload⟩ :: w.signed), ∀ codeHash, token.source = some codeHash →
      codeHash ∈ w.consumed.map (·.2) ∧
        ∃ code, codeHash = lib.hashToken code ∧ (code, some token.payload.id) ∈ w.codes := by
    intro token mem codeHash given
    rcases List.mem_cons.mp mem with rfl | mem
    · obtain ⟨used, _, origin⟩ := ready codeHash given
      exact ⟨List.mem_map.mpr ⟨_, used, rfl⟩, origin⟩
    · exact sound.signed token mem codeHash given
  refine { sound with signed := covered, once := fun codeHash => ?_ }
  simp only [countDocuments_cons]
  split
  case isTrue given =>
    obtain ⟨_, unsigned, _⟩ := ready codeHash (of_decide_eq_true given)
    have none := countDocuments_eq_zero fun token mem => decide_eq_false (unsigned token mem)
    exact Nat.le_of_eq (by rw [none])
  case isFalse => exact sound.once codeHash

/-! ### Moves of codes

Of the ten moves only three concern codes: one issues a code, one uses it and one signs for it. The others leave the
record of codes alone and remove exchanges at most, which no invariant minds. `CodeMove` says this once; what a move
keeps of codes is then a case for each of the four. -/

/-- What a move does to codes and access tokens: most moves leave them as they are, and one each issues a code, consumes
an exchange and signs a token. -/
inductive CodeMove (lib : Libraries) (w w' : OnboardingWorld) (act : Option (Nat × OnboardingAct)) : Prop where
  | kept (exchanges : List.Sublist w'.exchanges w.exchanges) (codes : w'.codes = w.codes)
      (consumed : w'.consumed = w.consumed) (signed : w'.signed = w.signed)
  | issued (code : Nat) (exchange : GoogleOAuthExchange) (digest : exchange.codeHash = lib.hashToken code)
      (fresh : ∀ issued ∈ w.codes, issued.1 ≠ code)
      (becomes : w' = { w with exchanges := exchange :: w.exchanges, codes := (code, exchange.userId) :: w.codes })
  | used (run : Nat) (before after : List GoogleOAuthExchange) (exchange : GoogleOAuthExchange)
      (split : w.exchanges = before ++ exchange :: after)
      (becomes : w' = { w with
        exchanges := before ++ after, consumed := (run, exchange.codeHash) :: w.consumed })
  | signed (run : Nat) (source : Option Nat) (payload : TokenPayload) (asked : act = some (run, .sign source payload))
      (becomes : w' = { w with signed := ⟨source, payload⟩ :: w.signed })

theorem Move.codeMove (move : Move lib w w' act) : CodeMove lib w w' act := by
  have removed : ∀ {before after : List GoogleOAuthExchange} {exchange : GoogleOAuthExchange},
      w.exchanges = before ++ exchange :: after → List.Sublist (before ++ after) w.exchanges := by
    intro before after exchange split
    rw [split]
    exact (List.sublist_cons_self exchange after).append_left before
  cases move
  case aside exchanges _ _ codes consumed signed => exact .kept (by rw [exchanges]) codes consumed signed
  case signedUp exchanges codes consumed signed => exact .kept (by rw [exchanges]) codes consumed signed
  case registered split _ _ _ _ exchanges _ _ codes consumed signed =>
    exact .kept (exchanges ▸ removed split) codes consumed signed
  case purgedVerification becomes | resent becomes | verified becomes =>
    rw [becomes]
    exact .kept (List.Sublist.refl _) rfl rfl rfl
  case purgedExchange split _ becomes =>
    rw [becomes]
    exact .kept (removed split) rfl rfl rfl
  case issued code exchange digest fresh becomes => exact .issued code exchange digest fresh becomes
  case consumed run now before after exchange asked split login becomes =>
    exact .used run before after exchange split becomes
  case signed run source payload asked becomes => exact .signed run source payload asked becomes

theorem Move.codesSound (move : Move lib w w' act) (collisionFree : Function.Injective lib.hashToken)
    (signing : Signing lib w act) (sound : CodesSound lib w) : CodesSound lib w' := by
  cases move.codeMove with
  | kept exchanges codes consumed signed => exact sound.fewer exchanges codes consumed signed
  | issued code exchange digest fresh becomes =>
      rw [becomes]
      exact sound.issue collisionFree digest fresh
  | used run before after exchange split becomes =>
      rw [becomes]
      exact sound.consume split
  | signed run source payload asked becomes =>
      rw [becomes]
      refine sound.sign run fun codeHash same => ?_
      subst same
      exact signing run codeHash payload asked

theorem Move.codes_subset (move : Move lib w w' act) : w.codes ⊆ w'.codes := by
  cases move.codeMove
  case kept codes _ _ => simp [codes]
  case issued becomes | used becomes | signed becomes => simp [becomes]

/-- Codes that were issued and used stay so, and only a step for this code signs for it. -/
theorem Move.ready {run codeHash userId : Nat} (move : Move lib w w' act)
    (foreign : ∀ other payload, act ≠ some (other, .sign (some codeHash) payload))
    (ready : Ready lib run codeHash userId w) : Ready lib run codeHash userId w' := by
  obtain ⟨used, unsigned, code, hashed, issued⟩ := ready
  have still := move.codes_subset issued
  have kept : w.consumed ⊆ w'.consumed → w'.signed = w.signed → Ready lib run codeHash userId w' :=
    fun consumed signed => ⟨consumed used, signed ▸ unsigned, code, hashed, still⟩
  cases move.codeMove
  case kept consumed signed => exact kept (by simp [consumed]) signed
  case issued becomes | used becomes => exact kept (by simp [becomes]) (by rw [becomes])
  case signed other source payload asked becomes =>
    refine ⟨by simp [becomes, used], fun token mem source => ?_, code, hashed, still⟩
    rw [becomes] at mem
    rcases List.mem_cons.mp mem with rfl | mem
    · exact foreign other payload (source ▸ asked)
    · exact unsigned token mem source

end DataVault.Auth.Onboarding
