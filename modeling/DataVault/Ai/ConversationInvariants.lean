/-
Module: DataVault.Ai.ConversationInvariants
Layer: Proof
Purpose: What holds in every state of the conversations: their messages are those of the exchanges that were committed
  to them, and every request id holds one lease at most.
Imports: DataVault.Ai.ConversationSteps
Trusted boundary: none
Main exports: ConversationsSound, LeasesSound, Unused, Move.conversationsSound, Move.leasesSound
-/
import DataVault.Ai.ConversationSteps

namespace DataVault.Ai

open DataVault.Control DataVault.Interleaving DataVault.Store DataVault.Users

variable {config : AiConfig} {w w' : AiWorld} {act : Option (Nat × AiAct)}
variable {conversations : List AiConversation} {conversation changed : AiConversation}

/-! ### Conversations without their leases

Most steps only take or give back a lease. The shelf is the collection without leases; what holds of it and of the
messages is untouched by these steps, and they are dealt with by one lemma. -/

/-- The conversation as it is while no request works on it. -/
def AiConversation.unleased (conversation : AiConversation) : AiConversation :=
  { conversation with activeRequestId := none, activeRequestExpiresAt := none }

/-- The conversations without their leases. -/
def AiWorld.shelf (w : AiWorld) : List AiConversation := w.conversations.map (·.unleased)

/-- A conversation has this id. -/
def AiWorld.stores (w : AiWorld) (id : Nat) : Bool := id ∈ w.conversations.map (·.id)

theorem shelf_ids : w.shelf.map (·.id) = w.conversations.map (·.id) := by
  simp [AiWorld.shelf, AiConversation.unleased]

theorem stores_iff {id : Nat} : w.stores id = true ↔ ∃ conversation ∈ w.shelf, conversation.id = id := by
  rw [AiWorld.stores, ← shelf_ids, decide_eq_true_iff, List.mem_map]

theorem mem_shelf (mem : conversation ∈ w.conversations) : conversation.unleased ∈ w.shelf := List.mem_map_of_mem mem

theorem mem_replace {other : AiConversation} (mem : other ∈ replace conversations changed) :
    other = changed ∨ other ∈ conversations ∧ other.id ≠ changed.id := by
  obtain ⟨before, there, rfl⟩ := List.mem_map.mp mem
  by_cases same : before.id = changed.id
  · exact .inl (if_pos same)
  · rw [if_neg same]
    exact .inr ⟨there, same⟩

theorem replace_ids : (replace conversations changed).map (·.id) = conversations.map (·.id) := by
  rw [replace, List.map_map]
  refine List.map_congr_left fun other _ => ?_
  by_cases same : other.id = changed.id <;> simp [same]

theorem mem_without {other : AiConversation} {id : Nat} :
    other ∈ without conversations id ↔ other ∈ conversations ∧ other.id ≠ id := by
  rw [without, List.mem_filter, decide_eq_true_iff]

/-- What changes in a conversation beside its lease changes on the shelf. -/
theorem shelf_replace (conversations : List AiConversation) (changed : AiConversation) :
    (replace conversations changed).map (·.unleased) =
      replace (conversations.map (·.unleased)) changed.unleased := by
  rw [replace, replace, List.map_map, List.map_map]
  refine List.map_congr_left fun other _ => ?_
  by_cases same : other.id = changed.id <;> simp [AiConversation.unleased, same]

theorem shelf_without (conversations : List AiConversation) (id : Nat) :
    (without conversations id).map (·.unleased) = without (conversations.map (·.unleased)) id := by
  rw [without, without, List.filter_map]
  rfl

/-- A document that is replaced by itself. -/
theorem replace_self (distinct : (conversations.map (·.id)).Nodup) (mem : conversation ∈ conversations) :
    replace conversations conversation = conversations := by
  rw [replace]
  refine (List.map_congr_left fun other there => ?_).trans (List.map_id' conversations)
  split
  · rename_i same
    exact (List.inj_on_of_nodup_map distinct there mem same).symm
  · rfl

/-! ### Conversations and their messages -/

/-- The stored messages are those of the exchanges of the stored conversations; the usage records are those of all
exchanges. -/
structure ConversationsSound (config : AiConfig) (w : AiWorld) (exchanges : List Exchange) : Prop where
  ids : (w.shelf.map (·.id)).Nodup
  allocated : ∀ conversation ∈ w.shelf, conversation.id < w.nextId
  past : ∀ exchange ∈ exchanges, exchange.usage.conversationId < w.nextId
  usage : w.usage = exchanges.map (·.usage)
  requests : (w.usage.map (·.requestId)).Nodup
  messages : w.messages = (exchanges.filter fun exchange => w.stores exchange.usage.conversationId).flatMap (·.messages)
  counted : ∀ conversation ∈ w.shelf, conversation.messageCount =
    2 * (countDocuments exchanges fun exchange => exchange.usage.conversationId = conversation.id : Nat)
  bounded : ∀ conversation ∈ w.shelf, conversation.messageCount ≤ config.maxConversationMessages
  owned : ∀ exchange ∈ exchanges, ∀ conversation ∈ w.shelf, conversation.id = exchange.usage.conversationId →
    conversation.companyId = exchange.usage.companyId ∧ conversation.userId = exchange.usage.userId

theorem ConversationsSound.distinct {exchanges : List Exchange} (sound : ConversationsSound config w exchanges) :
    DistinctIds w := by
  rw [DistinctIds, ← shelf_ids]
  exact sound.ids

/-- Leases do not matter. -/
theorem ConversationsSound.congr {exchanges : List Exchange} (sound : ConversationsSound config w exchanges)
    (shelf : w'.shelf = w.shelf) (messages : w'.messages = w.messages) (usage : w'.usage = w.usage)
    (ids : w'.nextId = w.nextId) : ConversationsSound config w' exchanges := by
  have stores : w'.stores = w.stores := by
    funext id
    rw [AiWorld.stores, AiWorld.stores, ← shelf_ids, ← shelf_ids, shelf]
  obtain ⟨distinct, allocated, past, usages, requests, stored, counted, bounded, owned⟩ := sound
  exact ⟨shelf ▸ distinct, shelf ▸ ids ▸ allocated, ids ▸ past, usage ▸ usages, usage ▸ requests,
    by rw [messages, stores, stored], shelf ▸ counted, shelf ▸ bounded, shelf ▸ owned⟩

/-- The messages of the other conversations. -/
theorem deleteMany_messages {actor : AuthenticatedUser} {id : Nat} {stored : Nat → Bool} (exchanges : List Exchange)
    (owned : ∀ exchange ∈ exchanges, exchange.usage.conversationId = id →
      exchange.usage.companyId = actor.companyId ∧ exchange.usage.userId = actor.id) :
    deleteMany (fun message => message.ownedBy actor id)
        ((exchanges.filter fun exchange => stored exchange.usage.conversationId).flatMap (·.messages)) =
      (exchanges.filter fun exchange => stored exchange.usage.conversationId &&
        decide (exchange.usage.conversationId ≠ id)).flatMap (·.messages) := by
  induction exchanges with
  | nil => rfl
  | cons exchange rest ih =>
      have rest := ih fun other mem => owned other (List.mem_cons_of_mem _ mem)
      rw [deleteMany] at rest ⊢
      cases kept : stored exchange.usage.conversationId with
      | false =>
          rw [List.filter_cons_of_neg (by simp [kept]), List.filter_cons_of_neg (by simp [kept])]
          exact rest
      | true =>
          rw [List.filter_cons_of_pos (by simp [kept]), List.flatMap_cons, List.filter_append, rest]
          by_cases same : exchange.usage.conversationId = id
          · obtain ⟨company, user⟩ := owned exchange List.mem_cons_self same
            rw [List.filter_cons_of_neg (by simp [same])]
            rw [List.filter_eq_nil_iff.mpr, List.nil_append]
            intro message mem
            obtain ⟨placed, inCompany, ofUser⟩ := Exchange.mem_messages mem
            simp [AiMessage.ownedBy, placed, inCompany, ofUser, same, company, user]
          · rw [List.filter_cons_of_pos (by simp [kept, same]), List.flatMap_cons]
            rw [List.filter_eq_self.mpr]
            intro message mem
            simp [AiMessage.ownedBy, (Exchange.mem_messages mem).1, same]

theorem ConversationsSound.create {exchanges : List Exchange} {requestId : Nat}
    (sound : ConversationsSound config w exchanges) (named : conversation.id = w.nextId)
    (empty : conversation.messageCount = 0) :
    ConversationsSound config { w with
      conversations := conversation :: w.conversations, nextId := w.nextId + 1
      acquired := requestId :: w.acquired } exchanges := by
  have distinct := sound.distinct
  obtain ⟨ids, allocated, past, usage, requests, messages, counted, bounded, owned⟩ := sound
  have elsewhere : ∀ exchange ∈ exchanges, exchange.usage.conversationId ≠ conversation.id := by
    intro exchange mem same
    have below := past exchange mem
    omega
  constructor
  case ids =>
    rw [shelf_ids] at ids ⊢
    refine List.nodup_cons.mpr ⟨fun mem => ?_, ids⟩
    obtain ⟨other, there, same⟩ := List.mem_map.mp mem
    have below : other.id < w.nextId := allocated other.unleased (mem_shelf there)
    exact Nat.lt_irrefl _ (named ▸ same ▸ below)
  case allocated =>
    intro other mem
    rcases List.mem_cons.mp mem with rfl | mem
    · simp only [AiConversation.unleased]
      omega
    · exact Nat.lt_succ_of_lt (allocated other mem)
  case past => exact fun exchange mem => Nat.lt_succ_of_lt (past exchange mem)
  case usage => exact usage
  case requests => exact requests
  case messages =>
    rw [messages]
    refine congrArg (List.flatMap _) (List.filter_congr fun exchange mem => ?_)
    simp [AiWorld.stores, elsewhere exchange mem]
  case counted =>
    intro other mem
    rcases List.mem_cons.mp mem with rfl | mem
    · have none := countDocuments_eq_zero fun exchange there => decide_eq_false (elsewhere exchange there)
      change conversation.messageCount = 2 * (countDocuments exchanges _ : Nat)
      rw [empty]
      exact (congrArg (fun count : Nat => 2 * (count : Int)) none).symm
    · exact counted other mem
  case bounded =>
    intro other mem
    rcases List.mem_cons.mp mem with rfl | mem
    · simp only [AiConversation.unleased]
      omega
    · exact bounded other mem
  case owned =>
    intro exchange there other mem same
    rcases List.mem_cons.mp mem with rfl | mem
    · exact absurd same.symm (elsewhere exchange there)
    · exact owned exchange there other mem same

/-- A conversation that is removed with its messages. -/
theorem ConversationsSound.remove {exchanges : List Exchange} (sound : ConversationsSound config w exchanges)
    {id : Nat} (conversations : w'.conversations = without w.conversations id)
    (messages : w'.messages = (exchanges.filter fun exchange => w.stores exchange.usage.conversationId &&
      decide (exchange.usage.conversationId ≠ id)).flatMap (·.messages))
    (usage : w'.usage = w.usage) (ids : w'.nextId = w.nextId) : ConversationsSound config w' exchanges := by
  have shelf : w'.shelf = without w.shelf id := by rw [AiWorld.shelf, conversations, shelf_without, AiWorld.shelf]
  have kept : ∀ conversation ∈ w'.shelf, conversation ∈ w.shelf := fun conversation mem =>
    (mem_without.mp (shelf ▸ mem)).1
  obtain ⟨distinct, allocated, past, usages, requests, stored, counted, bounded, owned⟩ := sound
  refine ⟨?_, ?_, ids ▸ past, usage ▸ usages, usage ▸ requests, ?_, ?_, ?_, ?_⟩
  · rw [shelf]
    exact distinct.sublist ((List.filter_sublist).map _)
  · exact fun conversation mem => ids ▸ allocated conversation (kept conversation mem)
  · rw [messages]
    refine congrArg (List.flatMap _) (List.filter_congr fun exchange _ => ?_)
    rw [Bool.eq_iff_iff, stores_iff, Bool.and_eq_true, stores_iff, decide_eq_true_iff, shelf]
    constructor
    · rintro ⟨⟨conversation, mem, same⟩, differs⟩
      exact ⟨conversation, mem_without.mpr ⟨mem, same ▸ differs⟩, same⟩
    · rintro ⟨conversation, mem, same⟩
      obtain ⟨mem, differs⟩ := mem_without.mp mem
      exact ⟨⟨conversation, mem, same⟩, same ▸ differs⟩
  · exact fun conversation mem => counted conversation (kept conversation mem)
  · exact fun conversation mem => bounded conversation (kept conversation mem)
  · exact fun exchange there conversation mem => owned exchange there conversation (kept conversation mem)

/-- A conversation without messages has no exchanges. -/
theorem ConversationsSound.no_exchanges {exchanges : List Exchange} (sound : ConversationsSound config w exchanges)
    (mem : conversation ∈ w.conversations) (empty : conversation.messageCount = 0) :
    ∀ exchange ∈ exchanges, exchange.usage.conversationId ≠ conversation.id := by
  have counted := sound.counted _ (mem_shelf mem)
  simp only [AiConversation.unleased, empty] at counted
  have none : countDocuments exchanges (fun exchange => exchange.usage.conversationId = conversation.id) = 0 := by omega
  rw [countDocuments, List.countP_eq_zero] at none
  exact fun exchange there same => none exchange there (decide_eq_true same)

/-- An exchange with its conversation, which has room for it. -/
theorem ConversationsSound.commit (changed : AiConversation) {exchanges : List Exchange} {exchange : Exchange}
    (sound : ConversationsSound config w exchanges) (mem : conversation ∈ w.shelf)
    (placed : exchange.usage.conversationId = conversation.id ∧ exchange.usage.companyId = conversation.companyId ∧
      exchange.usage.userId = conversation.userId)
    (room : conversation.hasRoom config) (fresh : exchange.usage.requestId ∉ w.usage.map (·.requestId))
    (same : changed.id = conversation.id ∧ changed.companyId = conversation.companyId ∧
      changed.userId = conversation.userId)
    (more : changed.messageCount = conversation.messageCount + 2) (shelf : w'.shelf = replace w.shelf changed)
    (messages : w'.messages = w.messages ++ exchange.messages) (usage : w'.usage = w.usage ++ [exchange.usage])
    (ids : w.nextId ≤ w'.nextId) : ConversationsSound config w' (exchanges ++ [exchange]) := by
  obtain ⟨distinct, allocated, past, usages, requests, stored, counted, bounded, owned⟩ := sound
  obtain ⟨sameId, sameCompany, sameUser⟩ := same
  have sameIds : w'.shelf.map (·.id) = w.shelf.map (·.id) := by rw [shelf, replace_ids]
  have stores : w'.stores = w.stores := by
    funext id
    rw [AiWorld.stores, AiWorld.stores, ← shelf_ids, ← shelf_ids, sameIds]
  have cases : ∀ other ∈ w'.shelf, other = changed ∨ other ∈ w.shelf ∧ other.id ≠ conversation.id := by
    intro other otherMem
    rw [shelf] at otherMem
    exact sameId ▸ mem_replace otherMem
  constructor
  case ids => exact sameIds ▸ distinct
  case allocated =>
    intro other otherMem
    rcases cases other otherMem with rfl | ⟨there, _⟩
    · exact Nat.lt_of_lt_of_le (sameId ▸ allocated _ mem) ids
    · exact Nat.lt_of_lt_of_le (allocated other there) ids
  case past =>
    intro other otherMem
    rcases List.mem_append.mp otherMem with there | there
    · exact Nat.lt_of_lt_of_le (past other there) ids
    · rw [List.mem_singleton.mp there, placed.1]
      exact Nat.lt_of_lt_of_le (allocated _ mem) ids
  case usage => rw [usage, usages, List.map_append, List.map_singleton]
  case requests =>
    rw [usage, List.map_append, List.nodup_append]
    refine ⟨requests, List.nodup_singleton _, fun one first two second equal => ?_⟩
    rw [List.map_singleton, List.mem_singleton] at second
    exact fresh (second ▸ equal ▸ first)
  case messages =>
    have kept : w.stores exchange.usage.conversationId = true :=
      stores_iff.mpr ⟨conversation, mem, placed.1.symm⟩
    rw [messages, stored, stores, List.filter_append, List.flatMap_append]
    simp [kept]
  case counted =>
    intro other otherMem
    rw [countDocuments_append, countDocuments_cons]
    rcases cases other otherMem with rfl | ⟨there, differs⟩
    · rw [if_pos (decide_eq_true (placed.1.trans sameId.symm)), more, counted conversation mem, sameId]
      simp [countDocuments]
      omega
    · rw [counted other there, if_neg (by simpa [placed.1] using fun equal => differs equal.symm)]
      simp [countDocuments]
  case bounded =>
    intro other otherMem
    rcases cases other otherMem with rfl | ⟨there, _⟩
    · have fits := of_decide_eq_true room
      omega
    · exact bounded other there
  case owned =>
    intro one there other otherMem equal
    rcases List.mem_append.mp there with there | there
    · rcases cases other otherMem with rfl | ⟨otherMem, _⟩
      · rw [sameCompany, sameUser]
        exact owned one there conversation mem (sameId.symm.trans equal)
      · exact owned one there other otherMem equal
    · rw [List.mem_singleton.mp there] at equal ⊢
      rcases cases other otherMem with rfl | ⟨_, differs⟩
      · exact ⟨sameCompany.trans placed.2.1.symm, sameUser.trans placed.2.2.symm⟩
      · exact absurd (equal.trans placed.1) differs

theorem Move.conversationsSound {exchanges : List Exchange} (move : Move config w w' act)
    (sound : ConversationsSound config w exchanges) :
    ConversationsSound config w' exchanges ∨ ∃ exchange, w'.usage = w.usage ++ [exchange.usage] ∧
      w'.messages = w.messages ++ exchange.messages ∧ ConversationsSound config w' (exchanges ++ [exchange]) := by
  have relet : ∀ {changed conversation : AiConversation}, conversation ∈ w.conversations →
      changed.unleased = conversation.unleased → (replace w.conversations changed).map (·.unleased) = w.shelf := by
    intro changed conversation mem same
    rw [shelf_replace, same]
    exact replace_self sound.ids (mem_shelf mem)
  cases move with
  | idle clock becomes | drawn run requestId _ becomes =>
      rw [becomes]
      exact .inl (sound.congr rfl rfl rfl rfl)
  | created run requestId conversation _ named empty _ becomes =>
      rw [becomes]
      exact .inl (sound.create named empty)
  | leased run requestId conversation expiresAt _ mem becomes =>
      rw [becomes]
      exact .inl (sound.congr (relet mem rfl) rfl rfl rfl)
  | released conversation mem becomes =>
      rw [becomes]
      exact .inl (sound.congr (relet mem rfl) rfl rfl rfl)
  | committed run requestId exchange conversation _ mem named placed _ room fresh becomes =>
      rw [becomes]
      exact .inr ⟨exchange, rfl, rfl,
        ConversationsSound.commit { conversation.unleased with messageCount := conversation.messageCount + 2 } sound
          (mem_shelf mem) placed room (named ▸ fresh) ⟨rfl, rfl, rfl⟩ rfl (shelf_replace _ _) rfl rfl
          (Nat.le_add_right _ _)⟩
  | discarded conversation mem empty becomes =>
      rw [becomes]
      have none := sound.no_exchanges mem empty
      refine .inl (sound.remove rfl ?_ rfl rfl)
      rw [sound.messages]
      refine congrArg (List.flatMap _) (List.filter_congr fun exchange there => ?_)
      simp [none exchange there]
  | deleted actor conversation _ mem owner becomes =>
      rw [becomes]
      refine .inl (sound.remove rfl ?_ rfl rfl)
      rw [sound.messages]
      refine deleteMany_messages exchanges fun exchange there same => ?_
      obtain ⟨company, user⟩ := sound.owned exchange there _ (mem_shelf mem) same.symm
      exact ⟨company.symm.trans owner.1, user.symm.trans owner.2⟩

/-! ### Leases

A lease is identified by the request id that holds it. Ids are drawn fresh, and an id that has had its conversation
never gets another one, so a lease that was lost to a takeover cannot come back. -/

/-- Request ids are distinct; a lease is held by a request id that has had its conversation, and by one alone. -/
structure LeasesSound (w : AiWorld) : Prop where
  requests : (w.requests.map (·.2)).Nodup
  acquired : ∀ requestId ∈ w.acquired, requestId ∈ w.requests.map (·.2)
  holders : ∀ conversation ∈ w.conversations, ∀ requestId, conversation.activeRequestId = some requestId →
    requestId ∈ w.acquired
  unique : ∀ one ∈ w.conversations, ∀ two ∈ w.conversations, ∀ requestId, one.activeRequestId = some requestId →
    two.activeRequestId = some requestId → one.id = two.id

/-- The request id was drawn by this run and has had no conversation. -/
def Unused (run requestId : Nat) (w : AiWorld) : Prop := (run, requestId) ∈ w.requests ∧ requestId ∉ w.acquired

/-- A request id is given one conversation at most, by the run that has drawn it. -/
def Asking (w : AiWorld) (act : Option (Nat × AiAct)) : Prop :=
  ∀ run requestId, Acquires run requestId act → Unused run requestId w

/-- A lease was held before the step, or the step has given it to one conversation. -/
theorem Move.holder (move : Move config w w' act) : ∃ target, ∀ changed ∈ w'.conversations, ∀ requestId,
    changed.activeRequestId = some requestId →
      (∃ conversation ∈ w.conversations, conversation.id = changed.id ∧
        conversation.activeRequestId = some requestId) ∨
      changed.id = target ∧ (∃ run, Acquires run requestId act) ∧ w'.acquired = requestId :: w.acquired := by
  have stays : w'.conversations ⊆ w.conversations → ∀ changed ∈ w'.conversations, ∀ requestId,
      changed.activeRequestId = some requestId → ∃ conversation ∈ w.conversations, conversation.id = changed.id ∧
        conversation.activeRequestId = some requestId :=
    fun fewer changed mem requestId holds => ⟨changed, fewer mem, rfl, holds⟩
  have clears : ∀ cleared : AiConversation, cleared.activeRequestId = none →
      w'.conversations = replace w.conversations cleared → ∀ changed ∈ w'.conversations, ∀ requestId,
        changed.activeRequestId = some requestId → ∃ conversation ∈ w.conversations, conversation.id = changed.id ∧
          conversation.activeRequestId = some requestId := by
    intro cleared none same changed mem requestId holds
    rw [same] at mem
    rcases mem_replace mem with rfl | ⟨there, _⟩
    · cases none.symm.trans holds
    · exact ⟨changed, there, rfl, holds⟩
  cases move
  case idle clock becomes | drawn run requestId _ becomes =>
    exact ⟨0, fun changed mem requestId holds => .inl (stays (by simp [becomes]) changed mem requestId holds)⟩
  case created run requestId conversation asked named _ leased becomes =>
    refine ⟨conversation.id, fun changed mem other holds => ?_⟩
    rw [becomes] at mem ⊢
    rcases List.mem_cons.mp mem with rfl | mem
    · cases leased.symm.trans holds
      exact .inr ⟨rfl, ⟨run, asked⟩, rfl⟩
    · exact .inl ⟨changed, mem, rfl, holds⟩
  case leased run requestId conversation expiresAt asked mem becomes =>
    refine ⟨conversation.id, fun changed changedMem other holds => ?_⟩
    rw [becomes] at changedMem ⊢
    rcases mem_replace changedMem with rfl | ⟨there, _⟩
    · cases holds
      exact .inr ⟨rfl, ⟨run, asked⟩, rfl⟩
    · exact .inl ⟨changed, there, rfl, holds⟩
  case released conversation mem becomes =>
    exact ⟨0, fun changed mem requestId holds => .inl (clears _ rfl (by rw [becomes]) changed mem requestId holds)⟩
  case committed conversation _ _ _ _ _ _ _ becomes =>
    exact ⟨0, fun changed mem requestId holds => .inl (clears _ rfl (by rw [becomes]) changed mem requestId holds)⟩
  case discarded conversation mem _ becomes | deleted conversation _ mem _ becomes =>
    refine ⟨0, fun changed mem requestId holds => .inl (stays ?_ changed mem requestId holds)⟩
    rw [becomes]
    exact List.filter_sublist.subset

/-- Request ids that were drawn or have had their conversation. -/
theorem Move.drawn_subset (move : Move config w w' act) : w.requests ⊆ w'.requests ∧ w.acquired ⊆ w'.acquired := by
  cases move
  case idle becomes | drawn becomes | created becomes | leased becomes | released becomes | committed becomes
    | discarded becomes | deleted becomes => simp [becomes]

theorem Move.leasesSound (move : Move config w w' act) (asking : Asking w act) (sound : LeasesSound w) :
    LeasesSound w' := by
  obtain ⟨requests, acquired, holders, unique⟩ := sound
  obtain ⟨target, holder⟩ := move.holder
  have subsets := move.drawn_subset
  constructor
  case requests =>
    cases move
    case drawn run requestId fresh becomes =>
      rw [becomes, List.map_cons, List.nodup_cons]
      refine ⟨fun mem => ?_, requests⟩
      obtain ⟨drawn, there, same⟩ := List.mem_map.mp mem
      exact fresh drawn there same
    case idle becomes | created becomes | leased becomes | released becomes | committed becomes | discarded becomes
      | deleted becomes =>
      rw [becomes]
      exact requests
  case acquired =>
    have drawn : ∀ requestId ∈ w.acquired, requestId ∈ w'.requests.map (·.2) := fun requestId mem =>
      List.map_subset _ subsets.1 (acquired requestId mem)
    intro requestId mem
    cases move
    case created run new _ asked _ _ _ becomes | leased run new _ _ asked _ becomes =>
      have known := List.mem_map_of_mem (f := Prod.snd) (asking _ _ asked).1
      rw [becomes] at mem
      rcases List.mem_cons.mp mem with rfl | mem
      · exact List.map_subset _ subsets.1 known
      · exact drawn requestId mem
    case idle becomes | drawn becomes | released becomes | committed becomes | discarded becomes | deleted becomes =>
      rw [becomes] at mem
      exact drawn requestId mem
  case holders =>
    intro changed mem requestId holds
    rcases holder changed mem requestId holds with ⟨conversation, there, _, before⟩ | ⟨_, _, new⟩
    · exact subsets.2 (holders conversation there requestId before)
    · rw [new]
      exact List.mem_cons_self
  case unique =>
    intro one first two second requestId oneHolds twoHolds
    have apart : (∃ run, Acquires run requestId act) → ∀ conversation ∈ w.conversations,
        conversation.activeRequestId ≠ some requestId := by
      rintro ⟨run, asks⟩ conversation mem holds
      exact (asking run requestId asks).2 (holders conversation mem requestId holds)
    rcases holder one first requestId oneHolds with ⟨one', oneMem, oneSame, before⟩ | ⟨oneTarget, asks, _⟩
    · rcases holder two second requestId twoHolds with ⟨two', twoMem, twoSame, before'⟩ | ⟨_, asks, _⟩
      · exact oneSame.symm.trans ((unique one' oneMem two' twoMem requestId before before').trans twoSame)
      · exact absurd before (apart asks one' oneMem)
    · rcases holder two second requestId twoHolds with ⟨two', twoMem, _, before⟩ | ⟨twoTarget, _, _⟩
      · exact absurd before (apart asks two' twoMem)
      · exact oneTarget.trans twoTarget.symm

/-- The request id has had its conversation and holds no lease. It never holds one again, and its exchange cannot be
committed any more. -/
def Lost (requestId : Nat) (w : AiWorld) : Prop :=
  requestId ∈ w.acquired ∧ ∀ conversation ∈ w.conversations, conversation.activeRequestId ≠ some requestId

/-- A lost lease does not come back. -/
theorem Move.lost {requestId : Nat} (move : Move config w w' act) (asking : Asking w act) (lost : Lost requestId w) :
    Lost requestId w' := by
  obtain ⟨had, none⟩ := lost
  refine ⟨move.drawn_subset.2 had, fun changed mem holds => ?_⟩
  obtain ⟨target, holder⟩ := move.holder
  rcases holder changed mem requestId holds with ⟨conversation, there, _, before⟩ | ⟨_, ⟨run, asks⟩, _⟩
  · exact none conversation there before
  · exact (asking run requestId asks).2 had

/-- An unused request id stays so under every step that does not give it a conversation. -/
theorem Move.unused {run requestId : Nat} (move : Move config w w' act) (unused : Unused run requestId w)
    (foreign : ∀ other, ¬Acquires other requestId act) : Unused run requestId w' := by
  obtain ⟨drawn, new⟩ := unused
  refine ⟨move.drawn_subset.1 drawn, fun had => ?_⟩
  cases move
  case created other new' _ asked _ _ _ becomes | leased other new' _ _ asked _ becomes =>
    rw [becomes] at had
    rcases List.mem_cons.mp had with rfl | had
    · exact foreign other asked
    · exact new had
  case idle becomes | drawn becomes | released becomes | committed becomes | discarded becomes | deleted becomes =>
    rw [becomes] at had
    exact new had

end DataVault.Ai
