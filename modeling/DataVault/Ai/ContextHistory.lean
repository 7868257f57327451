/-
Module: DataVault.Ai.ContextHistory
Layer: Proofs
Purpose: What a request tells the model of the conversation so far (`contextHistory` of ai/ai.service.ts): as much of
  its end as both bounds leave room for, with nothing left out in the middle.
Imports: DataVault.Ai.Conversations, Mathlib.Data.List.Basic
Trusted boundary: none
Main exports: IsLongestSuffix, Fits, InOrder, context_history
-/
import DataVault.Ai.Conversations
import Mathlib.Data.List.Basic

namespace DataVault.Ai

open DataVault.Interleaving DataVault.Store DataVault.Users

/-! ### The purpose -/

/-- A part is the longest end of a list with a property. -/
structure IsLongestSuffix {α : Type} (P : List α → Prop) (part whole : List α) : Prop where
  suffix : part <:+ whole
  holds : P part
  longest : ∀ other, other <:+ whole → P other → other.length ≤ part.length

/-- The characters of all messages. -/
def characters (messages : List AiMessage) : Nat := (messages.map fun message => stringLength message.content).sum

/-- Both bounds of a context. -/
def Fits (config : AiConfig) (messages : List AiMessage) : Prop :=
  messages.length ≤ config.maxHistoryMessages - 1 ∧ characters messages ≤ config.maxContextChars

/-- The stored messages of a conversation in `(createdAt, _id)` order. -/
structure InOrder (w : AiWorld) (actor : AuthenticatedUser) (conversationId : Nat) (conversation : List AiMessage) :
    Prop where
  stored : conversation.Perm (w.messages.filter (·.ownedBy actor conversationId))
  sorted : conversation.Pairwise fun one two => one.stamp.Before two.stamp

/-! ### The query -/

/-- Newest first is the order of the conversation backwards: ids are distinct, so no two messages tie. -/
theorem newerFirst_eq_reverse {w : AiWorld} {actor : AuthenticatedUser} {conversationId : Nat}
    {conversation : List AiMessage} (distinct : (w.messages.map (·.id)).Nodup)
    (ordered : InOrder w actor conversationId conversation) :
    newerFirst AiMessage.stamp (w.messages.filter (·.ownedBy actor conversationId)) = conversation.reverse := by
  have perm : (newerFirst AiMessage.stamp (w.messages.filter (·.ownedBy actor conversationId))).Perm
      conversation.reverse :=
    (newerFirst_perm _ _).trans (ordered.stored.symm.trans (List.reverse_perm _).symm)
  have backwards : conversation.reverse.Pairwise fun one two => two.stamp.Before one.stamp :=
    List.pairwise_reverse.mpr ordered.sorted
  apply perm.eq_of_pairwise _ (newerFirst_pairwise _ _) backwards
  intro one two there here after before
  have one_mem := (List.mem_filter.mp ((newerFirst_perm _ _).mem_iff.mp there)).1
  have two_mem := (List.mem_filter.mp (ordered.stored.mem_iff.mp (List.mem_reverse.mp here))).1
  have same := Stamp.before_antisymm before after
  exact List.inj_on_of_nodup_map distinct one_mem two_mem (congrArg Stamp.id same)

/-! ### The loop -/

theorem selectHistory_initial (maxContextChars : Nat) (rows : List AiMessage) :
    ∀ before, selectHistory maxContextChars before rows <+: rows := by
  induction rows with
  | nil =>
      intro before
      simp [selectHistory]
  | cons row rows ih =>
      intro before
      unfold selectHistory
      split
      case isTrue => exact List.nil_prefix
      case isFalse => exact List.cons_prefix_cons.mpr ⟨rfl, ih _⟩

theorem characters_selectHistory (maxContextChars : Nat) (rows : List AiMessage) :
    ∀ before, before ≤ maxContextChars →
      before + characters (selectHistory maxContextChars before rows) ≤ maxContextChars := by
  induction rows with
  | nil =>
      intro before within
      simpa [selectHistory, characters] using within
  | cons row rows ih =>
      intro before within
      unfold selectHistory
      split
      case isTrue => simpa [characters] using within
      case isFalse fits =>
        have rest := ih (before + stringLength row.content) (by omega)
        simp only [characters, List.map_cons, List.sum_cons] at rest ⊢
        omega

/-- The loop stops only where nothing longer would fit. -/
theorem selectHistory_longest (maxContextChars : Nat) (rows : List AiMessage) :
    ∀ before other, other <+: rows → before + characters other ≤ maxContextChars →
      other.length ≤ (selectHistory maxContextChars before rows).length := by
  induction rows with
  | nil =>
      intro before other start _
      simp [List.prefix_nil.mp start]
  | cons row rows ih =>
      intro before other start fits
      cases other with
      | nil => simp
      | cons head other =>
          rcases List.cons_prefix_cons.mp start with ⟨rfl, behind⟩
          simp only [characters, List.map_cons, List.sum_cons] at fits
          have room : ¬before + stringLength head.content > maxContextChars := by omega
          have rest := ih (before + stringLength head.content) other behind (by
            unfold characters
            omega)
          simpa [selectHistory, room] using rest

/-! ### The context -/

/-- What the loop selects of the query's rows, turned round, is the longest end within the bounds. -/
theorem selectHistory_isLongestSuffix (config : AiConfig) (conversation : List AiMessage) :
    IsLongestSuffix (Fits config)
      (selectHistory config.maxContextChars 0 (conversation.reverse.take (config.maxHistoryMessages - 1))).reverse
      conversation where
  suffix := by
    have start := (selectHistory_initial config.maxContextChars _ 0).trans
      (List.take_prefix (config.maxHistoryMessages - 1) conversation.reverse)
    rw [← List.reverse_prefix, List.reverse_reverse]
    exact start
  holds := by
    constructor
    case left =>
      have within := (selectHistory_initial config.maxContextChars
        (conversation.reverse.take (config.maxHistoryMessages - 1)) 0).length_le
      rw [List.length_reverse]
      exact Nat.le_trans within (List.length_take_le _ _)
    case right =>
      have within := characters_selectHistory config.maxContextChars
        (conversation.reverse.take (config.maxHistoryMessages - 1)) 0 (Nat.zero_le _)
      rw [characters, List.map_reverse, List.sum_reverse]
      simpa [characters] using within
  longest := by
    intro other suffix fits
    rcases fits with ⟨few, short⟩
    have start : other.reverse <+: conversation.reverse.take (config.maxHistoryMessages - 1) := by
      rw [List.prefix_take_iff]
      exact ⟨List.reverse_prefix.mpr suffix, by simpa using few⟩
    have longest := selectHistory_longest config.maxContextChars _ 0 other.reverse start (by
      rw [Nat.zero_add, characters, List.map_reverse, List.sum_reverse]
      exact short)
    simpa using longest

theorem run_contextHistory (config : AiConfig) (actor : AuthenticatedUser) (conversationId : Nat) :
    (contextHistory config actor conversationId).run =
      .await (.history actor conversationId) fun answer =>
        .done (answer.map fun rows =>
          (selectHistory config.maxContextChars 0 rows).reverse.map fun message =>
            .past message.role message.content) := by
  apply congrArg (Process.await (AiAct.history actor conversationId))
  funext answer
  cases answer with
  | error failure => rfl
  | ok rows => rfl

/-- The rows the query delivers: the newest first, as many as may be used. -/
theorem rows_of_history {config : AiConfig} {run : Nat} {choice : AiChoice} {actor : AuthenticatedUser}
    {conversationId : Nat} {w w' : AiWorld} {rows : List AiMessage} (configured : 2 ≤ config.maxHistoryMessages)
    (queried : aiExec config run choice (.history actor conversationId) w = some (.ok rows, w')) :
    rows = (newerFirst AiMessage.stamp (w.messages.filter (·.ownedBy actor conversationId))).take
      (config.maxHistoryMessages - 1) := by
  have limited : config.maxHistoryMessages - 1 ≠ 0 := by omega
  simp only [aiExec, query, latestMessages, limited, if_false, Option.some.injEq, Prod.mk.injEq] at queried
  split at queried
  case isTrue => exact (Except.ok.inj queried.1).symm
  case isFalse => simp at queried

/-- The context of a request is the longest end of the ordered conversation within both bounds, whatever the lengths of
its messages; the settings allow two messages at least, and stored ids are distinct. -/
theorem context_history {config : AiConfig} {run : Nat} {choice : AiChoice} {actor : AuthenticatedUser}
    {conversationId : Nat} {w w' : AiWorld} {rows conversation : List AiMessage}
    (configured : 2 ≤ config.maxHistoryMessages) (distinct : (w.messages.map (·.id)).Nodup)
    (ordered : InOrder w actor conversationId conversation)
    (queried : aiExec config run choice (.history actor conversationId) w = some (.ok rows, w')) :
    ∃ resume selected,
      (contextHistory config actor conversationId).run = .await (.history actor conversationId) resume ∧
        resume (.ok rows) =
          .done (.ok (selected.map fun message => ChatMessage.past message.role message.content)) ∧
        IsLongestSuffix (Fits config) selected conversation := by
  have delivered := rows_of_history configured queried
  rw [newerFirst_eq_reverse distinct ordered] at delivered
  have longest := selectHistory_isLongestSuffix config conversation
  rw [← delivered] at longest
  exact ⟨_, _, run_contextHistory config actor conversationId, rfl, longest⟩

/-- Room for three messages and twenty characters. -/
def narrow : AiConfig where
  maxHistoryMessages := 4
  maxContextChars := 20
  fingerprint := fun _ _ => .error .tool

/-- Three messages of one exchange and a half, the middle one too long. -/
def talk : List AiMessage :=
  [{ id := 1, conversationId := 7, companyId := 1, userId := 2, role := .user, content := "Which?", createdAt := 10 },
    { id := 2, conversationId := 7, companyId := 1, userId := 2, role := .assistant,
      content := "All files of the last month.", createdAt := 11 },
    { id := 3, conversationId := 7, companyId := 1, userId := 2, role := .user, content := "Thanks.", createdAt := 11 }]

theorem latest_talk :
    latestMessages 3 (talk.filter (·.ownedBy ⟨2, 1, .companyMember⟩ 7)) = talk.reverse := by decide +kernel

/-- The message before the one that does not fit would fit, and is not taken. -/
theorem context_history_stops :
    ∃ resume selected,
      (contextHistory narrow ⟨2, 1, .companyMember⟩ 7).run = .await (.history ⟨2, 1, .companyMember⟩ 7) resume ∧
        resume (.ok talk.reverse) =
          .done (.ok (selected.map fun message => ChatMessage.past message.role message.content)) ∧
        IsLongestSuffix (Fits narrow) selected talk :=
  @context_history narrow 0 {} ⟨2, 1, .companyMember⟩ 7 { clock := 20, messages := talk }
    { clock := 20, messages := talk } talk.reverse talk (by decide) (by decide +kernel)
    ⟨by decide +kernel, by decide +kernel⟩
    (congrArg (fun rows => some (Except.ok rows, _)) latest_talk)

end DataVault.Ai
