import Mosaico.Reading.Queries

/-!
# Windowed reads

A read with `tail` cuts its window out of the newest end of the log, but the rows it cuts
from are the first `channelReadCap` ones of each channel, oldest first.  The backfill of one
channel takes its rows oldest first as well, while the backfill of all channels takes them
newest first and keeps the rows at `since`.  Both agree with the newest rows of the log as
long as the caps do not bind.
-/

namespace Mosaico

open Relational

/-- The parameters of `channel read` that choose its rows. -/
structure ChatReadParams where
  since : Option Nat
  limit : Option Nat
  offset : Option Nat
  tail : Bool
  deriving DecidableEq, Repr

def u32Max : Nat := 2 ^ 32 - 1

namespace Intake

/-! ## The reads -/

/-- The rows that a read cuts its page from. -/
def readRows (intake : Intake) (backendPubkey : String) (read : ReadScopes) (since : Nat) :
    List Message :=
  ascending Message.position
    ((read.scopes.flatMap (fun scope =>
      intake.chatMessagesForChannel scope since channelReadCap)).filter
        (fun row => !intake.isBackendRow backendPubkey row))

/-- The first page of `channel read`.  The source adds `limit` and `offset` with saturation,
which no list is long enough to notice. -/
def initialPage (intake : Intake) (backendPubkey : String) (read : ReadScopes)
    (params : ChatReadParams) : List Message :=
  let rows := intake.readRows backendPubkey read (params.since.getD 0)
  let offset := params.offset.getD 0
  if params.tail then
    let limit := params.limit.getD 10
    (rows.take (rows.length - offset)).drop (rows.length - (limit + offset))
  else
    let stop := min ((params.limit.map (offset + ·)).getD rows.length) rows.length
    (rows.take stop).drop offset

/-- The chat rows of `build_backfill`. -/
def backfillChatRows (intake : Intake) (channel : Option String) (limit since : Nat) :
    List Message :=
  let cap := min limit u32Max
  match channel with
  | some channelH => intake.chatMessagesForChannel channelH since cap
  | none => intake.recentChatMessages since cap

/-! ## What they are for -/

/-- All messages a read may show, newest first. -/
def newestFirst (intake : Intake) (backendPubkey : String) (read : ReadScopes) (since : Nat) :
    List Message :=
  descending Message.position
    ((intake.messages.select (fun row => row.channelH ∈ read ∧ since < row.createdAt)).filter
      (fun row => !intake.isBackendRow backendPubkey row))

/-- The read returns the `limit` rows that precede the `offset` newest ones. -/
def ReadsNewestWindow (intake : Intake) (backendPubkey : String) (read : ReadScopes)
    (params : ChatReadParams) : Prop :=
  intake.initialPage backendPubkey read { params with tail := true } =
    (window (params.limit.getD 10) (params.offset.getD 0)
      (intake.newestFirst backendPubkey read (params.since.getD 0))).reverse

/-- No other channel has messages. -/
def onlyChannel (intake : Intake) (channelH : String) : Intake :=
  { intake with messages := intake.messages.deleteWhere (fun row => row.channelH ≠ channelH) }

/-- The backfill of a channel selects its newest rows, and the rows that the backfill of all
channels selects if there is no other one. -/
def BackfillsNewest (intake : Intake) (channelH : String) (limit since : Nat) : Prop :=
  (intake.backfillChatRows (some channelH) limit since).Perm
      ((descending Message.position (intake.channelLog channelH since)).take limit) ∧
    (intake.backfillChatRows (some channelH) limit since).Perm
      ((intake.onlyChannel channelH).backfillChatRows none limit since)

/-! ## When the caps do not bind -/

/-- Fewer messages than a query returns precede the message in its channel. -/
def WithinCap (intake : Intake) (since : Nat) (row : Message) : Prop :=
  rank Message.position (intake.channelLog row.channelH since) row < channelReadCap

instance (intake : Intake) (since : Nat) : DecidablePred (intake.WithinCap since) := fun _ =>
  inferInstanceAs (Decidable (_ < _))

/-- The window is empty, or its rows and the newer ones are all within the cap. -/
def WindowWithinCap (intake : Intake) (backendPubkey : String) (read : ReadScopes)
    (params : ChatReadParams) : Prop :=
  params.limit.getD 10 = 0 ∨
    (intake.newestFirst backendPubkey read (params.since.getD 0)).length ≤
      params.offset.getD 0 ∨
    ∀ row ∈ (intake.newestFirst backendPubkey read (params.since.getD 0)).take
        (params.offset.getD 0 + params.limit.getD 10),
      intake.WithinCap (params.since.getD 0) row

/-- The backfill is empty, or it holds all messages of the channel and has no room for a
message at `since`. -/
def BackfillHoldsChannel (intake : Intake) (channelH : String) (limit since : Nat) : Prop :=
  limit = 0 ∨
    ((intake.channelLog channelH since).length ≤ min limit u32Max ∧
      ((intake.channelLog channelH since).length = min limit u32Max ∨
        ¬ intake.messages.Any (fun row => row.channelH = channelH ∧ row.createdAt = since)))

variable {intake : Intake} {backendPubkey channelH : String} {read : ReadScopes} {since : Nat}

theorem mem_chatMessagesForChannel {limit : Nat} {row : Message} :
    row ∈ intake.chatMessagesForChannel channelH since limit ↔
      row ∈ intake.channelLog channelH since ∧
        rank Message.position (intake.channelLog channelH since) row < limit := by
  have hkeys : ((intake.channelLog channelH since).map Message.position).Nodup :=
    nodup_positions List.filter_sublist
  rw [chatMessagesForChannel, mem_take_iff_rank (pairwise_lt_ascending hkeys), mem_ascending,
    rank_perm (ascending_perm _)]

theorem mem_newestFirst {row : Message} :
    row ∈ intake.newestFirst backendPubkey read since ↔
      (row ∈ intake.messages.rows ∧ row.channelH ∈ read ∧ since < row.createdAt) ∧
        intake.isBackendRow backendPubkey row = false := by
  rw [newestFirst, (descending_perm _).mem_iff, List.mem_filter, Table.mem_select]
  simp

/-- The rows that a read may show, in the order of the table. -/
theorem nodup_shown : (((intake.messages.select (fun row =>
    row.channelH ∈ read ∧ since < row.createdAt)).filter
      (fun row => !intake.isBackendRow backendPubkey row)).map Message.position).Nodup :=
  nodup_positions (List.filter_sublist.trans List.filter_sublist)

/-- The rows of different scopes are different rows. -/
theorem nodup_readRows :
    (((read.scopes.flatMap (fun scope =>
      intake.chatMessagesForChannel scope since channelReadCap)).filter
        (fun row => !intake.isBackendRow backendPubkey row)).map Message.position).Nodup := by
  have hscope : ∀ scope, ((intake.chatMessagesForChannel scope since channelReadCap).map
      Message.position).Nodup := by
    intro scope
    have hlog : ((intake.channelLog scope since).map Message.position).Nodup :=
      nodup_positions List.filter_sublist
    have hsorted : ((ascending Message.position (intake.channelLog scope since)).map
        Message.position).Nodup := ((ascending_perm _).map _).nodup_iff.mpr hlog
    exact ((List.take_sublist _ _).map _).nodup hsorted
  refine ((List.filter_sublist).map _).nodup ?_
  rw [List.map_flatMap, List.nodup_flatMap]
  refine ⟨fun scope _ => hscope scope, ?_⟩
  refine read.nodup.imp ?_
  intro left right hne place hleft hright
  obtain ⟨row, hrow, rfl⟩ := List.mem_map.mp hleft
  obtain ⟨other, hother, hplace⟩ := List.mem_map.mp hright
  -- one place is one row, and a row has one channel
  have hrowLog := mem_channelLog.mp (mem_chatMessagesForChannel.mp hrow).1
  have hotherLog := mem_channelLog.mp (mem_chatMessagesForChannel.mp hother).1
  have hsame : other = row :=
    List.inj_on_of_nodup_map (nodup_positions (List.Sublist.refl _)) hotherLog.1 hrowLog.1 hplace
  exact hne (hrowLog.2.1.symm.trans (hsame ▸ hotherLog.2.1))

/-- The rows of a read are the rows it may show that are within the cap. -/
theorem reverse_readRows :
    (intake.readRows backendPubkey read since).reverse =
      (intake.newestFirst backendPubkey read since).filter
        (fun row => decide (intake.WithinCap since row)) := by
  have hstrict : ((intake.newestFirst backendPubkey read since).reverse.filter
      (fun row => decide (intake.WithinCap since row))).Pairwise
        fun left right => left.position < right.position := by
    rw [newestFirst, descending_eq_reverse nodup_shown, List.reverse_reverse]
    exact (pairwise_lt_ascending nodup_shown).sublist List.filter_sublist
  have heq : intake.readRows backendPubkey read since =
      (intake.newestFirst backendPubkey read since).reverse.filter
        (fun row => decide (intake.WithinCap since row)) := by
    refine eq_of_pairwise_lt (pairwise_lt_ascending nodup_readRows) hstrict ?_
    intro row
    simp only [readRows, mem_ascending, List.mem_filter, List.mem_flatMap,
      mem_chatMessagesForChannel, mem_channelLog, List.mem_reverse, mem_newestFirst,
      Bool.not_eq_true', decide_eq_true_eq]
    constructor
    · rintro ⟨⟨scope, hscope, ⟨hrow, rfl, hsince⟩, hrank⟩, hbackend⟩
      exact ⟨⟨⟨hrow, hscope, hsince⟩, hbackend⟩, hrank⟩
    · rintro ⟨⟨⟨hrow, hscope, hsince⟩, hbackend⟩, hrank⟩
      exact ⟨⟨row.channelH, hscope, ⟨hrow, rfl, hsince⟩, hrank⟩, hbackend⟩
  rw [heq, ← List.filter_reverse, List.reverse_reverse]

theorem readsNewestWindow_iff (intake : Intake) (backendPubkey : String) (read : ReadScopes)
    (params : ChatReadParams) :
    intake.ReadsNewestWindow backendPubkey read params ↔
      intake.WindowWithinCap backendPubkey read params := by
  have hnodup : (intake.newestFirst backendPubkey read (params.since.getD 0)).Nodup :=
    (((descending_perm _).map Message.position).nodup_iff.mpr nodup_shown).of_map _
  have hpage : intake.initialPage backendPubkey read { params with tail := true } =
      (window (params.limit.getD 10) (params.offset.getD 0)
        (intake.readRows backendPubkey read (params.since.getD 0)).reverse).reverse :=
    slice_eq_window _ _ _
  rw [ReadsNewestWindow, hpage, List.reverse_inj, reverse_readRows, window_filter_iff hnodup]
  simp only [WindowWithinCap, decide_eq_true_eq]

/-! ## Backfill -/

/-- The first `cap` rows of a list are its last `limit` ones only if they are all of them. -/
theorem take_perm_take_reverse_iff {α : Type*} {rows : List α} (hnodup : rows.Nodup)
    {cap limit : Nat} (hcap : cap ≤ limit) (hzero : cap = 0 → limit = 0) :
    (rows.take cap).Perm (rows.reverse.take limit) ↔ limit = 0 ∨ rows.length ≤ cap := by
  constructor
  · intro hperm
    by_contra hnot
    simp only [not_or, not_le] at hnot
    have hlength := hperm.length_eq
    rw [List.length_take, List.length_take, List.length_reverse] at hlength
    -- the newest row is in the second list, and not in the first one
    have hpos : 0 < rows.reverse.length := by
      rw [List.length_reverse]
      omega
    have hnewest : rows.reverse[0] ∈ rows.reverse.take limit :=
      List.mem_take_iff_getElem.mpr ⟨0, by omega, rfl⟩
    obtain ⟨index, hindex, heq⟩ := List.mem_take_iff_getElem.mp (hperm.mem_iff.mpr hnewest)
    rw [List.getElem_reverse] at heq
    have hsame := (List.Nodup.getElem_inj_iff hnodup).mp heq
    omega
  · rintro (rfl | hlength)
    · have hnone : cap = 0 := by omega
      rw [hnone]
      exact List.Perm.refl _
    · rw [List.take_of_length_le hlength,
        List.take_of_length_le (by rw [List.length_reverse]; omega)]
      exact (List.reverse_perm rows).symm

/-- The messages of a channel at `since`. -/
def logAt (intake : Intake) (channelH : String) (since : Nat) : List Message :=
  intake.messages.select (fun row => row.channelH = channelH ∧ row.createdAt = since)

/-- The backfill of all channels puts the rows at `since` behind the newer ones. -/
theorem recentChatMessages_onlyChannel (limit : Nat) :
    (intake.onlyChannel channelH).recentChatMessages since limit =
      ((ascending Message.position (intake.channelLog channelH since)).reverse ++
        (ascending Message.position (intake.logAt channelH since)).reverse).take limit := by
  have hlog : ((intake.channelLog channelH since).map Message.position).Nodup :=
    nodup_positions List.filter_sublist
  have hat : ((intake.logAt channelH since).map Message.position).Nodup :=
    nodup_positions List.filter_sublist
  have honly : (((intake.onlyChannel channelH).messages.select
      (fun row => since ≤ row.createdAt)).map Message.position).Nodup :=
    nodup_positions List.filter_sublist
  rw [recentChatMessages, descending_eq_reverse honly, ← List.reverse_append]
  congr 2
  refine eq_of_pairwise_lt (pairwise_lt_ascending honly) ?_ ?_
  · refine List.pairwise_append.mpr
      ⟨pairwise_lt_ascending hat, pairwise_lt_ascending hlog, ?_⟩
    intro older holder newer hnewer
    have hold := (Table.mem_select.mp (mem_ascending.mp holder)).2.2
    have hnew := (mem_channelLog.mp (mem_ascending.mp hnewer)).2.2
    exact Message.position_lt_iff.mpr (Or.inl (by omega))
  · intro row
    simp only [mem_ascending, List.mem_append, mem_channelLog, logAt, Table.mem_select,
      onlyChannel, Table.deleteWhere, List.mem_filter, decide_eq_true_eq, not_not]
    constructor
    · rintro ⟨⟨hrow, hchannel⟩, hsince⟩
      rcases Nat.eq_or_lt_of_le hsince with heq | hlt
      · exact Or.inl ⟨hrow, hchannel, heq.symm⟩
      · exact Or.inr ⟨hrow, hchannel, hlt⟩
    · rintro (⟨hrow, hchannel, rfl⟩ | ⟨hrow, hchannel, hlt⟩)
      · exact ⟨⟨hrow, hchannel⟩, Nat.le_refl _⟩
      · exact ⟨⟨hrow, hchannel⟩, Nat.le_of_lt hlt⟩

/-- All messages of the channel, against a list that goes on behind them. -/
theorem perm_take_append_iff {α : Type*} {rows older : List α} {cap : Nat}
    (hcap : rows.length ≤ cap) :
    rows.Perm ((rows.reverse ++ older.reverse).take cap) ↔
      rows.length = cap ∨ older = [] := by
  rw [List.take_append, List.take_of_length_le (by rw [List.length_reverse]; exact hcap),
    List.length_reverse]
  constructor
  · intro hperm
    have hlength := hperm.length_eq
    rw [List.length_append, List.length_reverse, List.length_take, List.length_reverse]
      at hlength
    rcases Nat.eq_or_lt_of_le hcap with heq | hlt
    · exact Or.inl heq
    · exact Or.inr (List.length_eq_zero_iff.mp (by omega))
  · rintro (heq | rfl)
    · rw [heq, Nat.sub_self, List.take_zero, List.append_nil]
      exact (List.reverse_perm rows).symm
    · rw [List.reverse_nil, List.take_nil, List.append_nil]
      exact (List.reverse_perm rows).symm

theorem backfillsNewest_iff (intake : Intake) (channelH : String) (limit since : Nat) :
    intake.BackfillsNewest channelH limit since ↔
      intake.BackfillHoldsChannel channelH limit since := by
  have hkeys : ((intake.channelLog channelH since).map Message.position).Nodup :=
    nodup_positions List.filter_sublist
  have hnodup : (ascending Message.position (intake.channelLog channelH since)).Nodup :=
    (((ascending_perm _).map Message.position).nodup_iff.mpr hkeys).of_map _
  have hnone : ascending Message.position (intake.logAt channelH since) = [] ↔
      ¬ intake.messages.Any (fun row => row.channelH = channelH ∧ row.createdAt = since) := by
    rw [List.eq_nil_iff_forall_not_mem, Table.Any, not_exists]
    simp only [mem_ascending, logAt, Table.mem_select, not_and]
  rw [BackfillsNewest, descending_eq_reverse hkeys, BackfillHoldsChannel]
  simp only [backfillChatRows, chatMessagesForChannel, recentChatMessages_onlyChannel]
  rw [take_perm_take_reverse_iff hnodup (Nat.min_le_left _ _) (by unfold u32Max; omega),
    length_ascending, ← hnone]
  constructor
  · rintro ⟨hzero | hlength, hsame⟩
    · exact Or.inl hzero
    · rw [List.take_of_length_le (by rw [length_ascending]; exact hlength),
        perm_take_append_iff (by rw [length_ascending]; exact hlength), length_ascending] at hsame
      exact Or.inr ⟨hlength, hsame⟩
  · rintro (rfl | ⟨hlength, hsame⟩)
    · simp
    · refine ⟨Or.inr hlength, ?_⟩
      rw [List.take_of_length_le (by rw [length_ascending]; exact hlength),
        perm_take_append_iff (by rw [length_ascending]; exact hlength), length_ascending]
      exact hsame

/-- A tail read and a backfill show the newest rows exactly if the caps do not bind. -/
theorem windowedReads_iff (intake : Intake) (backendPubkey : String) (read : ReadScopes)
    (params : ChatReadParams) (channelH : String) (limit since : Nat) :
    (intake.ReadsNewestWindow backendPubkey read params ∧
        intake.BackfillsNewest channelH limit since) ↔
      (intake.WindowWithinCap backendPubkey read params ∧
        intake.BackfillHoldsChannel channelH limit since) :=
  and_congr (readsNewestWindow_iff intake backendPubkey read params)
    (backfillsNewest_iff intake channelH limit since)

/-- A channel message without a native event. -/
def logged (messageId channelH : String) (createdAt : Nat) : Message where
  messageId := messageId
  threadId := channelH
  channelH := channelH
  authorPubkey := "alice"
  body := "hello"
  createdAt := createdAt
  direction := .inbound
  syncState := "accepted"
  nativeEventId := none
  error := none

/-- Two messages and a backfill of one: the older message is selected. -/
theorem backfill_selects_oldest :
    ¬ ∀ (intake : Intake) (backendPubkey : String) (read : ReadScopes)
      (params : ChatReadParams) (channelH : String) (limit since : Nat),
      intake.ReadsNewestWindow backendPubkey read params ∧
        intake.BackfillsNewest channelH limit since := by
  intro hall
  let log : Intake := { Intake.empty with
    messages := ⟨[logged "m1" "room" 10, logged "m2" "room" 20], by decide⟩ }
  have hnewest := (hall log "" (.one "room") ⟨none, none, none, true⟩ "room" 1 0).2.1
  exact absurd hnewest (by decide)

end Intake

end Mosaico
