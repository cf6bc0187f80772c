import Mosaico.Reading.Windows
import Mosaico.Fabric.LocalDelivery

/-!
# Live reads

A live read keeps a cursor for each channel, the greatest place it has read there, and asks
at every message event for the rows behind the cursor.  Rows are stored in any order of
their times, so a row that is stored at or before the cursor is never read.  A run shows
every row of its scope once as long as each row is stored behind the cursor of its channel
and no query leaves one behind its cap.
-/

namespace Mosaico

open Relational Transition

structure ChatCursor where
  createdAt : Nat
  id : String
  deriving DecidableEq, Repr

namespace ChatCursor

def position (cursor : ChatCursor) : Nat ×ₗ String :=
  toLex (cursor.createdAt, cursor.id)

def new (createdAt : Nat) : ChatCursor := ⟨createdAt, ""⟩

def observe (cursor : ChatCursor) (row : Message) : ChatCursor :=
  if cursor.createdAt < row.createdAt ∨
      (row.createdAt = cursor.createdAt ∧ cursor.id < row.messageId) then
    ⟨row.createdAt, row.messageId⟩
  else cursor

/-- The row lies behind the cursor. -/
theorem position_lt_iff {cursor : ChatCursor} {row : Message} :
    cursor.position < row.position ↔ cursor.createdAt < row.createdAt ∨
      (row.createdAt = cursor.createdAt ∧ cursor.id < row.messageId) := by
  rw [position, Message.position, Prod.Lex.toLex_lt_toLex, eq_comm]

theorem position_observe (cursor : ChatCursor) (row : Message) :
    (cursor.observe row).position = max cursor.position row.position := by
  rw [observe]
  split
  · rename_i hlt
    exact (max_eq_right (le_of_lt (position_lt_iff.mpr hlt))).symm
  · rename_i hnot
    exact (max_eq_left (not_lt.mp (fun hlt => hnot (position_lt_iff.mp hlt)))).symm

end ChatCursor

/-- What a live read is opened with. -/
structure LiveRequest where
  backendPubkey : String
  read : ReadScopes
  params : ChatReadParams
  /-- The clock when the read starts. -/
  startedAt : Nat

def LiveRequest.since (request : LiveRequest) : Nat := request.params.since.getD 0

/-- No cursor starts below. -/
def LiveRequest.liveFloor (request : LiveRequest) : Nat :=
  max request.startedAt request.since

/-- A live read and the tables it reads.  `emitted` is all it has written so far, its first
page included. -/
structure LiveRead where
  intake : Intake
  cursors : String → ChatCursor
  seen : List String
  emitted : List Message

/-- What happens during a live read. -/
inductive ReadStep where
  /-- A new message is stored, with its recipients. -/
  | insert (row : Message) (recipients : List String)
  /-- The read receives the message event of a channel. -/
  | tail (channelH : String)

/-- A message of a known id is not inserted. -/
def Intake.insertMessage (intake : Intake) (row : Message) (recipients : List String) : Intake :=
  if (intake.messages.find? row.messageId).isSome then intake
  else { intake with messages := intake.messages.insertOrIgnore row }.addMessageRecipients
    row.messageId recipients

namespace LiveRead

def observe (cursors : String → ChatCursor) (row : Message) : String → ChatCursor :=
  Function.update cursors row.channelH ((cursors row.channelH).observe row)

/-- The state after the first page. -/
def opened (request : LiveRequest) (intake : Intake) : LiveRead :=
  let page := intake.initialPage request.backendPubkey request.read request.params
  { intake := intake
    cursors := page.foldl observe (fun _ => .new request.liveFloor)
    seen := page.map Message.messageId
    emitted := page }

/-- One row of a query. -/
def emitRow (request : LiveRequest) (state : LiveRead) (row : Message) : LiveRead :=
  let cursors := observe state.cursors row
  if row.messageId ∈ state.seen then { state with cursors := cursors }
  else if state.intake.isBackendRow request.backendPubkey row then
    { state with cursors := cursors, seen := row.messageId :: state.seen }
  else
    { state with
      cursors := cursors
      seen := row.messageId :: state.seen
      emitted := state.emitted ++ [row] }

/-- The rows behind the cursor of a channel. -/
def unread (state : LiveRead) (channelH : String) : List Message :=
  state.intake.channelLogAfter channelH (state.cursors channelH).createdAt
    (state.cursors channelH).id

def receive (request : LiveRequest) (state : LiveRead) (channelH : String) : LiveRead :=
  if channelH ∈ request.read then
    let cursor := state.cursors channelH
    (state.intake.chatMessagesForChannelAfter channelH cursor.createdAt cursor.id
      channelReadCap).foldl (emitRow request) state
  else state

def step (request : LiveRequest) (state : LiveRead) : ReadStep → LiveRead
  | .insert row recipients => { state with intake := state.intake.insertMessage row recipients }
  | .tail channelH => state.receive request channelH

/-! ## Completeness -/

/-- The row has to be shown: it was stored after the first page was read. -/
structure Due (request : LiveRequest) (before : Intake) (state : LiveRead) (row : Message) :
    Prop where
  stored : row ∈ state.intake.messages.rows
  later : row ∉ before.messages.rows
  newer : request.since < row.createdAt
  chat : state.intake.isBackendRow request.backendPubkey row = false

instance (request : LiveRequest) (before : Intake) (state : LiveRead) (row : Message) :
    Decidable (Due request before state row) :=
  decidable_of_iff (row ∈ state.intake.messages.rows ∧ row ∉ before.messages.rows ∧
      request.since < row.createdAt ∧
      state.intake.isBackendRow request.backendPubkey row = false)
    ⟨fun ⟨hstored, hlater, hnewer, hchat⟩ => ⟨hstored, hlater, hnewer, hchat⟩,
      fun hdue => ⟨hdue.stored, hdue.later, hdue.newer, hdue.chat⟩⟩

/-- Every row of the channel that is due was written once, and so was the first page. -/
def CompleteFor (request : LiveRequest) (before : Intake) (channelH : String)
    (state : LiveRead) : Prop :=
  (∀ row ∈ state.intake.messages.rows, Due request before state row → row.channelH = channelH →
      state.emitted.count row = 1) ∧
    ∀ row ∈ before.initialPage request.backendPubkey request.read request.params,
      state.emitted.count row = 1

instance (request : LiveRequest) (before : Intake) (channelH : String) (state : LiveRead) :
    Decidable (CompleteFor request before channelH state) :=
  inferInstanceAs (Decidable (_ ∧ _))

/-- A row that will be due is stored behind the cursor of its channel, and the query of an
event reaches the rows that are due. -/
def InOrder (request : LiveRequest) (before : Intake) (state : LiveRead) : ReadStep → Prop
  | .insert row recipients =>
      (state.intake.messages.find? row.messageId).isSome = true ∨ row.channelH ∉ request.read ∨
        row.createdAt ≤ request.since ∨
        (state.intake.insertMessage row recipients).isBackendRow request.backendPubkey row = true ∨
        (state.cursors row.channelH).position < row.position
  | .tail channelH =>
      channelH ∈ request.read → ∀ row ∈ state.unread channelH, Due request before state row →
        rank Message.position (state.unread channelH) row < channelReadCap

instance (request : LiveRequest) (before : Intake) (state : LiveRead) :
    DecidablePred (InOrder request before state)
  | .insert _ _ => inferInstanceAs (Decidable (_ ∨ _))
  | .tail channelH => inferInstanceAs (Decidable (channelH ∈ _ → _))

/-! ## Insertions -/

end LiveRead

namespace Intake

theorem isBackendRow_iff {intake : Intake} {backendPubkey : String} {row : Message} :
    intake.isBackendRow backendPubkey row = true ↔
      intake.db.isBackendPubkey backendPubkey row.authorPubkey = true ∨
        ∃ recipient ∈ intake.messageRecipients.rows, recipient.messageId = row.messageId ∧
          intake.db.isBackendPubkey backendPubkey recipient.recipientPubkey = true := by
  simp [isBackendRow, recipientsFor, Bool.or_eq_true, List.any_eq_true, and_assoc]

/-- Whether a row is backend traffic depends on the profiles and its own recipients. -/
theorem isBackendRow_congr {left right : Intake} {backendPubkey : String} {row : Message}
    (hdb : left.db = right.db) (hrecipients : ∀ pubkey,
      left.messageRecipients.find? (row.messageId, pubkey) =
        right.messageRecipients.find? (row.messageId, pubkey)) :
    left.isBackendRow backendPubkey row = right.isBackendRow backendPubkey row := by
  have hkeyed : ∀ intake : Intake, intake.isBackendRow backendPubkey row = true ↔
      intake.db.isBackendPubkey backendPubkey row.authorPubkey = true ∨
        ∃ pubkey recipient, intake.messageRecipients.find? (row.messageId, pubkey) =
          some recipient ∧ intake.db.isBackendPubkey backendPubkey pubkey = true := by
    intro intake
    rw [isBackendRow_iff]
    refine or_congr_right ⟨?_, ?_⟩
    · rintro ⟨recipient, hmem, hid, hbackend⟩
      refine ⟨recipient.recipientPubkey, recipient, ?_, hbackend⟩
      rw [← hid]
      exact Table.mem_rows_iff.mp hmem
    · rintro ⟨pubkey, recipient, hfind, hbackend⟩
      have hkey : recipient.key = (row.messageId, pubkey) := Table.key_of_find? hfind
      refine ⟨recipient, Table.mem_of_find? hfind, congrArg Prod.fst hkey, ?_⟩
      rw [show recipient.recipientPubkey = pubkey from congrArg Prod.snd hkey]
      exact hbackend
  rw [Bool.eq_iff_iff, hkeyed left, hkeyed right, hdb]
  simp only [hrecipients]

variable {intake : Intake} {row other : Message} {recipients : List String}

theorem insertMessage_messages :
    (intake.insertMessage row recipients).messages = intake.messages.insertOrIgnore row := by
  rw [insertMessage]
  split
  · rename_i hknown
    obtain ⟨old, hold⟩ := Option.isSome_iff_exists.mp hknown
    exact (Table.insertOrIgnore_of_some hold).symm
  · exact (addMessageRecipients_sameReadModels _ _ _).2

/-- A message that was stored keeps its class. -/
theorem isBackendRow_insertMessage (backendPubkey : String)
    (hstored : other ∈ intake.messages.rows) :
    (intake.insertMessage row recipients).isBackendRow backendPubkey other =
      intake.isBackendRow backendPubkey other := by
  rw [insertMessage]
  split
  · rfl
  · rename_i hfree
    have hne : other.messageId ≠ row.messageId := by
      intro heq
      rw [← heq, Table.mem_rows_iff.mp hstored] at hfree
      exact hfree rfl
    refine isBackendRow_congr (addMessageRecipients_db _ _ _) ?_
    intro pubkey
    rw [find?_addMessageRecipients, if_neg]
    rintro ⟨_, _, heq⟩
    exact hne (congrArg Prod.fst heq)

end Intake

namespace LiveRead

variable {request : LiveRequest} {before : Intake} {state : LiveRead} {row : Message}

/-! ## What holds in every run -/

/-- What is written is stored and marked, and what is marked is written or backend
traffic. -/
structure Sound (request : LiveRequest) (before : Intake) (state : LiveRead) : Prop where
  kept : ∀ row ∈ before.messages.rows, row ∈ state.intake.messages.rows
  stored : ∀ row ∈ state.emitted, row ∈ state.intake.messages.rows
  once : state.emitted.Nodup
  page : ∀ row ∈ before.initialPage request.backendPubkey request.read request.params,
    row ∈ state.emitted
  marked : ∀ row ∈ state.emitted, row.messageId ∈ state.seen
  known : ∀ id ∈ state.seen, ∃ row ∈ state.intake.messages.rows, row.messageId = id ∧
    (row ∈ state.emitted ∨ state.intake.isBackendRow request.backendPubkey row = true)

/-- A row that is due was written or is still to be read. -/
def UpToDate (request : LiveRequest) (before : Intake) (state : LiveRead) : Prop :=
  ∀ row, Due request before state row → row.channelH ∈ request.read →
    row ∈ state.emitted ∨ (state.cursors row.channelH).position < row.position

theorem initialPage_sublist : (before.initialPage request.backendPubkey request.read
    request.params).Sublist (before.readRows request.backendPubkey request.read request.since) := by
  rw [Intake.initialPage]
  split
  · exact (List.drop_sublist _ _).trans (List.take_sublist _ _)
  · exact (List.drop_sublist _ _).trans (List.take_sublist _ _)

theorem sound_opened (request : LiveRequest) (before : Intake) :
    Sound request before (opened request before) := by
  have hstored : ∀ row ∈ before.initialPage request.backendPubkey request.read request.params,
      row ∈ before.messages.rows := by
    intro row hrow
    have hread := initialPage_sublist.subset hrow
    have hshown : row ∈ (before.readRows request.backendPubkey request.read
        request.since).reverse := List.mem_reverse.mpr hread
    rw [Intake.reverse_readRows] at hshown
    exact (Intake.mem_newestFirst.mp (List.mem_of_mem_filter hshown)).1.1
  refine ⟨fun row hrow => hrow, hstored, ?_, fun row hrow => hrow, ?_, ?_⟩
  · have hrows : (before.readRows request.backendPubkey request.read request.since).Nodup :=
      (((ascending_perm _).map Message.position).nodup_iff.mpr Intake.nodup_readRows).of_map _
    exact initialPage_sublist.nodup hrows
  · exact fun row hrow => List.mem_map_of_mem hrow
  · intro id hid
    obtain ⟨row, hrow, rfl⟩ := List.mem_map.mp hid
    exact ⟨row, hstored row hrow, rfl, Or.inl hrow⟩

theorem upToDate_opened (request : LiveRequest) (before : Intake) :
    UpToDate request before (opened request before) :=
  fun _ hdue _ => absurd hdue.stored hdue.later

/-! ## Insertions -/

theorem mem_insertMessage {other : Message} {recipients : List String} :
    other ∈ (state.intake.insertMessage row recipients).messages.rows ↔
      other ∈ state.intake.messages.rows ∨
        (other = row ∧ state.intake.messages.find? row.messageId = none) := by
  rw [Intake.insertMessage_messages]
  cases hfind : state.intake.messages.find? row.messageId with
  | none => simp [Table.mem_insertOrIgnore hfind]
  | some old => simp [Table.insertOrIgnore_of_some hfind]

theorem Sound.insert (hsound : Sound request before state) (row : Message)
    (recipients : List String) :
    Sound request before (state.step request (.insert row recipients)) where
  kept other hother := mem_insertMessage.mpr (Or.inl (hsound.kept other hother))
  stored other hother := mem_insertMessage.mpr (Or.inl (hsound.stored other hother))
  once := hsound.once
  page := hsound.page
  marked := hsound.marked
  known id hid := by
    obtain ⟨other, hother, hid, hwritten⟩ := hsound.known id hid
    refine ⟨other, mem_insertMessage.mpr (Or.inl hother), hid, hwritten.imp_right ?_⟩
    intro hbackend
    exact (Intake.isBackendRow_insertMessage _ hother).trans hbackend

theorem UpToDate.insert (hcurrent : UpToDate request before state) {row : Message}
    {recipients : List String} (horder : InOrder request before state (.insert row recipients)) :
    UpToDate request before (state.step request (.insert row recipients)) := by
  intro other hdue hscope
  rcases mem_insertMessage.mp hdue.stored with hstored | ⟨rfl, hfree⟩
  · refine hcurrent other ⟨hstored, hdue.later, hdue.newer, ?_⟩ hscope
    exact (Intake.isBackendRow_insertMessage _ hstored).symm.trans hdue.chat
  · rcases horder with hknown | hout | hold | hbackend | hbehind
    · rw [hfree] at hknown
      cases hknown
    · exact absurd hscope hout
    · exact absurd hdue.newer (Nat.not_lt.mpr hold)
    · exact absurd (hbackend.symm.trans hdue.chat) (by decide)
    · exact Or.inr hbehind

/-! ## Reading -/

theorem emitRow_intake : (state.emitRow request row).intake = state.intake := by
  unfold emitRow
  split_ifs <;> rfl

theorem emitRow_cursors : (state.emitRow request row).cursors = observe state.cursors row := by
  unfold emitRow
  split_ifs <;> rfl

theorem mem_emitRow {other : Message} :
    other ∈ (state.emitRow request row).emitted ↔ other ∈ state.emitted ∨
      (other = row ∧ row.messageId ∉ state.seen ∧
        state.intake.isBackendRow request.backendPubkey row = false) := by
  unfold emitRow
  split_ifs with hseen hbackend
  · simp [hseen]
  · simp [hbackend]
  · simp [hseen, hbackend]

/-- A stored row has been written after its turn, or it is backend traffic. -/
theorem Sound.covered (hsound : Sound request before state)
    (hrow : row ∈ state.intake.messages.rows) (hseen : row.messageId ∈ state.seen) :
    row ∈ state.emitted ∨ state.intake.isBackendRow request.backendPubkey row = true := by
  obtain ⟨other, hother, hid, hwritten⟩ := hsound.known _ hseen
  have hsame : other = row :=
    List.inj_on_of_nodup_map state.intake.messages.keysNodup hother hrow hid
  rwa [hsame] at hwritten

theorem Sound.emitRow (hsound : Sound request before state)
    (hrow : row ∈ state.intake.messages.rows) :
    Sound request before (state.emitRow request row) := by
  unfold LiveRead.emitRow
  split_ifs with hseen hbackend
  · exact ⟨hsound.kept, hsound.stored, hsound.once, hsound.page, hsound.marked, hsound.known⟩
  · refine ⟨hsound.kept, hsound.stored, hsound.once, hsound.page, ?_, ?_⟩
    · exact fun other hother => List.mem_cons_of_mem _ (hsound.marked other hother)
    · intro id hid
      rcases List.mem_cons.mp hid with rfl | hid
      · exact ⟨row, hrow, rfl, Or.inr hbackend⟩
      · exact hsound.known id hid
  · refine ⟨hsound.kept, ?_, ?_, ?_, ?_, ?_⟩
    · intro other hother
      rcases List.mem_append.mp hother with hold | hnew
      · exact hsound.stored other hold
      · exact List.mem_singleton.mp hnew ▸ hrow
    · refine List.nodup_append.mpr ⟨hsound.once, List.nodup_singleton row, ?_⟩
      rintro other hother _ hnew rfl
      rw [List.mem_singleton.mp hnew] at hother
      exact hseen (hsound.marked row hother)
    · exact fun other hother => List.mem_append_left _ (hsound.page other hother)
    · intro other hother
      rcases List.mem_append.mp hother with hold | hnew
      · exact List.mem_cons_of_mem _ (hsound.marked other hold)
      · rw [List.mem_singleton.mp hnew]
        exact List.mem_cons_self
    · intro id hid
      rcases List.mem_cons.mp hid with rfl | hid
      · exact ⟨row, hrow, rfl, Or.inl (List.mem_append_right _ List.mem_cons_self)⟩
      · obtain ⟨other, hother, hid, hwritten⟩ := hsound.known id hid
        exact ⟨other, hother, hid, hwritten.imp_left (List.mem_append_left _)⟩

/-- What the rows of one query leave. -/
theorem Sound.emitRows {rows : List Message} {channelH : String}
    (hsound : Sound request before state)
    (hrows : ∀ row ∈ rows, row ∈ state.intake.messages.rows ∧ row.channelH = channelH) :
    Sound request before (rows.foldl (LiveRead.emitRow request) state) ∧
      (rows.foldl (LiveRead.emitRow request) state).intake = state.intake ∧
      (∀ other ∈ state.emitted, other ∈ (rows.foldl (LiveRead.emitRow request) state).emitted) ∧
      (∀ row ∈ rows, row ∈ (rows.foldl (LiveRead.emitRow request) state).emitted ∨
        state.intake.isBackendRow request.backendPubkey row = true) ∧
      ∀ other, other ≠ channelH →
        (rows.foldl (LiveRead.emitRow request) state).cursors other = state.cursors other := by
  induction rows generalizing state with
  | nil => exact ⟨hsound, rfl, fun _ hother => hother, fun _ hrow => absurd hrow List.not_mem_nil,
      fun _ _ => rfl⟩
  | cons head rest ih =>
      obtain ⟨hhead, hchannel⟩ := hrows head List.mem_cons_self
      have hnext := hsound.emitRow hhead
      have hintake : (state.emitRow request head).intake = state.intake := emitRow_intake
      have hrest : ∀ row ∈ rest,
          row ∈ (state.emitRow request head).intake.messages.rows ∧ row.channelH = channelH := by
        rw [hintake]
        exact fun row hrow => hrows row (List.mem_cons_of_mem head hrow)
      obtain ⟨hfinal, hsame, hkept, hcovered, hcursors⟩ := ih hnext hrest
      rw [List.foldl_cons]
      refine ⟨hfinal, hsame.trans hintake, ?_, ?_, ?_⟩
      · exact fun other hother => hkept other (mem_emitRow.mpr (Or.inl hother))
      · intro row hrow
        rcases List.mem_cons.mp hrow with rfl | hrow
        · by_cases hseen : row.messageId ∈ state.seen
          · exact (hsound.covered hhead hseen).imp_left
              (fun hwritten => hkept _ (mem_emitRow.mpr (Or.inl hwritten)))
          · cases hbackend : state.intake.isBackendRow request.backendPubkey row with
            | true => exact Or.inr rfl
            | false => exact Or.inl (hkept _ (mem_emitRow.mpr (Or.inr ⟨rfl, hseen, hbackend⟩)))
        · rw [← hintake]
          exact hcovered row hrow
      · intro other hother
        rw [hcursors other hother, emitRow_cursors, observe, Function.update_of_ne]
        exact fun heq => hother (heq.trans hchannel)

theorem mem_unread {channelH : String} :
    row ∈ state.unread channelH ↔ row ∈ state.intake.messages.rows ∧ row.channelH = channelH ∧
      (state.cursors channelH).position < row.position := by
  rw [unread, Intake.channelLogAfter, Table.mem_select, ChatCursor.position_lt_iff]

/-- The rows of the query that an event of the channel makes. -/
def batch (state : LiveRead) (channelH : String) : List Message :=
  state.intake.chatMessagesForChannelAfter channelH (state.cursors channelH).createdAt
    (state.cursors channelH).id channelReadCap

theorem mem_batch {channelH : String} :
    row ∈ state.batch channelH ↔ row ∈ state.unread channelH ∧
      rank Message.position (state.unread channelH) row < channelReadCap := by
  have hkeys : ((state.unread channelH).map Message.position).Nodup :=
    nodup_positions List.filter_sublist
  show row ∈ (ascending Message.position (state.unread channelH)).take channelReadCap ↔ _
  rw [mem_take_iff_rank (pairwise_lt_ascending hkeys), mem_ascending,
    rank_perm (ascending_perm _)]

theorem batch_stored (channelH : String) : ∀ row ∈ state.batch channelH,
    row ∈ state.intake.messages.rows ∧ row.channelH = channelH := by
  intro row hrow
  obtain ⟨hstored, hchannel, _⟩ := mem_unread.mp (mem_batch.mp hrow).1
  exact ⟨hstored, hchannel⟩

theorem receive_of_mem {channelH : String} (hscope : channelH ∈ request.read) :
    state.receive request channelH =
      (state.batch channelH).foldl (emitRow request) state := by
  rw [receive, if_pos hscope, batch]

/-- After an event of the channel every row that was due has been written. -/
theorem written_receive {channelH : String} (hsound : Sound request before state)
    (hcurrent : UpToDate request before state) (hscope : channelH ∈ request.read)
    (horder : InOrder request before state (.tail channelH)) (hdue : Due request before state row)
    (hchannel : row.channelH = channelH) :
    row ∈ (state.receive request channelH).emitted := by
  obtain ⟨_, _, hkept, hcovered, _⟩ := hsound.emitRows (batch_stored channelH)
  rw [receive_of_mem hscope]
  subst hchannel
  rcases hcurrent row hdue hscope with hwritten | hbehind
  · exact hkept row hwritten
  · have hunread : row ∈ state.unread row.channelH := mem_unread.mpr ⟨hdue.stored, rfl, hbehind⟩
    have hbatch := mem_batch.mpr ⟨hunread, horder hscope row hunread hdue⟩
    rcases hcovered row hbatch with hwritten | hbackend
    · exact hwritten
    · exact absurd (hbackend.symm.trans hdue.chat) (by decide)

theorem receive_intake (hsound : Sound request before state) (channelH : String) :
    (state.receive request channelH).intake = state.intake := by
  by_cases hscope : channelH ∈ request.read
  · rw [receive_of_mem hscope]
    exact (hsound.emitRows (batch_stored channelH)).2.1
  · rw [receive, if_neg hscope]

theorem Sound.receive (hsound : Sound request before state) (channelH : String) :
    Sound request before (state.receive request channelH) := by
  by_cases hscope : channelH ∈ request.read
  · rw [receive_of_mem hscope]
    exact (hsound.emitRows (batch_stored channelH)).1
  · rw [LiveRead.receive, if_neg hscope]
    exact hsound

theorem Due.of_intake {other : LiveRead} (hdue : Due request before other row)
    (hintake : other.intake = state.intake) : Due request before state row :=
  ⟨hintake ▸ hdue.stored, hdue.later, hdue.newer, hintake ▸ hdue.chat⟩

theorem UpToDate.receive {channelH : String} (hsound : Sound request before state)
    (hcurrent : UpToDate request before state)
    (horder : InOrder request before state (.tail channelH)) :
    UpToDate request before (state.receive request channelH) := by
  by_cases hscope : channelH ∈ request.read
  · intro row hdue hrow
    have hdueBefore := hdue.of_intake (receive_intake hsound channelH)
    by_cases hchannel : row.channelH = channelH
    · exact Or.inl (written_receive hsound hcurrent hscope horder hdueBefore hchannel)
    · obtain ⟨_, _, hkept, _, hcursors⟩ := hsound.emitRows (batch_stored channelH)
      rw [receive_of_mem hscope]
      refine (hcurrent row hdueBefore hrow).imp (hkept row) ?_
      intro hbehind
      rw [hcursors row.channelH hchannel]
      exact hbehind
  · rw [LiveRead.receive, if_neg hscope]
    exact hcurrent

/-! ## Runs -/

theorem sound_run (request : LiveRequest) (before : Intake) (steps : List ReadStep) :
    Sound request before (run (step request) (opened request before) steps) := by
  refine run_invariant (sound_opened request before) ?_ steps
  rintro state (⟨row, recipients⟩ | ⟨channelH⟩) hsound
  · exact hsound.insert row recipients
  · exact hsound.receive channelH

theorem upToDate_run {steps : List ReadStep}
    (hguarded : Guarded (step request) (InOrder request before) (opened request before) steps) :
    Sound request before (run (step request) (opened request before) steps) ∧
      UpToDate request before (run (step request) (opened request before) steps) := by
  refine guarded_run_invariant (I := fun state => Sound request before state ∧
    UpToDate request before state)
    ⟨sound_opened request before, upToDate_opened request before⟩ ?_ hguarded
  rintro state (⟨row, recipients⟩ | ⟨channelH⟩) ⟨hsound, hcurrent⟩ horder
  · exact ⟨hsound.insert row recipients, hcurrent.insert horder⟩
  · exact ⟨hsound.receive channelH, hcurrent.receive hsound horder⟩

/-- In a run whose steps are all in order, an event of a channel in scope leaves no row of
the channel unwritten that is due, and nothing is written twice. -/
theorem live_read_complete {request : LiveRequest} {before : Intake} {steps : List ReadStep}
    {channelH : String} (hscope : channelH ∈ request.read)
    (hguarded : Guarded (step request) (InOrder request before) (opened request before)
      (steps ++ [.tail channelH])) :
    CompleteFor request before channelH
      (run (step request) (opened request before) (steps ++ [.tail channelH])) := by
  have hsoundAfter := sound_run request before (steps ++ [.tail channelH])
  obtain ⟨hearlier, hlast⟩ := guarded_append.mp hguarded
  obtain ⟨hsound, hcurrent⟩ := upToDate_run hearlier
  rw [run_append] at hsoundAfter ⊢
  refine ⟨?_, ?_⟩
  · intro row _ hdue hchannel
    have hdueBefore := hdue.of_intake (receive_intake hsound channelH)
    exact List.count_eq_one_of_mem hsoundAfter.once
      (written_receive hsound hcurrent hscope hlast.1 hdueBefore hchannel)
  · intro row hrow
    exact List.count_eq_one_of_mem hsoundAfter.once (hsoundAfter.page row hrow)

/-- A read of one channel that starts at second 100. -/
def roomRead : LiveRequest where
  backendPubkey := ""
  read := .one "room"
  params := ⟨none, none, none, true⟩
  startedAt := 100

theorem live_read_complete_room :
    CompleteFor roomRead .empty "room"
      (run (step roomRead) (opened roomRead .empty)
        ([.insert (Intake.logged "m1" "room" 100) [], .tail "room",
          .insert (Intake.logged "m2" "room" 100) []] ++ [.tail "room"])) :=
  live_read_complete (by decide) (by decide)

/-- A message that was stamped before the read started is not read. -/
theorem late_message_not_read :
    ¬ ∀ (request : LiveRequest) (before : Intake) (steps : List ReadStep) (channelH : String),
      channelH ∈ request.read → CompleteFor request before channelH
        (run (step request) (opened request before) (steps ++ [.tail channelH])) := by
  intro hall
  exact absurd (hall roomRead .empty [.insert (Intake.logged "m1" "room" 99) []] "room"
    (by decide)) (by decide)

/-! ## Rows that are stored too late -/

theorem cursor_le_emitRows (rows : List Message) (channelH : String) :
    (state.cursors channelH).position ≤
      ((rows.foldl (emitRow request) state).cursors channelH).position := by
  induction rows generalizing state with
  | nil => exact le_refl _
  | cons head rest ih =>
      have hrest : ((state.emitRow request head).cursors channelH).position ≤
          ((rest.foldl (emitRow request) (state.emitRow request head)).cursors channelH).position :=
        ih
      refine le_trans ?_ hrest
      rw [emitRow_cursors, observe, Function.update_apply]
      split
      · rename_i heq
        rw [ChatCursor.position_observe, heq]
        exact le_max_left _ _
      · exact le_refl _

theorem mem_emitRows_of_not_mem {rows : List Message} (hrow : row ∉ rows) :
    row ∈ (rows.foldl (emitRow request) state).emitted → row ∈ state.emitted := by
  induction rows generalizing state with
  | nil => exact id
  | cons head rest ih =>
      intro hmem
      rcases mem_emitRow.mp (ih (List.not_mem_of_not_mem_cons hrow) hmem) with hold | ⟨rfl, _⟩
      · exact hold
      · exact absurd List.mem_cons_self hrow

/-- A row that is stored at or before the cursor of its channel is never written, whatever
happens after. -/
theorem late_row_never_emitted (hlate : row.position ≤ (state.cursors row.channelH).position)
    (hunwritten : row ∉ state.emitted) (steps : List ReadStep) :
    row ∉ (run (step request) state steps).emitted := by
  have hinvariant : (row.position ≤
      ((run (step request) state steps).cursors row.channelH).position) ∧
      row ∉ (run (step request) state steps).emitted := by
    refine run_invariant (I := fun reached : LiveRead => row.position ≤
      (reached.cursors row.channelH).position ∧ row ∉ reached.emitted)
      ⟨hlate, hunwritten⟩ ?_ steps
    rintro reached (⟨other, recipients⟩ | ⟨channelH⟩) ⟨hpassed, hnot⟩
    · exact ⟨hpassed, hnot⟩
    · show row.position ≤ ((reached.receive request channelH).cursors row.channelH).position ∧
        row ∉ (reached.receive request channelH).emitted
      by_cases hscope : channelH ∈ request.read
      · rw [receive_of_mem hscope]
        refine ⟨le_trans hpassed (cursor_le_emitRows _ _), ?_⟩
        intro hmem
        -- A page starts behind the cursor, which has passed the row.
        have hbatch : row ∉ reached.batch channelH := by
          intro hrow
          obtain ⟨_, hchannel, hbehind⟩ := mem_unread.mp (mem_batch.mp hrow).1
          rw [← hchannel] at hbehind
          exact absurd hbehind (not_lt.mpr hpassed)
        exact hnot (mem_emitRows_of_not_mem hbatch hmem)
      · rw [receive, if_neg hscope]
        exact ⟨hpassed, hnot⟩
  exact hinvariant.2

theorem late_row_never_emitted_room :
    Intake.logged "m0" "room" 100 ∉
      (run (step roomRead)
        (run (step roomRead) (opened roomRead .empty)
          [.insert (Intake.logged "m1" "room" 100) [], .tail "room"])
        [.insert (Intake.logged "m0" "room" 100) [], .tail "room"]).emitted :=
  late_row_never_emitted (by decide) (by decide) _

end LiveRead

end Mosaico
