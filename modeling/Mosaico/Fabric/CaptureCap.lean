import Mosaico.Fabric.Messages
import Mosaico.Relational.Ordering

/-!
# The cap of the message capture

`chat_for_channel` returns the first `CHAT_CAPTURE_CAP` stored events of a channel, oldest
first and of any kind.  The filters of the view and the cursor are applied later to what
that read has returned, so the cap takes the newest events away and not the oldest.

A view with a cursor shows the same rows as the complete history exactly when no event
behind the cap is one that the cursor would select.
-/

namespace Mosaico

open Relational

/-- Where the selection of a view begins. -/
def windowStart (cursor now : Nat) : Nat :=
  if cursor = 0 then now - windowSecs else cursor

namespace Database

variable (db : Database) (parseTags : String → Option (List (List String)))

/-- All stored events of a channel, oldest first. -/
def channelHistory (channelH : String) : List RelayEvent :=
  ((db.events.select (fun row => row.channelH = channelH)).insertionSort
      (fun left right => left.id ≤ right.id)).insertionSort
    (fun left right => left.createdAt ≤ right.createdAt)

/-- An event as the capture freezes it. -/
def captureEvent (selfPubkey : String) (event : RelayEvent) : EvCap where
  id := event.id
  createdAt := event.createdAt
  mentionsSelf := mentionsPubkey parseTags event.tagsJson selfPubkey
  forcedMention := false

/-- `capture_messages` over a given log of the channel. -/
def captureFrom (input : FabricContextInput) (log : List RelayEvent)
    (forced : List FabricMessageSeed) : MsgBundle :=
  if input.session = none then .empty
  else
    { events := (log.filter (db.isAmbient parseTags input)).map
        (captureEvent parseTags input.selfPubkey)
      forced := forced.map (fun seed =>
        { id := seed.id
          createdAt := seed.createdAt
          mentionsSelf := false
          forcedMention := seed.mention }) }

theorem captureMessages_eq (input : FabricContextInput) (channel : String)
    (forced : List FabricMessageSeed) :
    db.captureMessages parseTags input channel forced =
      db.captureFrom parseTags input (db.chatForChannel channel 0 chatCaptureCap) forced := rfl

/-- The cap does not show: whatever rows are forced, the view has the rows of the complete
history. -/
def CapInvisible (input : FabricContextInput) (channel : String) (cursor now : Nat) : Prop :=
  ∀ forced,
    (messageRows (db.captureMessages parseTags input channel forced) cursor now).1 =
      (messageRows (db.captureFrom parseTags input (db.channelHistory channel) forced) cursor
        now).1

/-- The events of the channel that the capture does not read. -/
def behindCap (channel : String) : List RelayEvent :=
  ((db.channelHistory channel).filter fun event => 0 < event.createdAt).drop chatCaptureCap

variable {db parseTags} {input : FabricContextInput} {channel : String}

theorem chatForChannel_eq (limit : Nat) :
    db.chatForChannel channel 0 limit =
      ((db.channelHistory channel).filter fun event => 0 < event.createdAt).take limit := by
  have hselect : db.events.select (fun row => row.channelH = channel ∧ 0 < row.createdAt) =
      (db.events.select (fun row => row.channelH = channel)).filter
        fun event => 0 < event.createdAt := by
    rw [Table.select, Table.select, List.filter_filter]
    refine List.filter_congr ?_
    intro row _
    rw [Bool.decide_and, Bool.and_comm]
  rw [chatForChannel, channelHistory, hselect, filter_insertionSort, filter_insertionSort]

/-- The history has the order of its stamps, and equal stamps the order of the ids. -/
theorem channelHistory_sorted :
    (db.channelHistory channel).Pairwise fun left right =>
      left.createdAt < right.createdAt ∨
        (left.createdAt = right.createdAt ∧ left.id ≤ right.id) := by
  have hids : ((db.events.select (fun row => row.channelH = channel)).insertionSort
      (fun left right => left.id ≤ right.id)).Pairwise (fun left right => left.id ≤ right.id) :=
    List.pairwise_insertionSort (fun left right : RelayEvent => left.id ≤ right.id) _
  refine (Relational.pairwise_insertionSort
    (r := fun left right : RelayEvent => left.createdAt ≤ right.createdAt) hids).imp ?_
  intro left right hboth
  rcases Nat.lt_or_ge left.createdAt right.createdAt with hlt | hge
  · exact Or.inl hlt
  · exact Or.inr ⟨Nat.le_antisymm hboth.1 hge, hboth.2 hge⟩

theorem channelHistory_ids_nodup : ((db.channelHistory channel).map RelayEvent.id).Nodup := by
  have hperm : (db.channelHistory channel).Perm
      (db.events.select (fun row => row.channelH = channel)) :=
    (List.perm_insertionSort _ _).trans (List.perm_insertionSort _ _)
  refine (hperm.map RelayEvent.id).nodup_iff.mpr ?_
  exact (List.filter_sublist.map RelayEvent.id).nodup db.events.keysNodup

end Database

/-! ## The newest event of a window -/

theorem clusterTail_head {room : Nat} (hroom : 0 < room) (event : EvCap) (rest : List EvCap) :
    event ∈ clusterTail room (event :: rest) := by
  obtain ⟨room, rfl⟩ : ∃ less, room = less + 1 := ⟨room - 1, by omega⟩
  cases rest with
  | nil => exact List.mem_singleton_self event
  | cons earlier rest =>
      rw [clusterTail]
      split_ifs
      · exact List.mem_singleton_self event
      · exact List.mem_cons_self

/-- The most recent cluster holds the newest event. -/
theorem mem_recentCluster_last {events : List EvCap} {last : EvCap}
    (hsorted : (events ++ [last]).Pairwise EvCap.before) :
    last ∈ recentCluster (events ++ [last]) := by
  rw [recentCluster]
  split_ifs
  · exact List.mem_append_right events (List.mem_singleton_self last)
  · rw [sortEvents, hsorted.insertionSort_eq, List.reverse_append, List.reverse_singleton,
      List.mem_reverse]
    exact clusterTail_head (by decide) last events.reverse

theorem selectedEvents_eq (bundle : MsgBundle) (cursor now : Nat) :
    selectedEvents bundle cursor now =
      if cursor = 0 then
        recentCluster (bundle.events.filter (fun event => windowStart cursor now < event.createdAt))
      else bundle.events.filter (fun event => windowStart cursor now < event.createdAt) := rfl

theorem mem_selectedEvents_last {bundle : MsgBundle} {cursor now : Nat} {events : List EvCap}
    {last : EvCap}
    (hwindow : bundle.events.filter (fun event => windowStart cursor now < event.createdAt) =
      events ++ [last])
    (hsorted : (events ++ [last]).Pairwise EvCap.before) :
    last ∈ selectedEvents bundle cursor now := by
  rw [selectedEvents_eq, hwindow]
  split_ifs
  · exact mem_recentCluster_last hsorted
  · exact List.mem_append_right events (List.mem_singleton_self last)

/-- `message_rows` behind its first filter. -/
def rowsOfWindow (cursor : Nat) (window forced : List EvCap) : List MessageRow × Nat :=
  let events := if cursor = 0 then recentCluster window else window
  let omitted := if cursor = 0 then window.length - events.length else 0
  let forcedMentions := (forced.filter EvCap.forcedMention).map EvCap.id
  ((sortEvents (addForced events forced)).map (fun event =>
    { id := event.id
      mention := event.mentionsSelf || forcedMentions.contains event.id }), omitted)

theorem messageRows_eq (bundle : MsgBundle) (cursor now : Nat) :
    messageRows bundle cursor now =
      rowsOfWindow cursor
        (bundle.events.filter (fun event => windowStart cursor now < event.createdAt))
        bundle.forced := rfl

namespace Database

variable {db : Database} {parseTags : String → Option (List (List String))}
  {input : FabricContextInput} {channel : String} {cursor now : Nat}

/-- The events of a log that the cursor lets through. -/
def inWindow (db : Database) (parseTags : String → Option (List (List String)))
    (input : FabricContextInput) (cursor now : Nat) (log : List RelayEvent) : List RelayEvent :=
  log.filter fun event =>
    db.isAmbient parseTags input event && decide (windowStart cursor now < event.createdAt)

theorem captureFrom_window (hsession : input.session ≠ none) (log : List RelayEvent)
    (forced : List FabricMessageSeed) :
    (db.captureFrom parseTags input log forced).events.filter
        (fun event => windowStart cursor now < event.createdAt) =
      (db.inWindow parseTags input cursor now log).map
        (captureEvent parseTags input.selfPubkey) := by
  rw [captureFrom, if_neg hsession, List.filter_map, inWindow, List.filter_filter]
  refine congrArg _ (List.filter_congr ?_)
  intro event _
  exact Bool.and_comm _ _

theorem captureFrom_forced (hsession : input.session ≠ none) (log : List RelayEvent)
    (forced : List FabricMessageSeed) :
    (db.captureFrom parseTags input log forced).forced = forced.map (fun seed =>
      { id := seed.id
        createdAt := seed.createdAt
        mentionsSelf := false
        forcedMention := seed.mention }) := by
  rw [captureFrom, if_neg hsession]

/-- Nothing that a cursor selects is stamped zero. -/
theorem inWindow_history :
    db.inWindow parseTags input cursor now (db.channelHistory channel) =
      db.inWindow parseTags input cursor now (db.chatForChannel channel 0 chatCaptureCap) ++
        db.inWindow parseTags input cursor now (db.behindCap channel) := by
  rw [chatForChannel_eq, behindCap, inWindow, inWindow, inWindow, ← List.filter_append,
    List.take_append_drop, List.filter_filter]
  refine List.filter_congr ?_
  intro event _
  by_cases hlater : windowStart cursor now < event.createdAt
  · have hpos : 0 < event.createdAt := by omega
    simp [hlater, hpos]
  · simp [hlater]

/-- What the capture reads and what it does not have no id in common. -/
theorem id_ne_behindCap {read cut : RelayEvent}
    (hread : read ∈ db.chatForChannel channel 0 chatCaptureCap)
    (hcut : cut ∈ db.behindCap channel) : read.id ≠ cut.id := by
  have hnodup : (((db.channelHistory channel).filter fun event => 0 < event.createdAt).map
      RelayEvent.id).Nodup :=
    (List.filter_sublist.map RelayEvent.id).nodup db.channelHistory_ids_nodup
  rw [← List.take_append_drop chatCaptureCap ((db.channelHistory channel).filter _),
    List.map_append] at hnodup
  rw [chatForChannel_eq] at hread
  intro hid
  refine List.disjoint_of_nodup_append hnodup (List.mem_map_of_mem hread) ?_
  rw [hid]
  exact List.mem_map_of_mem hcut

theorem captureEvent_before {selfPubkey : String} {log : List RelayEvent}
    (hlog : log.Sublist (db.channelHistory channel)) :
    (log.map (captureEvent parseTags selfPubkey)).Pairwise EvCap.before :=
  List.pairwise_map.mpr (db.channelHistory_sorted.sublist hlog)

/-- A view without forced rows shows events of the log only. -/
theorem exists_mem_of_shown (hsession : input.session ≠ none) {log : List RelayEvent} {id : String}
    (hshown : id ∈ (messageRows (db.captureFrom parseTags input log []) cursor now).1.map
      MessageRow.id) : ∃ read ∈ log, read.id = id := by
  rw [mem_messageRows_ids, captureFrom_forced hsession, List.map_nil, List.map_nil] at hshown
  obtain ⟨shown, hselected, hid⟩ := List.mem_map.mp (hshown.resolve_right List.not_mem_nil)
  have hcaptured := selectedEvents_subset hselected
  rw [captureFrom, if_neg hsession] at hcaptured
  obtain ⟨read, hread, rfl⟩ := List.mem_map.mp hcaptured
  exact ⟨read, (List.mem_filter.mp hread).1, hid⟩

/-- The complete history shows its newest event, and that one is behind the cap as soon as any
event of the window is. -/
theorem exists_shown_behindCap (hsession : input.session ≠ none)
    (hbehind : db.inWindow parseTags input cursor now (db.behindCap channel) ≠ []) :
    ∃ newest ∈ db.behindCap channel, newest.id ∈
      (messageRows (db.captureFrom parseTags input (db.channelHistory channel) []) cursor
        now).1.map MessageRow.id := by
  obtain ⟨earlier, newest, hnewest⟩ := (List.eq_nil_or_concat _).resolve_left hbehind
  have hcut : newest ∈ db.inWindow parseTags input cursor now (db.behindCap channel) := by
    rw [hnewest, List.concat_eq_append]
    exact List.mem_append_right earlier (List.mem_singleton_self newest)
  have hwindow : db.inWindow parseTags input cursor now (db.channelHistory channel) =
      db.inWindow parseTags input cursor now (db.chatForChannel channel 0 chatCaptureCap) ++
        earlier ++ [newest] := by
    rw [inWindow_history, hnewest, List.concat_eq_append, List.append_assoc]
  have hselected : captureEvent parseTags input.selfPubkey newest ∈
      selectedEvents (db.captureFrom parseTags input (db.channelHistory channel) []) cursor
        now := by
    refine @mem_selectedEvents_last _ _ _ ((db.inWindow parseTags input cursor now
      (db.chatForChannel channel 0 chatCaptureCap) ++ earlier).map
        (captureEvent parseTags input.selfPubkey)) _ ?_ ?_
    · rw [captureFrom_window hsession, hwindow, List.map_append, List.map_singleton]
    · rw [← List.map_singleton, ← List.map_append, ← hwindow]
      exact captureEvent_before List.filter_sublist
  exact ⟨newest, List.mem_of_mem_filter hcut,
    mem_messageRows_ids.mpr (Or.inl (List.mem_map_of_mem hselected))⟩

/-- The view of a session shows the messages of the complete history exactly when no event
behind the cap is one that the cursor would select. -/
theorem capInvisible_iff (db : Database) (parseTags : String → Option (List (List String)))
    (input : FabricContextInput) (channel : String) (cursor now : Nat) :
    db.CapInvisible parseTags input channel cursor now ↔
      (input.session ≠ none → ∀ event ∈ db.behindCap channel,
        db.isAmbient parseTags input event = true →
          event.createdAt ≤ windowStart cursor now) := by
  by_cases hsession : input.session = none
  · refine iff_of_true ?_ (fun hsome => absurd hsession hsome)
    intro forced
    rw [captureMessages_eq, captureFrom, captureFrom, if_pos hsession, if_pos hsession]
  · constructor
    · intro hsame _ event hevent hambient
      by_contra hlater
      have hbehind : db.inWindow parseTags input cursor now (db.behindCap channel) ≠ [] := by
        refine List.ne_nil_of_mem (a := event) (List.mem_filter.mpr ⟨hevent, ?_⟩)
        rw [hambient, Bool.true_and, decide_eq_true_eq]
        omega
      obtain ⟨newest, hcut, hshown⟩ := exists_shown_behindCap hsession hbehind
      -- the capture shows it too, so the capture has read it
      rw [← hsame [], captureMessages_eq] at hshown
      obtain ⟨read, hread, hid⟩ := exists_mem_of_shown hsession hshown
      exact id_ne_behindCap hread hcut hid
    · intro hbelow forced
      have hnone : db.inWindow parseTags input cursor now (db.behindCap channel) = [] := by
        refine List.filter_eq_nil_iff.mpr ?_
        intro event hevent hselected
        rw [Bool.and_eq_true, decide_eq_true_eq] at hselected
        exact absurd (hbelow hsession event hevent hselected.1) (Nat.not_le.mpr hselected.2)
      rw [captureMessages_eq, messageRows_eq, messageRows_eq, captureFrom_window hsession,
        captureFrom_window hsession, captureFrom_forced hsession, captureFrom_forced hsession,
        inWindow_history, hnone, List.append_nil]

/-! ## A busy channel -/

/-- The events of one channel, each a second after the one before: `older` reactions and one
message. -/
def busyEvent (older index : Nat) : RelayEvent where
  id := String.ofList (List.replicate index 'a')
  kind := if index = older then kindChat else 7
  pubkey := "peer"
  createdAt := index + 1
  channelH := "room"
  dTag := ""
  content := ""
  tagsJson := ""

def busyLog (older : Nat) : List RelayEvent :=
  (List.range (older + 1)).map (busyEvent older)

theorem busyLog_ids_nodup (older : Nat) : ((busyLog older).map RelayEvent.id).Nodup := by
  rw [busyLog, List.map_map]
  refine List.nodup_range.map ?_
  intro first second heq
  have hlength := congrArg List.length (String.ofList_injective heq)
  simpa using hlength

def busyDatabase (older : Nat) : Database :=
  { Database.empty with
    events := { rows := busyLog older, keysNodup := busyLog_ids_nodup older } }

/-- The log is stored in the order of its stamps. -/
theorem busyDatabase_history (older : Nat) :
    (busyDatabase older).channelHistory "room" = busyLog older := by
  have hselect : (busyDatabase older).events.select (fun row => row.channelH = "room") =
      busyLog older := by
    refine List.filter_eq_self.mpr ?_
    intro event hevent
    obtain ⟨index, _, rfl⟩ := List.mem_map.mp hevent
    rfl
  have hsorted : (busyLog older).Pairwise fun left right => left.createdAt ≤ right.createdAt := by
    refine List.pairwise_map.mpr (List.pairwise_lt_range.imp ?_)
    intro first second hlt
    exact Nat.succ_le_succ (Nat.le_of_lt hlt)
  have hperm : ((busyDatabase older).channelHistory "room").Perm (busyLog older) := by
    rw [channelHistory, hselect]
    exact (List.perm_insertionSort _ _).trans (List.perm_insertionSort _ _)
  refine List.Perm.eq_of_pairwise ?_ (List.pairwise_insertionSort
    (fun left right : RelayEvent => left.createdAt ≤ right.createdAt) _) hsorted hperm
  intro left right hleft hright hle hge
  obtain ⟨first, _, rfl⟩ := List.mem_map.mp (hperm.mem_iff.mp hleft)
  obtain ⟨second, _, rfl⟩ := List.mem_map.mp hright
  have hsame : first = second := by
    simp only [busyEvent] at hle hge
    omega
  rw [hsame]

theorem busyDatabase_behindCap {older : Nat} (holder : older = chatCaptureCap) :
    busyEvent older older ∈ (busyDatabase older).behindCap "room" := by
  have hpositive : ((busyLog older).filter fun event => 0 < event.createdAt) = busyLog older := by
    refine List.filter_eq_self.mpr ?_
    intro event hevent
    obtain ⟨index, _, rfl⟩ := List.mem_map.mp hevent
    exact decide_eq_true (Nat.succ_pos index)
  rw [behindCap, busyDatabase_history, hpositive, ← holder, busyLog, List.range_succ,
    List.map_append, List.drop_left' (by simp)]
  exact List.mem_singleton_self _

/-- A session that reads the channel. -/
def busyReader : FabricContextInput where
  session := some (Session.defaults "reader" 1 0)
  scope := "room"
  selfPubkey := "reader"
  backendPubkey := ""
  forcedMessages := []
  warnings := []

theorem busyEvent_ambient (older : Nat) :
    (busyDatabase older).isAmbient (fun _ => none) busyReader (busyEvent older older) = true := by
  have hkind : (busyEvent older older).kind = kindChat := by
    rw [busyEvent, if_pos rfl]
  have hinjected : (busyDatabase older).injectedIds busyReader.session = [] := rfl
  have htraffic : (busyDatabase older).isBackendTraffic (fun _ => none) busyReader.backendPubkey
      "peer" "" = false := rfl
  rw [isAmbient, hkind, hinjected]
  simp only [busyEvent, htraffic]
  rfl

/-- Ten thousand old reactions hide the newest message of a channel. -/
theorem newest_message_cut :
    ¬ (busyDatabase chatCaptureCap).CapInvisible (fun _ => none) busyReader "room" 0
      (chatCaptureCap + 1) := by
  intro hinvisible
  have hbelow := (capInvisible_iff _ _ _ _ _ _).mp hinvisible (Option.some_ne_none _) _
    (busyDatabase_behindCap rfl) (busyEvent_ambient chatCaptureCap)
  exact absurd hbelow (by decide)

end Database

end Mosaico
