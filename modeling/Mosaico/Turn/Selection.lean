import Mosaico.Turn.Requests

/-!
# What a turn request selects

A context shows an event in a channel when one of the message rows of the channel
carries its id.  The channel has to be captured at all; then a row stands for a
claimed mention, or for a chat event of the log after the cursor which is not the
reader's own, not backend traffic and not marked injected.

Both requests capture the database after their own claim.  The claim moves
pending rows only, so what is selected is decided by the database that the
request finds.
-/

namespace Mosaico

open Relational Transition

namespace TurnContext

/-- The message rows of a channel. -/
def rows (context : TurnContext) (channel : String) : List MessageRow :=
  match context.inputs.messages channel with
  | none => []
  | some bundle => (messageRows bundle context.cursor context.now).1

/-- A message row of the channel carries the event id. -/
def shows (context : TurnContext) (channel id : String) : Bool :=
  (context.rows channel).any (fun row => row.id = id)

theorem shows_iff {context : TurnContext} {channel id : String} :
    context.shows channel id = true ↔ id ∈ (context.rows channel).map MessageRow.id := by
  simp [shows]

end TurnContext

namespace Database

/-! ## Captured channels -/

variable {db : Database} {channel id pubkey : String} {input : FabricContextInput} {now : Nat}
  {env : TurnEnv}

/-- The channel has metadata and is not archived. -/
theorem ready_iff :
    db.channelReadiness channel = .ready ↔ ∃ row ∈ db.liveChannels, row.channelH = channel := by
  rw [channelReadiness]
  cases hfind : db.getChannel channel with
  | none =>
      refine iff_of_false (by simp) ?_
      rintro ⟨row, hrow, rfl⟩
      rw [(mem_liveChannels.mp hrow).1] at hfind
      cases hfind
  | some row =>
      have hkey : row.channelH = channel := Table.key_of_find? hfind
      dsimp only
      cases harchived : row.isArchived with
      | true =>
          refine iff_of_false (by simp) ?_
          rintro ⟨other, hother, rfl⟩
          obtain ⟨hget, hlive⟩ := mem_liveChannels.mp hother
          rw [hget, Option.some.injEq] at hfind
          rw [hfind, harchived] at hlive
          cases hlive
      | false =>
          refine iff_of_true (by simp) ⟨row, ?_, hkey⟩
          rw [mem_liveChannels, hkey]
          exact ⟨hfind, harchived⟩

/-- The channel is filed under a workspace of this machine. -/
def Filed (db : Database) (channel : String) : Prop :=
  ∃ root, db.rootForChannel channel = .ok root ∧ root ∈ db.workspaceRootIds

instance (db : Database) (channel : String) : Decidable (db.Filed channel) :=
  match hroot : db.rootForChannel channel with
  | .ok root => decidable_of_iff (root ∈ db.workspaceRootIds) (by simp [Filed, hroot])
  | .error _ => isFalse (by simp [Filed, hroot])

/-- The capture takes the channel in. -/
def Captures (db : Database) (input : FabricContextInput) (channel : String) : Prop :=
  channel ∈ db.selectedChannels input ∧ db.Filed channel

/-- A live channel is in the topology exactly if its workspace is. -/
theorem mem_topology_iff {workspaces : List WorkspaceCap}
    (hok : db.captureTopology = .ok workspaces) (hready : db.channelReadiness channel = .ready) :
    channel ∈ (workspaces.flatMap WorkspaceCap.channels).map ChannelCap.h ↔ db.Filed channel := by
  simp only [captureTopology, bind_eq_ok, pure_eq_ok] at hok
  obtain ⟨filed, hfiled, rfl⟩ := hok
  have hentry : ∀ root, (∃ cap, (root, cap) ∈ filed ∧ cap.h = channel) ↔
      db.rootForChannel channel = .ok root := by
    intro root
    constructor
    · rintro ⟨cap, hcap, rfl⟩
      obtain ⟨row, -, hrow⟩ := mem_mapM_ok hfiled hcap
      simp only [bind_eq_ok, pure_eq_ok, Prod.mk.injEq] at hrow
      obtain ⟨_, hroot, rfl, rfl⟩ := hrow
      exact hroot
    · intro hroot
      obtain ⟨row, hrow, rfl⟩ := ready_iff.mp hready
      obtain ⟨⟨other, cap⟩, hmem, hother⟩ := exists_mem_mapM_ok hfiled hrow
      simp only [bind_eq_ok, pure_eq_ok, Prod.mk.injEq] at hother
      obtain ⟨_, hresolved, rfl, rfl⟩ := hother
      rw [hresolved, Except.ok.injEq] at hroot
      exact ⟨db.channelCap row, hroot ▸ hmem, rfl⟩
  simp only [List.mem_map, List.mem_flatMap, Filed]
  constructor
  · rintro ⟨cap, ⟨workspace, ⟨root, hroot, rfl⟩, hcap⟩, rfl⟩
    simp only [workspaceCap, List.mem_insertionSort, List.mem_map, List.mem_filter,
      decide_eq_true_eq] at hcap
    obtain ⟨⟨entry, listed⟩, ⟨hmem, rfl⟩, rfl⟩ := hcap
    exact ⟨entry, (hentry entry).mp ⟨listed, hmem, rfl⟩, hroot⟩
  · rintro ⟨root, hresolved, hroot⟩
    obtain ⟨cap, hmem, hchannel⟩ := (hentry root).mpr hresolved
    refine ⟨cap, ⟨db.workspaceCap filed root, ⟨root, hroot, rfl⟩, ?_⟩, hchannel⟩
    simp only [workspaceCap, List.mem_insertionSort, List.mem_map, List.mem_filter,
      decide_eq_true_eq]
    exact ⟨(root, cap), ⟨hmem, rfl⟩, rfl⟩

/-! ## Selected chat -/

/-- The event is chat for the reader: not its own and not backend traffic. -/
def IsChat (db : Database) (parseTags : String → Option (List (List String)))
    (input : FabricContextInput) (event : RelayEvent) : Prop :=
  event.kind = kindChat ∧ event.pubkey ≠ input.selfPubkey ∧
    db.isBackendTraffic parseTags input.backendPubkey event.pubkey event.tagsJson = false

instance (db : Database) (parseTags : String → Option (List (List String)))
    (input : FabricContextInput) : DecidablePred (db.IsChat parseTags input) := fun _ =>
  inferInstanceAs (Decidable (_ ∧ _ ∧ _))

theorem isAmbient_iff {parseTags : String → Option (List (List String))} {event : RelayEvent} :
    db.isAmbient parseTags input event = true ↔
      db.IsChat parseTags input event ∧ event.id ∉ db.injectedIds input.session := by
  rw [isAmbient, IsChat]
  simp only [Bool.and_eq_true, beq_iff_eq, decide_eq_true_eq, Bool.not_eq_true',
    List.contains_eq_mem, decide_eq_false_iff_not]
  tauto

/-- The log has the chat for the window of the cursor.  A first view takes the recent
cluster of its last hours. -/
def ChatInWindow (db : Database) (parseTags : String → Option (List (List String)))
    (input : FabricContextInput) (channel id : String) (cursor now : Nat) : Prop :=
  if cursor = 0 then
    id ∈ (selectedEvents (db.captureMessages parseTags input channel []) 0 now).map EvCap.id
  else ∃ event ∈ db.chatForChannel channel 0 chatCaptureCap, event.id = id ∧
    db.IsChat parseTags input event ∧ cursor < event.createdAt

theorem mem_captured_events {parseTags : String → Option (List (List String))}
      {forced : List FabricMessageSeed}
    (hsession : input.session ≠ none) {captured : EvCap} :
    captured ∈ (db.captureMessages parseTags input channel forced).events ↔
      ∃ event ∈ db.chatForChannel channel 0 chatCaptureCap,
        db.isAmbient parseTags input event = true ∧
          { id := event.id
            createdAt := event.createdAt
            mentionsSelf := mentionsPubkey parseTags event.tagsJson input.selfPubkey
            forcedMention := false } = captured := by
  rw [captureMessages, if_neg hsession]
  simp [and_assoc]

/-- What is marked injected is never selected, and the rest by the window. -/
theorem mem_selected_iff {parseTags : String → Option (List (List String))}
      {forced : List FabricMessageSeed}
    {cursor : Nat} (hsession : input.session ≠ none) :
    id ∈ (selectedEvents (db.captureMessages parseTags input channel forced) cursor now).map
        EvCap.id ↔
      db.ChatInWindow parseTags input channel id cursor now ∧
        id ∉ db.injectedIds input.session := by
  by_cases hcursor : cursor = 0
  · subst hcursor
    have hforced : (db.captureMessages parseTags input channel forced).events =
        (db.captureMessages parseTags input channel []).events := by
      rw [captureMessages, captureMessages, if_neg hsession, if_neg hsession]
    have hsame : selectedEvents (db.captureMessages parseTags input channel forced) 0 now =
        selectedEvents (db.captureMessages parseTags input channel []) 0 now := by
      rw [selectedEvents, selectedEvents, hforced]
    rw [ChatInWindow, if_pos rfl, hsame]
    constructor
    · intro hselected
      refine ⟨hselected, ?_⟩
      obtain ⟨captured, hcaptured, rfl⟩ := List.mem_map.mp hselected
      have hevent := selectedEvents_subset hcaptured
      obtain ⟨event, -, hambient, rfl⟩ := (mem_captured_events hsession).mp hevent
      exact (isAmbient_iff.mp hambient).2
    · exact And.left
  · rw [ChatInWindow, if_neg hcursor]
    simp only [List.mem_map, mem_selectedEvents_delta hcursor, mem_captured_events hsession]
    constructor
    · rintro ⟨_, ⟨⟨event, hevent, hambient, rfl⟩, hlater⟩, rfl⟩
      obtain ⟨hchat, hfresh⟩ := isAmbient_iff.mp hambient
      exact ⟨⟨event, hevent, rfl, hchat, hlater⟩, hfresh⟩
    · rintro ⟨⟨event, hevent, rfl, hchat, hlater⟩, hfresh⟩
      exact ⟨_, ⟨⟨event, hevent, isAmbient_iff.mpr ⟨hchat, hfresh⟩, rfl⟩, hlater⟩, rfl⟩

/-- A channel of a view shows the selected chat and the claimed mentions. -/
theorem shows_captureInputs {env : CaptureEnv}
    {inputs : ViewInputs} (hsession : input.session ≠ none)
    (hok : db.captureInputs env input = .ok inputs) (cursor now : Nat) (channel id : String) :
    (TurnContext.mk inputs cursor now).shows channel id = true ↔
      db.Captures input channel ∧
        (db.ChatInWindow env.parseTags input channel id cursor now ∧
            id ∉ db.injectedIds input.session ∨
          id ∈ (forcedFor input.forcedMessages input.scope channel).map FabricMessageSeed.id) := by
  simp only [captureInputs, bind_eq_ok, pure_eq_ok] at hok
  obtain ⟨workspace, -, workspaces, hworkspaces, rfl⟩ := hok
  have hcaptured : (channel ∈ (workspaces.flatMap WorkspaceCap.channels).map ChannelCap.h ∧
      channel ∈ db.selectedChannels input) ↔ db.Captures input channel := by
    rw [Captures, and_comm]
    apply and_congr_right
    intro hselected
    exact mem_topology_iff hworkspaces (mem_selectedChannels.mp hselected).1
  rw [TurnContext.shows_iff, TurnContext.rows]
  dsimp only
  rw [capturedBundle]
  by_cases hin : db.Captures input channel
  · rw [if_pos (hcaptured.mpr hin)]
    dsimp only
    rw [mem_messageRows_ids, mem_selected_iff hsession, and_iff_right hin]
    apply or_congr_right
    rw [captureMessages, if_neg hsession]
    simp
  · rw [if_neg (fun hboth => hin (hcaptured.mp hboth))]
    simp [hin]

/-! ## One request -/

/-- A pending row of the session is filed under the channel, and the request can claim it. -/
def MentionedIn (db : Database) (session : Session) (now : Nat) (channel : String) : Prop :=
  now ≤ Rust.i64Max ∧ db.store.inbox.Any (fun row =>
    (row.targetPubkey = session.pubkey ∧ row.state = .pending) ∧
      (if row.channelH = "" then session.channelH else row.channelH) = channel)

/-- A request of the session looks into the channel. -/
def Views (db : Database) (session : Session) (now : Nat) (channel : String) : Prop :=
  (db.channelReadiness channel = .ready ∧ db.Filed channel) ∧
    (channel ∈ db.sessionChannels (some session) ∨ db.MentionedIn session now channel)

/-- The reader of a request, before it has claimed anything. -/
def reader (session : Session) (backendPubkey : String) : FabricContextInput :=
  turnInput session backendPubkey [] []

/-- The inbox row of the event waits for a prompt echo. -/
def Injected (db : Database) (session : Session) (id : String) : Prop :=
  ∃ row, db.store.inbox.find? (id, session.pubkey) = some row ∧ row.state = .injected

theorem mem_injectedIds {session : Session} :
    id ∈ db.injectedIds (some session) ↔ db.Injected session id := by
  simp only [injectedIds, Store.injectedForPubkey, oldestFirst, List.mem_map,
    List.mem_insertionSort, Table.mem_select, Injected]
  constructor
  · rintro ⟨row, ⟨hmem, htarget, hinjected⟩, rfl⟩
    refine ⟨row, ?_, hinjected⟩
    rw [← htarget]
    exact Table.mem_rows_iff.mp hmem
  · rintro ⟨row, hfind, hinjected⟩
    have hkey : row.key = (id, session.pubkey) := Table.key_of_find? hfind
    obtain ⟨hid, htarget⟩ := Prod.mk.inj hkey
    exact ⟨row, ⟨Table.mem_of_find? hfind, htarget, hinjected⟩, hid⟩

/-- The database that a request captures: it differs from the one it found in the
sessions, the claims and the pending rows of the reader. -/
structure ClaimedFrom (before after : Database) (pubkey : String) : Prop where
  relay : after = { before with store := after.store }
  routes : after.store.sessionChannels = before.store.sessionChannels
  injected : after.store.injectedForPubkey pubkey = before.store.injectedForPubkey pubkey

theorem ClaimedFrom.trans {first second third : Database}
    (hleft : ClaimedFrom first second pubkey) (hright : ClaimedFrom second third pubkey) :
    ClaimedFrom first third pubkey where
  relay := by
    rw [hright.relay, hleft.relay]
  routes := hright.routes.trans hleft.routes
  injected := hright.injected.trans hleft.injected

section Claimed

variable {before after : Database} {session current : Session}

theorem ClaimedFrom.sessionChannels (hclaimed : ClaimedFrom before after session.pubkey)
    (hpubkey : current.pubkey = session.pubkey) (hscope : current.channelH = session.channelH) :
    after.sessionChannels (some current) = before.sessionChannels (some session) := by
  have hroutes : after.store.listSessionRoutes current.pubkey =
      before.store.listSessionRoutes session.pubkey := by
    rw [Store.listSessionRoutes, Store.listSessionRoutes, Store.routesOf, Store.routesOf,
      hclaimed.routes, hpubkey]
  rw [Database.sessionChannels, Database.sessionChannels]
  rw [hroutes, hscope]

theorem ClaimedFrom.injectedIds (hclaimed : ClaimedFrom before after session.pubkey)
    (hpubkey : current.pubkey = session.pubkey) :
    after.injectedIds (some current) = before.injectedIds (some session) := by
  rw [Database.injectedIds, Database.injectedIds]
  rw [hpubkey, hclaimed.injected]

/-- The reader is the same under every database that it captures. -/
theorem ClaimedFrom.chatInWindow (hclaimed : ClaimedFrom before after session.pubkey)
    (hpubkey : current.pubkey = session.pubkey)
    {parseTags : String → Option (List (List String))} {backendPubkey : String}
    {mentions : List InboxRow} {warnings : List String} {channel id : String} {cursor now : Nat} :
    after.ChatInWindow parseTags (turnInput current backendPubkey mentions warnings) channel id
        cursor now ↔
      before.ChatInWindow parseTags (reader session backendPubkey) channel id cursor now := by
  have hinjected := hclaimed.injectedIds hpubkey
  have hambient : ∀ event, after.isAmbient parseTags
      (turnInput current backendPubkey mentions warnings) event =
        before.isAmbient parseTags (reader session backendPubkey) event := by
    intro event
    rw [isAmbient, isAmbient, reader, turnInput, turnInput, hinjected, hclaimed.relay, hpubkey]
    rfl
  have hchat : ∀ event, after.IsChat parseTags
      (turnInput current backendPubkey mentions warnings) event ↔
        before.IsChat parseTags (reader session backendPubkey) event := by
    intro event
    rw [IsChat, IsChat, reader, turnInput, turnInput, hclaimed.relay, hpubkey]
    rfl
  have hlog : after.chatForChannel channel 0 chatCaptureCap =
      before.chatForChannel channel 0 chatCaptureCap := by
    rw [hclaimed.relay]
    rfl
  have hcaptured : after.captureMessages parseTags
      (turnInput current backendPubkey mentions warnings) channel [] =
        before.captureMessages parseTags (reader session backendPubkey) channel [] := by
    have hself : (turnInput current backendPubkey mentions warnings).selfPubkey =
        (reader session backendPubkey).selfPubkey := hpubkey
    have hsome : (turnInput current backendPubkey mentions warnings).session ≠ none :=
      Option.some_ne_none current
    have hreader : (reader session backendPubkey).session ≠ none := Option.some_ne_none session
    rw [captureMessages, captureMessages, if_neg hsome, if_neg hreader, hlog, hself]
    rw [List.filter_congr (fun event _ => hambient event)]
  rw [ChatInWindow, ChatInWindow, hcaptured, hlog]
  split
  · exact Iff.rfl
  · constructor
    · rintro ⟨event, hevent, hid, hchatEvent, hlater⟩
      exact ⟨event, hevent, hid, (hchat event).mp hchatEvent, hlater⟩
    · rintro ⟨event, hevent, hid, hchatEvent, hlater⟩
      exact ⟨event, hevent, hid, (hchat event).mpr hchatEvent, hlater⟩

/-- The channels that a request captures. -/
theorem ClaimedFrom.captures_iff (hclaimed : ClaimedFrom before after session.pubkey)
    (hpubkey : current.pubkey = session.pubkey) (hscope : current.channelH = session.channelH)
    {backendPubkey : String} {mentions : List InboxRow} {warnings : List String} {now : Nat}
    {channel : String}
    (hmentions : (∃ row ∈ mentions,
      (if row.channelH = "" then session.channelH else row.channelH) = channel) ↔
        before.MentionedIn session now channel) :
    after.Captures (turnInput current backendPubkey mentions warnings) channel ↔
      before.Views session now channel := by
  have hready : after.channelReadiness channel = before.channelReadiness channel := by
    rw [hclaimed.relay]
    rfl
  have hfiled : after.Filed channel ↔ before.Filed channel := by
    rw [hclaimed.relay]
    exact Iff.rfl
  have hforced : channel ∈ forcedChannels (mentions.map inboxSeed) current.channelH ↔
      before.MentionedIn session now channel := by
    rw [← hmentions, forcedChannels, mem_sortDedup, List.map_map, List.mem_map, hscope]
    rfl
  have hown : channel = current.channelH ∧ current.channelH ≠ "" →
      channel ∈ before.sessionChannels (some session) := by
    rintro ⟨rfl, hnonempty⟩
    rw [hscope] at hnonempty ⊢
    rw [Database.sessionChannels, mem_sortDedup, mem_appendMissing, if_neg hnonempty]
    exact Or.inr (List.mem_singleton_self _)
  rw [Captures, mem_selectedChannels, Views, hready, hfiled]
  show (_ ∧ (channel ∈ after.sessionChannels (some current) ∨
    (channel = current.channelH ∧ current.channelH ≠ "") ∨
      channel ∈ forcedChannels (mentions.map inboxSeed) current.channelH)) ∧ _ ↔ _
  rw [hclaimed.sessionChannels hpubkey hscope, hforced]
  tauto

end Claimed

/-! ## The claim of a request -/

/-- A claim flips pending rows: the injected ones stay. -/
theorem injected_claimPending {store after : Store}
    {rows : List InboxRow} (hok : store.claimPendingForPubkey pubkey now = .ok (rows, after)) :
    after.injectedForPubkey pubkey = store.injectedForPubkey pubkey := by
  have hselect : after.inbox.select (fun row => row.targetPubkey = pubkey ∧
      row.state = .injected) =
        store.inbox.select (fun row => row.targetPubkey = pubkey ∧ row.state = .injected) := by
    rw [(Store.claimPendingForPubkey_ok hok).2]
    have hbefore : ∀ row : InboxRow, row.targetPubkey = pubkey ∧ row.state = .pending →
        ¬ (row.targetPubkey = pubkey ∧ row.state = .injected) := by
      intro row hpending hinjected
      have hstate := hpending.2.symm.trans hinjected.2
      cases hstate
    have hafter : ∀ row : InboxRow, row.targetPubkey = pubkey ∧ row.state = .pending →
        ¬ ((row.claimed now).targetPubkey = pubkey ∧ (row.claimed now).state = .injected) := by
      intro row _ hinjected
      cases hinjected.2
    have hkey : ∀ row : InboxRow, (row.claimed now).key = row.key := fun _ => rfl
    exact Table.select_updateWhere_of_disjoint hkey hbefore hafter
  rw [Store.injectedForPubkey, Store.injectedForPubkey, hselect]

theorem sessionChannels_claimPending {store after : Store}
    {rows : List InboxRow} (hok : store.claimPendingForPubkey pubkey now = .ok (rows, after)) :
    after.sessionChannels = store.sessionChannels := by
  simp only [Store.claimPendingForPubkey, bind_eq_ok, pure_eq_ok, Prod.mk.injEq] at hok
  obtain ⟨_, _, rfl, rfl⟩ := hok
  rfl

/-- What a request takes from the inbox before it captures. -/
theorem claimMentions_spec (db : Database) (env : TurnEnv) (session : Session) (now : Nat) :
    ClaimedFrom db (db.claimMentions env session.pubkey now).2 session.pubkey ∧
      (∀ row ∈ (db.claimMentions env session.pubkey now).1.1, ∃ pending,
        db.store.inbox.find? (row.eventId, session.pubkey) = some pending ∧
          pending.state = .pending) ∧
      ∀ channel, (∃ row ∈ (db.claimMentions env session.pubkey now).1.1,
        (if row.channelH = "" then session.channelH else row.channelH) = channel) ↔
          db.MentionedIn session now channel := by
  -- A claim that is refused gives no rows and keeps the database.
  cases hclaim : db.store.claimPendingForPubkey session.pubkey now with
  | error error =>
      have hbound := Store.claimPendingForPubkey_error hclaim
      have hnothing : db.claimMentions env session.pubkey now = (([], true), db) := by
        rw [claimMentions, takeInbox, hclaim]
        rfl
      rw [hnothing]
      refine ⟨⟨rfl, rfl, rfl⟩, fun row hrow => (List.not_mem_nil hrow).elim, ?_⟩
      intro channel
      refine iff_of_false ?_ (fun hmentioned => absurd hmentioned.1 (Nat.not_le.mpr hbound))
      rintro ⟨row, hrow, -⟩
      cases hrow
  | ok result =>
      obtain ⟨rows, store⟩ := result
      have hbound := Store.claimPendingForPubkey_bound hclaim
      have hrows : ∀ row, row ∈ rows ↔ ∃ pending ∈ db.store.inbox.rows,
          (pending.targetPubkey = session.pubkey ∧ pending.state = .pending) ∧
            pending.claimed now = row := by
        intro row
        rw [(Store.claimPendingForPubkey_ok hclaim).1, oldestFirst]
        simp [Store.claimRows, and_assoc]
      have hafter : db.claimMentions env session.pubkey now =
          ((rows.map (fun row => { row with
            body := env.rewriteBody { db with store := store } row.body }), false),
              { db with store := store }) := by
        rw [claimMentions, takeInbox, hclaim]
        rfl
      rw [hafter]
      refine ⟨⟨rfl, sessionChannels_claimPending hclaim, injected_claimPending hclaim⟩, ?_, ?_⟩
      · intro row hrow
        obtain ⟨claimed, hclaimed, rfl⟩ := List.mem_map.mp hrow
        obtain ⟨pending, hmem, ⟨htarget, hpending⟩, rfl⟩ := (hrows claimed).mp hclaimed
        refine ⟨pending, ?_, hpending⟩
        rw [← htarget]
        exact Table.mem_rows_iff.mp hmem
      · intro channel
        rw [MentionedIn, and_iff_right hbound]
        constructor
        · rintro ⟨row, hrow, hchannel⟩
          obtain ⟨claimed, hclaimed, rfl⟩ := List.mem_map.mp hrow
          obtain ⟨pending, hmem, hpending, rfl⟩ := (hrows claimed).mp hclaimed
          exact ⟨pending, hmem, hpending, hchannel⟩
        · rintro ⟨pending, hmem, hpending, hchannel⟩
          exact ⟨_, List.mem_map_of_mem ((hrows _).mpr ⟨pending, hmem, hpending, rfl⟩), hchannel⟩

/-- The inbox row of the event waits to be claimed. -/
def Awaits (db : Database) (session : Session) (id : String) : Prop :=
  ∃ row, db.store.inbox.find? (id, session.pubkey) = some row ∧ row.state = .pending

/-- A request of the session finds the event in the log, within its window, and nothing
suppresses it. -/
def Exposes (db : Database) (env : TurnEnv) (session : Session) (backendPubkey : String)
    (cursor now : Nat) (channel id : String) : Prop :=
  db.Views session now channel ∧
    db.ChatInWindow env.capture.parseTags (reader session backendPubkey) channel id cursor now ∧
      ¬ db.Injected session id

/-- What a request shows of an event that it does not claim itself.  `base` is the database
from which it claims, `current` the session row that it reads there. -/
theorem shows_of_capture {base : Database} {session current : Session}
    {backendPubkey : String} {warnings : List String} {inputs : ViewInputs}
    (hrelay : base = { db with store := base.store })
    (hroutes : base.store.sessionChannels = db.store.sessionChannels)
    (hinbox : base.store.inbox = db.store.inbox) (hpubkey : current.pubkey = session.pubkey)
    (hscope : current.channelH = session.channelH)
    (hok : (base.claimMentions env current.pubkey now).2.captureInputs env.capture
      (turnInput current backendPubkey (base.claimMentions env current.pubkey now).1.1 warnings) =
        .ok inputs)
    (hwaits : ¬ db.Awaits session id) (cursor : Nat) (channel : String) :
    (TurnContext.mk inputs cursor now).shows channel id = true ↔
      db.Exposes env session backendPubkey cursor now channel id := by
  obtain ⟨hclaimed, hpending, hchannels⟩ := claimMentions_spec base env current now
  have hbase : ClaimedFrom db base session.pubkey := by
    refine ⟨hrelay, hroutes, ?_⟩
    rw [Store.injectedForPubkey, Store.injectedForPubkey, hinbox]
  have hfrom : ClaimedFrom db (base.claimMentions env current.pubkey now).2 session.pubkey :=
    hbase.trans (hpubkey ▸ hclaimed)
  have hmentioned : ∀ channel, base.MentionedIn current now channel ↔
      db.MentionedIn session now channel := by
    intro channel
    rw [MentionedIn, MentionedIn, hinbox, hpubkey, hscope]
  have hnamed : (∃ row ∈ (base.claimMentions env current.pubkey now).1.1,
      (if row.channelH = "" then session.channelH else row.channelH) = channel) ↔
        db.MentionedIn session now channel := by
    rw [← hmentioned, ← hchannels, hscope]
  have hcaptures : (base.claimMentions env current.pubkey now).2.Captures
      (turnInput current backendPubkey (base.claimMentions env current.pubkey now).1.1 warnings)
        channel ↔ db.Views session now channel := hfrom.captures_iff hpubkey hscope hnamed
  have hsome : (turnInput current backendPubkey (base.claimMentions env current.pubkey now).1.1
      warnings).session ≠ none := Option.some_ne_none current
  -- the request claims no row of the event, so no claimed row carries its id
  have hforced : id ∉ (forcedFor ((base.claimMentions env current.pubkey now).1.1.map inboxSeed)
      current.channelH channel).map FabricMessageSeed.id := by
    intro hmem
    obtain ⟨seed, hseed, rfl⟩ := List.mem_map.mp hmem
    obtain ⟨row, hrow, rfl⟩ := List.mem_map.mp (List.mem_filter.mp hseed).1
    obtain ⟨pending, hfind, hstate⟩ := hpending row hrow
    rw [hinbox, hpubkey] at hfind
    exact hwaits ⟨pending, hfind, hstate⟩
  have hinjected : id ∉ (base.claimMentions env current.pubkey now).2.injectedIds
      (some current) ↔ ¬ db.Injected session id := by
    rw [hfrom.injectedIds hpubkey, mem_injectedIds]
  rw [shows_captureInputs hsome hok, hcaptures, hfrom.chatInWindow hpubkey, Exposes]
  show _ ∧ (_ ∧ id ∉ Database.injectedIds _ (some current) ∨
    id ∈ (forcedFor _ current.channelH channel).map FabricMessageSeed.id) ↔ _
  rw [hinjected]
  exact and_congr_right (fun _ => or_iff_left hforced)

/-- A turn start touches the session row only, and neither its channel nor its cursor. -/
theorem turnStarted_spec {store after : Store} {session : Session}
    {generation : Nat} {changed : Bool} (hsession : store.getSession pubkey = some session)
    (hok : store.applySessionTurnStarted session.pubkey generation now = .ok (changed, after)) :
    (∃ current, after.getSession pubkey = some current ∧ current.pubkey = session.pubkey ∧
      current.channelH = session.channelH ∧ current.seenCursor = session.seenCursor) ∧
      after.sessionChannels = store.sessionChannels ∧ after.inbox = store.inbox := by
  simp only [Store.applySessionTurnStarted, Store.updateSessions, bind_eq_ok, pure_eq_ok,
    Prod.mk.injEq] at hok
  obtain ⟨_, _, _, rfl⟩ := hok
  refine ⟨?_, rfl, rfl⟩
  have hfind : store.sessions.find? pubkey = some session := hsession
  rw [Store.getSession, Table.find?_updateWhere, hfind, Option.map_some]
  refine ⟨_, rfl, ?_⟩
  split
  · exact ⟨rfl, rfl, rfl⟩
  · exact ⟨rfl, rfl, rfl⟩

/-- A turn start that answers has opened the turn, assembled the context and asked for the
cursor. -/
theorem turnStart_answers {after : Database} {session : Session} {context : TurnContext}
    (hsession : db.store.getSession pubkey = some session)
    (hok : db.rpcTurnStart env pubkey now = (.ok (some context), after)) :
    ∃ store current claimed deltaSince,
      db.store.applySessionTurnStarted session.pubkey session.runtimeGeneration now =
        .ok (true, store) ∧
      store.getSession pubkey = some current ∧
      { db with store := store }.assembleTurnStart env current now = (.ok context, claimed) ∧
      claimed.driveCursorRequest current now true = .ok (deltaSince, after) := by
  rw [rpcTurnStart, hsession] at hok
  dsimp only at hok
  cases hstart : db.store.applySessionTurnStarted session.pubkey session.runtimeGeneration now with
  | error error =>
      rw [hstart] at hok
      cases hok
  | ok result =>
      obtain ⟨changed, store⟩ := result
      rw [hstart] at hok
      cases changed with
      | false => cases hok
      | true =>
          obtain ⟨⟨current, hcurrent, -⟩, -, -⟩ := turnStarted_spec hsession hstart
          dsimp only at hok
          rw [hcurrent, Option.getD_some] at hok
          cases hassembled : { db with store := store }.assembleTurnStart env current now with
          | mk outcome claimed =>
              rw [hassembled] at hok
              cases outcome with
              | error error => cases hok
              | ok shown =>
                  cases hdrive : claimed.driveCursorRequest current now true with
                  | error error =>
                      dsimp only at hok
                      rw [hdrive] at hok
                      cases hok
                  | ok driven =>
                      obtain ⟨deltaSince, next⟩ := driven
                      dsimp only at hok
                      rw [hdrive] at hok
                      cases hok
                      exact ⟨store, current, claimed, deltaSince, rfl, hcurrent, hassembled, hdrive⟩

/-- A turn start shows what is after the cursor that it finds. -/
theorem turnStart_shows_iff {after : Database} {session : Session} {context : TurnContext}
    (hsession : db.store.getSession pubkey = some session)
    (hok : db.rpcTurnStart env pubkey now = (.ok (some context), after))
    (hwaits : ¬ db.Awaits session id) (channel : String) :
    context.shows channel id = true ↔
      db.Exposes env session env.backendPubkey session.seenCursor now channel id := by
  obtain ⟨store, current, claimed, deltaSince, hstart, hcurrent, hassembled, -⟩ :=
    turnStart_answers hsession hok
  obtain ⟨⟨row, hrow, hpubkey, hscope, hcursor⟩, hroutes, hinbox⟩ :=
    turnStarted_spec hsession hstart
  have hsame : row = current := by
    rw [hcurrent, Option.some.injEq] at hrow
    exact hrow.symm
  subst hsame
  simp only [assembleTurnStart, Prod.mk.injEq] at hassembled
  obtain ⟨hcapture, -⟩ := hassembled
  rw [map_eq_ok] at hcapture
  obtain ⟨inputs, hinputs, rfl⟩ := hcapture
  rw [hcursor]
  exact shows_of_capture rfl hroutes hinbox hpubkey hscope hinputs hwaits _ channel

instance (store : Store) (session : Session) (instant : Nat) (working : Bool) :
    Decidable (store.OwnsCursor session instant working) :=
  inferInstanceAs (Decidable (_ ∧ _))

/-- The cursor of a turn check: the one that it advances, or its own time. -/
def checkCursor (db : Database) (rec : Session) (now : Nat) : Nat :=
  if db.store.OwnsCursor rec now rec.isWorking then rec.seenCursor else now

theorem driveCursorRequest_routes {after : Database} {session : Session} {instant : Nat}
    {working : Bool} {deltaSince : Option Nat}
    (hok : db.driveCursorRequest session instant working = .ok (deltaSince, after)) :
    after.store.sessionChannels = db.store.sessionChannels := by
  rw [driveCursorRequest] at hok
  split at hok
  · cases hok
    rfl
  · simp only [bind_eq_ok, pure_eq_ok, Prod.mk.injEq, Store.advanceCursorIfCurrent,
      Store.updateSessions] at hok
    obtain ⟨_, ⟨_, _, rfl⟩, _, rfl⟩ := hok
    rfl

/-- A turn check shows what is after the cursor that it advances, or after its own time. -/
theorem turnCheck_shows_iff {after : Database} {rec : Session}
    {context : TurnContext} (hok : db.rpcTurnCheck env rec now = (.ok context, after))
    (hwaits : ¬ db.Awaits rec id) (channel : String) :
    context.shows channel id = true ↔
      db.Exposes env rec "" (db.checkCursor rec now) now channel id := by
  rw [rpcTurnCheck] at hok
  cases hdrive : db.driveCursorRequest rec now rec.isWorking with
  | error error =>
      rw [hdrive] at hok
      cases hok
  | ok driven =>
      obtain ⟨deltaSince, advanced⟩ := driven
      rw [hdrive] at hok
      dsimp only at hok
      obtain ⟨hrelay, hinbox, hcursor⟩ := driveCursorRequest_ok hdrive
      have hroutes := driveCursorRequest_routes hdrive
      have hwindow : deltaSince.getD now = db.checkCursor rec now := by
        rw [checkCursor]
        rcases hcursor with ⟨howned, -, hdelta, -⟩ | ⟨hnot, hdelta, -⟩
        · rw [if_pos howned, hdelta, Option.getD_some]
        · rw [if_neg hnot, hdelta, Option.getD_none]
      generalize hassembled : advanced.assembleTurnCheck env rec deltaSince now = assembled at hok
      obtain ⟨outcome, claimed⟩ := assembled
      cases outcome with
      | error error => cases hok
      | ok shown =>
          have hshown : shown = context := by
            cases hok
            rfl
          subst hshown
          simp only [assembleTurnCheck, Prod.mk.injEq] at hassembled
          obtain ⟨hcapture, -⟩ := hassembled
          rw [map_eq_ok] at hcapture
          obtain ⟨inputs, hinputs, rfl⟩ := hcapture
          rw [hwindow]
          exact shows_of_capture hrelay hroutes hinbox rfl rfl hinputs hwaits _ channel

end Database

end Mosaico
