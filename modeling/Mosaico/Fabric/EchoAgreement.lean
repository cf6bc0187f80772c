import Mathlib.Data.List.Dedup
import Mosaico.Fabric.LocalDelivery

/-!
# The relay's echo of a published chat

The seeded read models, the local loop and the echo of the relay write the same rows.
Once a chat is seeded its log, message and recipient rows no longer depend on what else
happened; its inbox rows do, unless the local loop and the echo serve the same pubkeys.
-/

namespace Mosaico

open Relational Transition

namespace Intake

/-- A published chat on its way into the local tables. -/
inductive LocalStep where
  | seed
  | deliver
  /-- The relay delivers the event back. -/
  | echo (now : Nat)
  deriving DecidableEq

def localStep (json : WireJson) (published : PublishedChat) (intake : Intake) :
    LocalStep → Intake
  | .seed => intake.seedChatReadModels json published
  | .deliver => intake.deliverLocally published
  | .echo now => (intake.materializeKindChat json published.signed now).2

/-! ## Messages -/

/-- The message can be recorded. -/
def Recordable (published : PublishedChat) : Prop :=
  Rust.trim published.eventId ≠ "" ∧ published.createdAt ≤ Rust.i64Max

instance (published : PublishedChat) : Decidable (Recordable published) :=
  inferInstanceAs (Decidable (_ ∧ _))

/-- What is recorded of a published chat. -/
def publishedMessage (published : PublishedChat) (direction : MessageDirection) : Message where
  messageId := published.eventId
  threadId := published.channel
  channelH := published.channel
  authorPubkey := published.fromPubkey
  body := published.body
  createdAt := published.createdAt
  direction := direction
  syncState := "accepted"
  nativeEventId := some published.eventId
  error := none

/-- The row that the record leaves. -/
def recordedRow (published : PublishedChat) (direction : MessageDirection)
    (found : Option Message) : Message :=
  { publishedMessage published
      (if found.map Message.direction = some .outbound then .outbound else direction) with
    messageId := Rust.trim published.eventId }

/-- The row of a message that was sent from here. -/
def seededRow (published : PublishedChat) : Message := recordedRow published .outbound none

theorem recordedRow_outbound (published : PublishedChat) (found : Option Message) :
    recordedRow published .outbound found = seededRow published := by
  rw [seededRow, recordedRow, recordedRow, ite_self, ite_self]

/-- Once it is seeded, an echo leaves the row as it is. -/
theorem recordedRow_seededRow (published : PublishedChat) (direction : MessageDirection) :
    recordedRow published direction (some (seededRow published)) = seededRow published := rfl

variable {after before : Intake} {pubkey : String} {store : Store}

theorem recordMessage_ok {intake : Intake} {published : PublishedChat}
    {direction : MessageDirection} {messageId : String}
    (hok : intake.recordMessage (publishedMessage published direction) = .ok (messageId, after)) :
    Recordable published ∧ after.db = intake.db ∧
      after.messageRecipients = intake.messageRecipients ∧
      ∀ k, after.messages.find? k =
        if k = Rust.trim published.eventId then
          some (recordedRow published direction (intake.messages.find? k))
        else intake.messages.find? k := by
  simp only [recordMessage, bind_eq_ok, pure_eq_ok, ensure_eq_ok, Prod.mk.injEq] at hok
  obtain ⟨_, hid, _, hbind, _, rfl⟩ := hok
  have hnonempty : published.eventId ≠ "" := by
    intro hempty
    exact hid (by rw [show (publishedMessage published direction).messageId = "" from hempty]; rfl)
  have hbound : published.createdAt ≤ Rust.i64Max := by
    simpa [publishedMessage] using bindParams_eq_ok.mp (mapError_eq_ok.mp hbind)
  refine ⟨⟨hid, hbound⟩, rfl, rfl, ?_⟩
  intro k
  dsimp only
  rw [Table.find?_upsert]
  show (if k = Rust.trim published.eventId then _ else _) = _
  by_cases hk : k = Rust.trim published.eventId
  · rw [if_pos hk, if_pos hk]
    cases hfind : intake.messages.find? k with
    | none => simp [recordedRow, publishedMessage, hnonempty, Option.filter]
    | some old =>
        have hkey : old.messageId = Rust.trim published.eventId :=
          (Table.key_of_find? hfind).trans hk
        simp [recordedRow, publishedMessage, hnonempty, hkey, Option.filter]
  · rw [if_neg hk, if_neg hk]

theorem recordMessage_error {intake : Intake} {published : PublishedChat}
    {direction : MessageDirection} {error : MessageError}
    (herror : intake.recordMessage (publishedMessage published direction) = .error error) :
    ¬ Recordable published := by
  rintro ⟨hid, hbound⟩
  have hensure : ensure (Rust.trim (publishedMessage published direction).messageId ≠ "")
      MessageError.emptyMessageId = .ok () := ensure_eq_ok.mpr hid
  have hbind : bindParams [(publishedMessage published direction).createdAt] = .ok () :=
    bindParams_eq_ok.mpr (by simpa [publishedMessage] using hbound)
  simp only [recordMessage, hensure, hbind] at herror
  cases herror

/-! ## The seed -/

/-- The log gets the same row from the seed and from the echo. -/
theorem toRelayEvent_signed (json : WireJson) (published : PublishedChat) :
    toRelayEvent json published.signed = chatRelayEvent json published := by
  have hd : nostrTag published.signed "d" = none := by
    rw [nostrTag, List.findSome?_eq_none_iff]
    intro tag htag
    simp only [PublishedChat.signed, List.mem_cons, List.mem_append, List.mem_map] at htag
    rcases htag with rfl | ⟨pubkey, _, rfl⟩ | hreply
    · rfl
    · rfl
    · unfold PublishedChat.replyTags at hreply
      split at hreply
      · cases hreply
      · split at hreply
        · cases hreply
        · rw [List.mem_singleton.mp hreply]
          rfl
  rw [toRelayEvent, hd]
  rfl

/-- The log after the event was inserted. -/
theorem events_insertEvent (json : WireJson) (db : Database) (published : PublishedChat)
    (k : String) :
    (commit (db.insertEvent (chatRelayEvent json published)) db).events.find? k =
      if k = published.eventId ∧ published.createdAt ≤ Rust.i64Max then
        keepFirst (chatRelayEvent json published) (db.events.find? k)
      else db.events.find? k :=
  find?_insertEvent_chat rfl k

theorem seedChatReadModels_undisturbed (json : WireJson) (intake : Intake)
    (published : PublishedChat) : Undisturbed intake (intake.seedChatReadModels json published) := by
  have hlogged : Undisturbed intake { intake with
      db := commit (intake.db.insertEvent (chatRelayEvent json published)) intake.db } := by
    rw [← toRelayEvent_signed]
    exact materializeEvent_undisturbed json intake published.signed
  refine hlogged.trans (.of_db ((addMessageRecipients_db _ _ _).trans ?_))
  refine commit_invariant (I := fun after : Intake => after.db = _) rfl ?_
  intro messageId after hok
  exact (recordMessage_ok hok).2.1

/-- The mentioned pubkeys, as the seed lists them. -/
theorem mem_seedRecipients (published : PublishedChat) (pubkey : String) :
    pubkey ∈ (collectPPubkeys published.signed).dedup.insertionSort (· ≤ ·) ↔
      pubkey ∈ published.mentionedPubkeys := by
  rw [List.mem_insertionSort, List.mem_dedup, PublishedChat.collectPPubkeys_signed]

/-- What the commit of a record leaves. -/
theorem commit_recordMessage (intake : Intake) (published : PublishedChat)
    (direction : MessageDirection) :
    let after := commit (intake.recordMessage (publishedMessage published direction)) intake
    after.db = intake.db ∧ after.messageRecipients = intake.messageRecipients ∧
      ∀ k, after.messages.find? k =
        if k = Rust.trim published.eventId ∧ Recordable published then
          some (recordedRow published direction (intake.messages.find? k))
        else intake.messages.find? k := by
  cases hrecord : intake.recordMessage (publishedMessage published direction) with
  | error error =>
      have hnot := recordMessage_error hrecord
      refine ⟨rfl, rfl, ?_⟩
      intro k
      rw [if_neg (fun hhit => hnot hhit.2)]
      rfl
  | ok recorded =>
      obtain ⟨messageId, after⟩ := recorded
      obtain ⟨hrecordable, hdb, hrecipients, hmessages⟩ := recordMessage_ok hrecord
      refine ⟨hdb, hrecipients, ?_⟩
      intro k
      rw [if_congr (and_iff_left hrecordable) rfl rfl]
      exact hmessages k

theorem events_seed (json : WireJson) (intake : Intake) (published : PublishedChat) (k : String) :
    (intake.seedChatReadModels json published).db.events.find? k =
      if k = published.eventId ∧ published.createdAt ≤ Rust.i64Max then
        keepFirst (chatRelayEvent json published) (intake.db.events.find? k)
      else intake.db.events.find? k := by
  rw [seedChatReadModels, addMessageRecipients_db, ← events_insertEvent]
  exact congrArg (fun db : Database => db.events.find? k)
    (commit_recordMessage _ published .outbound).1

theorem messages_seed (json : WireJson) (intake : Intake) (published : PublishedChat)
    (k : String) :
    (intake.seedChatReadModels json published).messages.find? k =
      if k = Rust.trim published.eventId ∧ Recordable published then
        some (recordedRow published .outbound (intake.messages.find? k))
      else intake.messages.find? k := by
  rw [seedChatReadModels, (addMessageRecipients_sameReadModels _ _ _).2]
  exact (commit_recordMessage _ published .outbound).2.2 k

theorem recipients_seed (json : WireJson) (intake : Intake) (published : PublishedChat)
    (k : String × String) :
    (intake.seedChatReadModels json published).messageRecipients.find? k =
      if k.1 = published.eventId ∧ k.2 ∈ published.mentionedPubkeys then
        keepFirst ⟨k.1, k.2, 0⟩ (intake.messageRecipients.find? k)
      else intake.messageRecipients.find? k := by
  rw [seedChatReadModels, find?_addMessageRecipients]
  refine (if_congr ?_ ?_ ?_)
  · constructor
    · rintro ⟨recipient, hrecipient, rfl⟩
      exact ⟨rfl, (mem_seedRecipients published recipient).mp hrecipient⟩
    · rintro ⟨hid, hmentioned⟩
      exact ⟨k.2, (mem_seedRecipients published k.2).mpr hmentioned, Prod.ext hid rfl⟩
  · exact congrArg (fun recipients : Table MessageRecipient.key => keepFirst _ (recipients.find? k))
      (commit_recordMessage _ published .outbound).2.1
  · exact congrArg (fun recipients : Table MessageRecipient.key => recipients.find? k)
      (commit_recordMessage _ published .outbound).2.1

theorem inbox_seed (json : WireJson) (intake : Intake) (published : PublishedChat)
    (k : String × String) :
    (intake.seedChatReadModels json published).db.store.inbox.find? k =
      intake.db.store.inbox.find? k := by
  have hstore : (intake.seedChatReadModels json published).db.store =
      (commit (intake.db.insertEvent (chatRelayEvent json published)) intake.db).store := by
    rw [seedChatReadModels, addMessageRecipients_db]
    exact congrArg Database.store (commit_recordMessage _ published .outbound).1
  rw [hstore, insertEvent_store]

/-! ## An admitted chat -/

/-- A received chat, as its sender would have published it. -/
def receivedAs (event : Event) (chat : ChatMessage) : PublishedChat where
  call := .send chat.mentionedPubkeys
  fromPubkey := event.pubkey
  channel := chat.channel
  body := chat.body
  eventId := event.id
  createdAt := event.createdAt

/-- The tables after the message of an admitted chat, before it is routed. -/
theorem find?_materializeChatMessage (intake : Intake) (event : Event) (chat : ChatMessage)
    (k : String × String) (messageId : String) :
    let after := intake.materializeChatMessage event chat
    (after.messageRecipients.find? k =
        if k.1 = event.id ∧ k.2 ∈ collectPPubkeys event ∧ Recordable (receivedAs event chat) then
          keepFirst ⟨k.1, k.2, 0⟩ (intake.messageRecipients.find? k)
        else intake.messageRecipients.find? k) ∧
      after.messages.find? messageId =
        if messageId = Rust.trim event.id ∧ Recordable (receivedAs event chat) then
          some (recordedRow (receivedAs event chat) .inbound (intake.messages.find? messageId))
        else intake.messages.find? messageId := by
  dsimp only [materializeChatMessage]
  -- A message that cannot be recorded names no recipients either.
  cases hrecord : intake.recordMessage (publishedMessage (receivedAs event chat) .inbound) with
  | error error =>
      have hnot := recordMessage_error hrecord
      have hmatch : intake.recordMessage
          { messageId := event.id
            threadId := chat.channel
            channelH := chat.channel
            authorPubkey := event.pubkey
            body := chat.body
            createdAt := event.createdAt
            direction := .inbound
            syncState := "accepted"
            nativeEventId := some event.id
            error := none } = .error error := hrecord
      rw [hmatch]
      constructor
      · rw [if_neg (fun hhit => hnot hhit.2.2)]
      · rw [if_neg (fun hhit => hnot hhit.2)]
  | ok recorded =>
      obtain ⟨recordedId, after⟩ := recorded
      obtain ⟨hrecordable, -, hrecipients, hmessages⟩ := recordMessage_ok hrecord
      have hmatch : intake.recordMessage
          { messageId := event.id
            threadId := chat.channel
            channelH := chat.channel
            authorPubkey := event.pubkey
            body := chat.body
            createdAt := event.createdAt
            direction := .inbound
            syncState := "accepted"
            nativeEventId := some event.id
            error := none } = .ok (recordedId, after) := hrecord
      rw [hmatch]
      dsimp only
      constructor
      · rw [find?_addMessageRecipients, hrecipients]
        refine if_congr ?_ rfl rfl
        constructor
        · rintro ⟨recipient, hrecipient, rfl⟩
          exact ⟨rfl, hrecipient, hrecordable⟩
        · rintro ⟨hid, hmentioned, _⟩
          exact ⟨k.2, hmentioned, Prod.ext hid rfl⟩
      · rw [(addMessageRecipients_sameReadModels _ _ _).2, hmessages,
          if_congr (and_iff_left hrecordable) rfl rfl]
        rfl

section Accepted

variable (json : WireJson) (intake : Intake) (event : Event) (chat : ChatMessage)

theorem events_acceptChat (hkind : event.kind = kindChat) (k : String) :
    (intake.acceptChat json event chat).2.db.events.find? k =
      if k = event.id ∧ event.createdAt ≤ Rust.i64Max then
        keepFirst (toRelayEvent json event) (intake.db.events.find? k)
      else intake.db.events.find? k := by
  show (routeChat _ event chat).2.db.events.find? k = _
  rw [(routeChat_sameReadModels _ _ _).1, materializeChatMessage_db, materializeEvent]
  have hrow : (toRelayEvent json event).kind = kindChat := hkind
  exact find?_insertEvent_chat hrow k

theorem messages_acceptChat (k : String) :
    (intake.acceptChat json event chat).2.messages.find? k =
      if k = Rust.trim event.id ∧ Recordable (receivedAs event chat) then
        some (recordedRow (receivedAs event chat) .inbound (intake.messages.find? k))
      else intake.messages.find? k := by
  show (routeChat _ event chat).2.messages.find? k = _
  rw [(routeChat_sameReadModels _ _ _).2]
  exact (find?_materializeChatMessage _ event chat ("", "") k).2

/-- Routing reads the store as it was before the message was logged. -/
theorem routed_recorded_iff (channelH pubkey : String) :
    Routed ((intake.materializeEvent json event).materializeChatMessage event chat).db.store
        event channelH pubkey ↔ Routed intake.db.store event channelH pubkey := by
  rw [materializeChatMessage_db, materializeEvent, insertEvent_store]

theorem recipients_acceptChat (k : String × String) :
    (intake.acceptChat json event chat).2.messageRecipients.find? k =
      if k.1 = event.id ∧ k.2 ∈ collectPPubkeys event ∧ (Recordable (receivedAs event chat) ∨
          Routed intake.db.store event chat.channel k.2) then
        keepFirst ⟨k.1, k.2, 0⟩ (intake.messageRecipients.find? k)
      else intake.messageRecipients.find? k := by
  show (routeChat _ event chat).2.messageRecipients.find? k = _
  rw [recipients_routeChat,
    (find?_materializeChatMessage (intake.materializeEvent json event) event chat k "").1]
  have hrouted : (∃ pubkey ∈ collectPPubkeys event,
      Routed ((intake.materializeEvent json event).materializeChatMessage event chat).db.store
        event chat.channel pubkey ∧ k = (event.id, pubkey)) ↔
      k.1 = event.id ∧ k.2 ∈ collectPPubkeys event ∧
        Routed intake.db.store event chat.channel k.2 := by
    constructor
    · rintro ⟨pubkey, hmentioned, hroute, rfl⟩
      exact ⟨rfl, hmentioned, (routed_recorded_iff json intake event chat _ pubkey).mp hroute⟩
    · rintro ⟨hid, hmentioned, hroute⟩
      exact ⟨k.2, hmentioned, (routed_recorded_iff json intake event chat _ k.2).mpr hroute,
        Prod.ext hid rfl⟩
  rw [if_congr hrouted rfl rfl]
  have hlogged : (intake.materializeEvent json event).messageRecipients =
      intake.messageRecipients := rfl
  rw [hlogged]
  by_cases hid : k.1 = event.id
  · by_cases hmentioned : k.2 ∈ collectPPubkeys event
    · by_cases hrouted : Routed intake.db.store event chat.channel k.2
      · by_cases hrecordable : Recordable (receivedAs event chat)
        · simp [hid, hmentioned, hrouted, hrecordable, keepFirst]
        · simp [hid, hmentioned, hrouted, hrecordable]
      · simp [hid, hmentioned, hrouted]
    · simp [hmentioned]
  · simp [hid]

theorem inbox_acceptChat (k : String × String) :
    (intake.acceptChat json event chat).2.db.store.inbox.find? k =
      if k.1 = event.id ∧ (k.2 ∈ collectPPubkeys event ∧
          Routed intake.db.store event chat.channel k.2) ∧ event.createdAt ≤ Rust.i64Max then
        keepFirst (.arrival k.1 k.2 event.pubkey chat.channel chat.body event.createdAt)
          (intake.db.store.inbox.find? k)
      else intake.db.store.inbox.find? k := by
  show (routeChat _ event chat).2.db.store.inbox.find? k = _
  rw [inbox_routeChat]
  have hstore : ((intake.materializeEvent json event).materializeChatMessage
      event chat).db.store.inbox = intake.db.store.inbox := by
    rw [materializeChatMessage_db, materializeEvent, insertEvent_store]
  rw [hstore]
  refine if_congr ?_ rfl rfl
  constructor
  · rintro ⟨pubkey, hmentioned, hroute, rfl, hbound⟩
    have hrouted := (routed_recorded_iff json intake event chat _ pubkey).mp hroute
    exact ⟨rfl, ⟨hmentioned, hrouted⟩, hbound⟩
  · rintro ⟨hid, ⟨hmentioned, hroute⟩, hbound⟩
    have hrouted := (routed_recorded_iff json intake event chat _ k.2).mpr hroute
    exact ⟨k.2, hmentioned, hrouted, Prod.ext hid rfl, hbound⟩

end Accepted

/-! ## The echo -/

/-- The echo enqueues a row for the pubkey. -/
def EchoEnqueues (store : Store) (published : PublishedChat) (pubkey : String) : Prop :=
  pubkey ∈ published.mentionedPubkeys ∧
    Routed store published.signed published.channel pubkey

instance (store : Store) (published : PublishedChat) :
    DecidablePred (EchoEnqueues store published) := fun _ => inferInstanceAs (Decidable (_ ∧ _))

theorem Undisturbed.chatAdmission (hkept : Undisturbed before after)
    (event : Event) : chatAdmission after.db event = chatAdmission before.db event := by
  have hsnapshot : after.db.hasChannelMembershipSnapshot =
      before.db.hasChannelMembershipSnapshot := by
    funext channelH
    rw [Database.hasChannelMembershipSnapshot, Database.hasChannelMembershipSnapshot,
      hkept.channelMemberSets]
  have hmember : after.db.isChannelMember = before.db.isChannelMember := by
    funext channelH pubkey
    rw [Database.isChannelMember, Database.isChannelMember, hkept.channelMembers]
  rw [Intake.chatAdmission, Intake.chatAdmission, hsnapshot, hmember]

section Echo

variable {json : WireJson} {intake : Intake} {published : PublishedChat}
  (hadmitted : chatAdmission intake.db published.signed = .accepted) (now : Nat)

include hadmitted

/-- An admitted echo is logged, recorded and routed. -/
theorem echo_eq :
    (intake.materializeKindChat json published.signed now).2 =
      (intake.acceptChat json published.signed published.chat).2.removeQuarantinedEvent
        published.eventId := by
  rw [materializeKindChat, PublishedChat.decodeChat_signed]
  dsimp only
  rw [materializeChat, hadmitted]
  rfl

theorem events_echo (k : String) :
    (intake.materializeKindChat json published.signed now).2.db.events.find? k =
      if k = published.eventId ∧ published.createdAt ≤ Rust.i64Max then
        keepFirst (chatRelayEvent json published) (intake.db.events.find? k)
      else intake.db.events.find? k := by
  rw [echo_eq hadmitted now, ← toRelayEvent_signed]
  exact events_acceptChat json intake published.signed published.chat rfl k

theorem messages_echo (k : String) :
    (intake.materializeKindChat json published.signed now).2.messages.find? k =
      if k = Rust.trim published.eventId ∧ Recordable published then
        some (recordedRow published .inbound (intake.messages.find? k))
      else intake.messages.find? k := by
  rw [echo_eq hadmitted now]
  exact messages_acceptChat json intake published.signed published.chat k

theorem recipients_echo (k : String × String) :
    (intake.materializeKindChat json published.signed now).2.messageRecipients.find? k =
      if k.1 = published.eventId ∧ (k.2 ∈ published.mentionedPubkeys ∧ Recordable published ∨
          EchoEnqueues intake.db.store published k.2) then
        keepFirst ⟨k.1, k.2, 0⟩ (intake.messageRecipients.find? k)
      else intake.messageRecipients.find? k := by
  rw [echo_eq hadmitted now]
  refine (recipients_acceptChat json intake published.signed published.chat k).trans ?_
  rw [PublishedChat.collectPPubkeys_signed]
  exact if_congr (and_congr_right fun _ => and_or_left) rfl rfl

theorem inbox_echo (k : String × String) :
    (intake.materializeKindChat json published.signed now).2.db.store.inbox.find? k =
      if k.1 = published.eventId ∧ EchoEnqueues intake.db.store published k.2 ∧
          published.createdAt ≤ Rust.i64Max then
        keepFirst (.arrival k.1 k.2 published.fromPubkey published.channel published.body
          published.createdAt) (intake.db.store.inbox.find? k)
      else intake.db.store.inbox.find? k := by
  rw [echo_eq hadmitted now]
  refine (inbox_acceptChat json intake published.signed published.chat k).trans ?_
  rw [PublishedChat.collectPPubkeys_signed]
  rfl

end Echo

/-! ## Runs -/

theorem localStep_undisturbed (json : WireJson) (published : PublishedChat) (intake : Intake)
    (step : LocalStep) : Undisturbed intake (localStep json published intake step) := by
  cases step with
  | seed => exact seedChatReadModels_undisturbed json intake published
  | deliver => exact deliverLocally_undisturbed intake published
  | echo now => exact materializeKindChat_undisturbed json intake published.signed now

theorem Undisturbed.locallyEnqueues (hkept : Undisturbed before after) {published : PublishedChat}
    (henqueues : LocallyEnqueues before.db.store published pubkey) :
    LocallyEnqueues after.db.store published pubkey := by
  obtain ⟨target, hlisted, hreaches, rfl⟩ := henqueues
  rw [Store.listRunningSessions, List.mem_insertionSort, Table.mem_select] at hlisted
  obtain ⟨hmem, hrunning⟩ := hlisted
  have hfind : before.db.store.sessions.find? target.pubkey = some target :=
    Table.find?_eq_some_iff.mpr ⟨hmem, rfl⟩
  have hrelated := hkept.sessions target.pubkey
  rw [hfind] at hrelated
  generalize hnext : after.db.store.sessions.find? target.pubkey = next at hrelated
  cases hrelated with
  | @some _ row hsame =>
      have hpubkey : row.pubkey = target.pubkey := Table.key_of_find? hnext
      refine ⟨row, ?_, ?_, hpubkey⟩
      · rw [Store.listRunningSessions, List.mem_insertionSort, Table.mem_select]
        exact ⟨Table.mem_of_find? hnext, hsame.runtimeState.trans hrunning⟩
      · rw [hkept.reaches]
        simpa only [Intake.reaches, sendReaches, replyReaches, hpubkey, hsame.createdAt]
          using hreaches

theorem Undisturbed.symm (hkept : Undisturbed before after) :
    Undisturbed after before where
  channelMembers := hkept.channelMembers.symm
  channelMemberSets := hkept.channelMemberSets.symm
  sessionChannels := hkept.sessionChannels.symm
  eventClaims := hkept.eventClaims.symm
  sessions := by
    intro k
    have hrelated := hkept.sessions k
    generalize before.db.store.sessions.find? k = row at hrelated
    generalize after.db.store.sessions.find? k = next at hrelated
    cases hrelated with
    | none => exact .none
    | some hsame => exact .some ⟨hsame.runtimeState.symm, hsame.createdAt.symm⟩

theorem Undisturbed.locallyEnqueues_iff
    (hkept : Undisturbed before after) (published : PublishedChat) (pubkey : String) :
    LocallyEnqueues after.db.store published pubkey ↔
      LocallyEnqueues before.db.store published pubkey :=
  ⟨hkept.symm.locallyEnqueues, hkept.locallyEnqueues⟩

theorem Undisturbed.echoEnqueues_iff (hkept : Undisturbed before after)
    (published : PublishedChat) (pubkey : String) :
    EchoEnqueues after.db.store published pubkey ↔
      EchoEnqueues before.db.store published pubkey := by
  rw [EchoEnqueues, EchoEnqueues, hkept.routed_iff]

/-- The pubkeys for which a step enqueues a row. -/
def enqueues (store : Store) (published : PublishedChat) : LocalStep → String → Prop
  | .seed, _ => False
  | .deliver, pubkey => LocallyEnqueues store published pubkey
  | .echo _, pubkey => EchoEnqueues store published pubkey

/-- The pubkeys that a step records as recipients. -/
def records (store : Store) (published : PublishedChat) : LocalStep → String → Prop
  | .seed, pubkey => pubkey ∈ published.mentionedPubkeys
  | .deliver, pubkey => LocallyEnqueues store published pubkey ∧ published.isSend = true
  | .echo _, pubkey => pubkey ∈ published.mentionedPubkeys ∧ Recordable published ∨
      EchoEnqueues store published pubkey

instance (store : Store) (published : PublishedChat) (step : LocalStep) (pubkey : String) :
    Decidable (enqueues store published step pubkey) :=
  match step with
  | .seed => inferInstanceAs (Decidable False)
  | .deliver => inferInstanceAs (Decidable (LocallyEnqueues _ _ _))
  | .echo _ => inferInstanceAs (Decidable (EchoEnqueues _ _ _))

instance (store : Store) (published : PublishedChat) (step : LocalStep) (pubkey : String) :
    Decidable (records store published step pubkey) :=
  match step with
  | .seed => inferInstanceAs (Decidable (_ ∈ _))
  | .deliver => inferInstanceAs (Decidable (_ ∧ _))
  | .echo _ => inferInstanceAs (Decidable (_ ∨ _))

/-- The local loop serves no pubkey that is not mentioned. -/
theorem LocallyEnqueues.mentioned {published : PublishedChat}
    (henqueues : LocallyEnqueues store published pubkey) :
    pubkey ∈ published.mentionedPubkeys := by
  obtain ⟨target, _, hreaches, rfl⟩ := henqueues
  unfold reaches at hreaches
  split at hreaches
  · rename_i tagged hcall
    simp only [sendReaches, Bool.and_eq_true, Bool.or_eq_true, decide_eq_true_eq] at hreaches
    rcases hreaches.2 with htagged | hmentioned
    · rw [PublishedChat.mentionedPubkeys, hcall]
      exact htagged
    · exact hmentioned
  · rename_i originalAuthor replyTo hcall
    simp only [replyReaches, Bool.and_eq_true, decide_eq_true_eq] at hreaches
    rw [PublishedChat.mentionedPubkeys, hcall]
    exact List.mem_singleton.mpr hreaches.1.2

theorem records_mentioned {published : PublishedChat} {step : LocalStep}
    (hrecords : records store published step pubkey) :
    pubkey ∈ published.mentionedPubkeys := by
  cases step with
  | seed => exact hrecords
  | deliver => exact hrecords.1.mentioned
  | echo now =>
      rcases hrecords with hmentioned | hrouted
      · exact hmentioned.1
      · exact hrouted.1

section Run

variable (json : WireJson) {intake : Intake} {published : PublishedChat}
  (hadmitted : chatAdmission intake.db published.signed = .accepted) (steps : List LocalStep)

theorem run_undisturbed :
    Undisturbed intake (run (localStep json published) intake steps) :=
  run_invariant (I := Undisturbed intake) (.refl intake)
    (fun current step hcurrent =>
      hcurrent.trans (localStep_undisturbed json published current step)) steps

include hadmitted

theorem events_run (k : String) :
    (run (localStep json published) intake steps).db.events.find? k =
      if ∃ step ∈ steps, step ≠ .deliver ∧ k = published.eventId ∧
          published.createdAt ≤ Rust.i64Max then
        keepFirst (chatRelayEvent json published) (intake.db.events.find? k)
      else intake.db.events.find? k := by
  refine run_writes (localStep json published) (fun current : Intake => current.db.events.find? k)
    (keepFirst (chatRelayEvent json published))
    (fun step => step ≠ .deliver ∧ k = published.eventId ∧ published.createdAt ≤ Rust.i64Max)
    (J := Undisturbed intake) (fun _ => rfl) ?_ ?_ (.refl intake) steps
  · intro current step hkept
    exact hkept.trans (localStep_undisturbed json published current step)
  · intro current step hkept
    cases step with
    | seed =>
        rw [if_congr (and_iff_right (by simp)) rfl rfl]
        exact events_seed json current published k
    | deliver =>
        rw [if_neg (fun hhit => hhit.1 rfl)]
        exact congrArg (Table.find? · k) (deliverLocally_sameReadModels current published).1
    | echo now =>
        rw [if_congr (and_iff_right (by simp)) rfl rfl]
        exact events_echo ((hkept.chatAdmission _).trans hadmitted) now k

theorem recipients_run (k : String × String) :
    (run (localStep json published) intake steps).messageRecipients.find? k =
      if ∃ step ∈ steps, k.1 = published.eventId ∧
          records intake.db.store published step k.2 then
        keepFirst ⟨k.1, k.2, 0⟩ (intake.messageRecipients.find? k)
      else intake.messageRecipients.find? k := by
  refine run_writes (localStep json published)
    (fun current : Intake => current.messageRecipients.find? k) (keepFirst ⟨k.1, k.2, 0⟩)
    (fun step => k.1 = published.eventId ∧ records intake.db.store published step k.2)
    (J := Undisturbed intake) (fun _ => rfl) ?_ ?_ (.refl intake) steps
  · intro current step hkept
    exact hkept.trans (localStep_undisturbed json published current step)
  · intro current step hkept
    cases step with
    | seed => exact recipients_seed json current published k
    | deliver =>
        refine (recipients_deliverLocally current published k).trans (if_congr ?_ rfl rfl)
        rw [hkept.locallyEnqueues_iff]
        rfl
    | echo now =>
        refine (recipients_echo ((hkept.chatAdmission _).trans hadmitted) now k).trans
          (if_congr ?_ rfl rfl)
        rw [hkept.echoEnqueues_iff]
        rfl

theorem inbox_run (k : String × String) :
    (run (localStep json published) intake steps).db.store.inbox.find? k =
      if ∃ step ∈ steps, k.1 = published.eventId ∧
          enqueues intake.db.store published step k.2 ∧ published.createdAt ≤ Rust.i64Max then
        keepFirst (.arrival k.1 k.2 published.fromPubkey published.channel published.body
          published.createdAt) (intake.db.store.inbox.find? k)
      else intake.db.store.inbox.find? k := by
  refine run_writes (localStep json published)
    (fun current : Intake => current.db.store.inbox.find? k)
    (keepFirst (.arrival k.1 k.2 published.fromPubkey published.channel published.body
      published.createdAt))
    (fun step => k.1 = published.eventId ∧ enqueues intake.db.store published step k.2 ∧
      published.createdAt ≤ Rust.i64Max)
    (J := Undisturbed intake) (fun _ => rfl) ?_ ?_ (.refl intake) steps
  · intro current step hkept
    exact hkept.trans (localStep_undisturbed json published current step)
  · intro current step hkept
    cases step with
    | seed =>
        rw [if_neg (fun hhit => hhit.2.1)]
        exact inbox_seed json current published k
    | deliver =>
        refine (inbox_deliverLocally current published k).trans (if_congr ?_ rfl rfl)
        rw [hkept.locallyEnqueues_iff]
        rfl
    | echo now =>
        refine (inbox_echo ((hkept.chatAdmission _).trans hadmitted) now k).trans
          (if_congr ?_ rfl rfl)
        rw [hkept.echoEnqueues_iff]
        rfl

/-- What a step does to a message row. -/
theorem messages_localStep (step : LocalStep) (k : String) :
    (localStep json published intake step).messages.find? k =
      if k = Rust.trim published.eventId ∧ Recordable published then
        match step with
        | .seed => some (seededRow published)
        | .deliver => intake.messages.find? k
        | .echo _ => some (recordedRow published .inbound (intake.messages.find? k))
      else intake.messages.find? k := by
  cases step with
  | seed =>
      refine (messages_seed json intake published k).trans (if_congr Iff.rfl ?_ rfl)
      rw [recordedRow_outbound]
  | deliver =>
      rw [ite_self]
      exact congrArg (Table.find? · k) (deliverLocally_sameReadModels intake published).2
  | echo now => exact messages_echo hadmitted now k

/-- Once it is seeded the message row is the one of the seed. -/
theorem messages_run {steps : List LocalStep} (hseed : .seed ∈ steps) (k : String) :
    (run (localStep json published) intake steps).messages.find? k =
      if k = Rust.trim published.eventId ∧ Recordable published then some (seededRow published)
      else intake.messages.find? k := by
  by_cases hrow : k = Rust.trim published.eventId ∧ Recordable published
  · rw [if_pos hrow]
    obtain ⟨before, after, rfl⟩ := List.append_of_mem hseed
    have hbefore : Undisturbed intake (run (localStep json published) intake before) :=
      run_undisturbed json before
    rw [run_append, run_cons]
    generalize run (localStep json published) intake before = middle at hbefore
    have hmiddle := (hbefore.chatAdmission published.signed).trans hadmitted
    refine (run_invariant (I := fun current : Intake => Undisturbed middle current ∧
      current.messages.find? k = some (seededRow published)) ?_ ?_ after).2
    · refine ⟨localStep_undisturbed json published middle .seed, ?_⟩
      rw [messages_localStep json hmiddle, if_pos hrow]
    · rintro current step ⟨hkept, hfound⟩
      refine ⟨hkept.trans (localStep_undisturbed json published current step), ?_⟩
      rw [messages_localStep json ((hkept.chatAdmission _).trans hmiddle), if_pos hrow, hfound]
      cases step with
      | seed | deliver => rfl
      | echo now => rw [recordedRow_seededRow]
  · rw [if_neg hrow]
    refine (run_invariant (I := fun current : Intake => Undisturbed intake current ∧
      current.messages.find? k = intake.messages.find? k) ⟨.refl intake, rfl⟩ ?_ steps).2
    rintro current step ⟨hkept, hfound⟩
    refine ⟨hkept.trans (localStep_undisturbed json published current step), ?_⟩
    rw [messages_localStep json ((hkept.chatAdmission _).trans hadmitted), if_neg hrow, hfound]

end Run

/-! ## Agreement -/

/-- The event, message, recipient and inbox rows are the same. -/
structure SameRows (left right : Intake) : Prop where
  events : ∀ k, left.db.events.find? k = right.db.events.find? k
  messages : ∀ k, left.messages.find? k = right.messages.find? k
  messageRecipients : ∀ k, left.messageRecipients.find? k = right.messageRecipients.find? k
  inbox : ∀ k, left.db.store.inbox.find? k = right.db.store.inbox.find? k

def echoes (times : List Nat) : List LocalStep := times.map .echo

/-- The local loop and the echo serve the same pubkeys, and the rows that are left do not
depend on when and how often the echo arrives. -/
def AgreesWithEcho (json : WireJson) (intake : Intake) (published : PublishedChat) : Prop :=
  (∀ pubkey, LocallyEnqueues intake.db.store published pubkey ↔
    EchoEnqueues intake.db.store published pubkey) ∧
  ∀ before between after : List Nat,
    SameRows
      (run (localStep json published) intake
        (echoes before ++ .seed :: (echoes between ++ .deliver :: echoes after)))
      (run (localStep json published) intake [.seed, .deliver])

/-- Every tagged session of a send but the author runs, and was created before the message,
exactly when it has a route; the author that a reply answers runs if it has one. -/
def Agreeing (store : Store) (published : PublishedChat) : Prop :=
  match published.call with
  | .send tagged => store.sessions.All (fun row =>
      row.pubkey ∈ tagged → row.pubkey ≠ published.fromPubkey →
        ((row.runtimeState = .running ∧ row.createdAt ≤ published.createdAt) ↔
          store.hasSessionRoute row.pubkey published.channel = true))
  | .reply originalAuthor _ => store.sessions.All (fun row =>
      row.pubkey = originalAuthor → row.pubkey ≠ published.fromPubkey →
        store.hasSessionRoute row.pubkey published.channel = true → row.runtimeState = .running)

theorem locallyEnqueues_iff {published : PublishedChat} :
    LocallyEnqueues store published pubkey ↔
      ∃ row, store.getSession pubkey = some row ∧ row.runtimeState = .running ∧
        reaches store published row = true := by
  constructor
  · rintro ⟨row, hlisted, hreaches, rfl⟩
    rw [Store.listRunningSessions, List.mem_insertionSort, Table.mem_select] at hlisted
    exact ⟨row, Table.find?_eq_some_iff.mpr ⟨hlisted.1, rfl⟩, hlisted.2, hreaches⟩
  · rintro ⟨row, hfind, hrunning, hreaches⟩
    refine ⟨row, ?_, hreaches, Table.key_of_find? hfind⟩
    rw [Store.listRunningSessions, List.mem_insertionSort, Table.mem_select]
    exact ⟨Table.mem_of_find? hfind, hrunning⟩

/-- For a known session, what each way serves. -/
theorem enqueues_iff_of_row {published : PublishedChat} {row : Session}
    (hfind : store.getSession row.pubkey = some row) :
    (LocallyEnqueues store published row.pubkey ↔
        row.runtimeState = .running ∧ reaches store published row = true) ∧
      (EchoEnqueues store published row.pubkey ↔
        row.pubkey ∈ published.mentionedPubkeys ∧ row.pubkey ≠ published.fromPubkey ∧
          store.hasSessionRoute row.pubkey published.channel = true) := by
  constructor
  · rw [locallyEnqueues_iff, hfind]
    simp
  · rw [EchoEnqueues, Routed, hfind]
    simp [PublishedChat.signed]

/-- Both ways serve known sessions only. -/
theorem enqueues_agree_iff_rows {published : PublishedChat} :
    (∀ pubkey, LocallyEnqueues store published pubkey ↔ EchoEnqueues store published pubkey) ↔
      store.sessions.All (fun row =>
        (row.runtimeState = .running ∧ reaches store published row = true) ↔
          (row.pubkey ∈ published.mentionedPubkeys ∧ row.pubkey ≠ published.fromPubkey ∧
            store.hasSessionRoute row.pubkey published.channel = true)) := by
  constructor
  · intro hagree row hrow
    have hsides := @enqueues_iff_of_row _ published _ (Table.mem_rows_iff.mp hrow)
    rw [← hsides.1, ← hsides.2]
    exact hagree row.pubkey
  · intro hrows pubkey
    cases hfind : store.getSession pubkey with
    | none =>
        rw [locallyEnqueues_iff, EchoEnqueues, Routed, hfind]
        simp
    | some row =>
        obtain rfl : row.pubkey = pubkey := Table.key_of_find? hfind
        have hsides := @enqueues_iff_of_row _ published _ hfind
        rw [hsides.1, hsides.2]
        exact hrows row (Table.mem_of_find? hfind)

/-- Both ways serve the same pubkeys exactly under the condition on the recipients. -/
theorem enqueues_agree_iff {published : PublishedChat} :
    (∀ pubkey, LocallyEnqueues store published pubkey ↔ EchoEnqueues store published pubkey) ↔
      Agreeing store published := by
  rw [enqueues_agree_iff_rows, Agreeing]
  cases hcall : published.call with
  | send tagged =>
      refine forall₂_congr (fun row _ => ?_)
      simp only [reaches, sendReaches, PublishedChat.mentionedPubkeys, hcall,
        Bool.and_eq_true, Bool.or_eq_true, decide_eq_true_eq]
      tauto
  | reply originalAuthor replyTo =>
      refine forall₂_congr (fun row _ => ?_)
      simp only [reaches, replyReaches, PublishedChat.mentionedPubkeys, hcall,
        Bool.and_eq_true, decide_eq_true_eq, List.mem_singleton]
      tauto

/-- A run with a seed and a delivery, and echoes of the same recipients, leaves the rows of
the seed and the delivery. -/
theorem sameRows_run (json : WireJson) {intake : Intake} {published : PublishedChat}
    (hadmitted : chatAdmission intake.db published.signed = .accepted)
    (hagree : ∀ pubkey, LocallyEnqueues intake.db.store published pubkey ↔
      EchoEnqueues intake.db.store published pubkey)
    {steps : List LocalStep} (hseed : .seed ∈ steps) (hdeliver : .deliver ∈ steps) :
    SameRows (run (localStep json published) intake steps)
      (run (localStep json published) intake [.seed, .deliver]) := by
  constructor
  · intro k
    rw [events_run json hadmitted, events_run json hadmitted]
    refine if_congr ?_ rfl rfl
    constructor
    · rintro ⟨_, _, _, hhit⟩
      exact ⟨.seed, by simp, by simp, hhit⟩
    · rintro ⟨_, _, _, hhit⟩
      exact ⟨.seed, hseed, by simp, hhit⟩
  · intro k
    rw [messages_run json hadmitted hseed, messages_run json hadmitted (by simp)]
  · intro k
    rw [recipients_run json hadmitted, recipients_run json hadmitted]
    refine if_congr ?_ rfl rfl
    constructor
    · rintro ⟨_, _, hid, hrecords⟩
      exact ⟨.seed, by simp, hid, records_mentioned hrecords⟩
    · rintro ⟨_, _, hid, hrecords⟩
      exact ⟨.seed, hseed, hid, records_mentioned hrecords⟩
  · intro k
    have hlocal : ∀ step, enqueues intake.db.store published step k.2 →
        LocallyEnqueues intake.db.store published k.2 := by
      intro step henqueues
      cases step with
      | seed => exact henqueues.elim
      | deliver => exact henqueues
      | echo now => exact (hagree k.2).mpr henqueues
    rw [inbox_run json hadmitted, inbox_run json hadmitted]
    refine if_congr ?_ rfl rfl
    constructor
    · rintro ⟨step, _, hid, henqueues, hbound⟩
      exact ⟨.deliver, by simp, hid, hlocal step henqueues, hbound⟩
    · rintro ⟨step, _, hid, henqueues, hbound⟩
      exact ⟨.deliver, hdeliver, hid, hlocal step henqueues, hbound⟩

/-- For an author that the roster admits, the local delivery agrees with the echo exactly
under the condition on the recipients. -/
theorem localDelivery_agrees_iff (json : WireJson) (intake : Intake) (published : PublishedChat)
    (hadmitted : chatAdmission intake.db published.signed = .accepted) :
    AgreesWithEcho json intake published ↔ Agreeing intake.db.store published := by
  rw [← enqueues_agree_iff]
  constructor
  · exact And.left
  · intro hagree
    refine ⟨hagree, ?_⟩
    intro before between after
    exact sameRows_run json hadmitted hagree (by simp) (by simp)

/-! ## A tagged session that does not run -/

/-- `alice` tags `agent`. -/
def taggingChat : PublishedChat where
  call := .send ["agent"]
  fromPubkey := "alice"
  channel := "channel"
  body := "help"
  eventId := "event"
  createdAt := 10

/-- JSON that knows the tags of one event. -/
def taggingJson : WireJson where
  tagsToJson := fun tags => if tags = taggingChat.signed.tags then
    "[[\"h\",\"channel\"],[\"p\",\"agent\"]]" else "[]"
  eventToJson := fun _ => none
  eventFromJson := fun _ => none

/-- The channel is hydrated, and `agent` has a route there. -/
def hostingTagged (runtimeState : RuntimeState) : Intake where
  db := { (Database.empty.materializeRoster "channel" ⟨.admin, ["relay"], 2⟩).materializeRoster
      "channel" ⟨.member, ["alice", "agent"], 3⟩ with
    store := { Store.empty with
      sessions := Table.empty.insertOrIgnore
        { Session.defaults "agent" 1 5 with runtimeState := runtimeState }
      sessionChannels := Table.empty.insertOrIgnore ⟨"agent", "channel", 5⟩ } }
  messages := Table.empty
  messageRecipients := Table.empty
  quarantine := Table.empty

theorem localDelivery_agrees_iff_running :
    AgreesWithEcho taggingJson (hostingTagged .running) taggingChat ↔
      Agreeing (hostingTagged .running).db.store taggingChat :=
  localDelivery_agrees_iff taggingJson (hostingTagged .running) taggingChat (by decide +kernel)

/-- The echo enqueues a row for a stopped session, the sender does not. -/
theorem stopped_recipient_diverges :
    ¬ ∀ (json : WireJson) (intake : Intake) (published : PublishedChat),
      chatAdmission intake.db published.signed = .accepted →
        AgreesWithEcho json intake published := by
  intro hclaim
  have hagrees := hclaim taggingJson (hostingTagged .stopped) taggingChat (by decide +kernel)
  have hecho : EchoEnqueues (hostingTagged .stopped).db.store taggingChat "agent" := by
    decide +kernel
  have hlocal : ¬ LocallyEnqueues (hostingTagged .stopped).db.store taggingChat "agent" := by
    decide +kernel
  exact hlocal ((hagrees.1 "agent").mpr hecho)

end Intake

end Mosaico
