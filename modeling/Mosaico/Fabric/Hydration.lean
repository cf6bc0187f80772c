import Mosaico.Fabric.EchoAgreement
import Mosaico.Transition.Writes

/-!
# Quarantine and hydration

A chat whose channel has no complete roster yet is quarantined as a JSON text
and read back when the roster arrives; a chat that comes later is admitted at
once.  The two paths write the same rows, in whatever order and however often
the chats come: each cell of the four tables belongs to one event, and only the
admission of that event writes it.

They differ for a chat whose `created_at` the database cannot store.  The
quarantine refuses it whole.  The direct path writes no log row, no message and
no inbox row either, but `route_chat` records the recipient although the
enqueue has failed.
-/

namespace Mosaico

open Relational Transition

namespace Intake

/-! ## What one admission writes -/

/-- The author is in the roster of the channel. -/
def Admitted (db : Database) (channelH : String) (event : Event) : Prop :=
  db.isChannelMember channelH event.pubkey = true

/-- The admission of the event writes the log row and the message of the id. -/
def Logs (db : Database) (channelH k : String) (event : Event) : Prop :=
  Admitted db channelH event ∧ k = event.id ∧ event.createdAt ≤ Rust.i64Max

/-- The admission of the event records the recipient. -/
def Addresses (db : Database) (channelH : String) (k : String × String) (event : Event) : Prop :=
  Admitted db channelH event ∧ k.1 = event.id ∧ k.2 ∈ collectPPubkeys event ∧
    (event.createdAt ≤ Rust.i64Max ∨ Routed db.store event channelH k.2)

/-- The admission of the event enqueues it for the pubkey. -/
def Queues (db : Database) (channelH : String) (k : String × String) (event : Event) : Prop :=
  Admitted db channelH event ∧ k.1 = event.id ∧ k.2 ∈ collectPPubkeys event ∧
    Routed db.store event channelH k.2 ∧ event.createdAt ≤ Rust.i64Max

instance (db : Database) (channelH : String) : DecidablePred (Admitted db channelH) := fun _ =>
  inferInstanceAs (Decidable (_ = true))

instance (db : Database) (channelH k : String) : DecidablePred (Logs db channelH k) := fun _ =>
  inferInstanceAs (Decidable (_ ∧ _))

instance (db : Database) (channelH : String) (k : String × String) :
    DecidablePred (Addresses db channelH k) := fun _ =>
  inferInstanceAs (Decidable (_ ∧ _))

instance (db : Database) (channelH : String) (k : String × String) :
    DecidablePred (Queues db channelH k) := fun _ =>
  inferInstanceAs (Decidable (_ ∧ _))

/-- The message row of a chat that arrives while `found` stands under its id. -/
def receivedRow (channelH : String) (event : Event) (found : Option Message) : Message where
  messageId := event.id
  threadId := channelH
  channelH := channelH
  authorPubkey := event.pubkey
  body := event.content
  createdAt := event.createdAt
  direction :=
    if found.map Message.direction = some .outbound then .outbound else .inbound
  syncState := "accepted"
  nativeEventId := some event.id
  error := none

theorem receivedRow_receivedRow (channelH : String) (event : Event) (found : Option Message) :
    receivedRow channelH event (some (receivedRow channelH event found)) =
      receivedRow channelH event found := by
  by_cases houtbound : found.map Message.direction = some .outbound
  · simp [receivedRow, houtbound]
  · simp [receivedRow, houtbound]

/-- The four tables after chats of a channel were admitted or turned away under the
roster and the routes of `db`. -/
structure Admits (json : WireJson) (db : Database) (channelH : String) (chats : List Event)
    (before after : Intake) : Prop where
  events : ∀ k, Wrote (Logs db channelH k) (fun event => keepFirst (toRelayEvent json event))
    chats (before.db.events.find? k) (after.db.events.find? k)
  messages : ∀ k, Wrote (Logs db channelH k)
    (fun event found => some (receivedRow channelH event found)) chats
    (before.messages.find? k) (after.messages.find? k)
  recipients : ∀ k, Wrote (Addresses db channelH k) (fun _ => keepFirst ⟨k.1, k.2, 0⟩) chats
    (before.messageRecipients.find? k) (after.messageRecipients.find? k)
  inbox : ∀ k, Wrote (Queues db channelH k)
    (fun event => keepFirst (.arrival k.1 k.2 event.pubkey channelH event.content
      event.createdAt)) chats
    (before.db.store.inbox.find? k) (after.db.store.inbox.find? k)

/-- The four tables are the same. -/
structure SameTables (left right : Intake) : Prop where
  events : left.db.events = right.db.events
  messages : left.messages = right.messages
  recipients : left.messageRecipients = right.messageRecipients
  inbox : left.db.store.inbox = right.db.store.inbox

theorem SameTables.refl (intake : Intake) : SameTables intake intake := ⟨rfl, rfl, rfl, rfl⟩

theorem SameTables.trans {first second third : Intake} (hleft : SameTables first second)
    (hright : SameTables second third) : SameTables first third :=
  ⟨hleft.events.trans hright.events, hleft.messages.trans hright.messages,
    hleft.recipients.trans hright.recipients, hleft.inbox.trans hright.inbox⟩

theorem Admits.of_same {json : WireJson} {db : Database} {channelH : String}
    {before after : Intake} (hsame : SameTables after before) :
    Admits json db channelH [] before after where
  events := by
    intro k
    rw [hsame.events]
    exact .nil _
  messages := by
    intro k
    rw [hsame.messages]
    exact .nil _
  recipients := by
    intro k
    rw [hsame.recipients]
    exact .nil _
  inbox := by
    intro k
    rw [hsame.inbox]
    exact .nil _

/-- An event whose author is not in the roster writes nothing. -/
theorem Admits.of_rejected {json : WireJson} {db : Database} {channelH : String} {event : Event}
    {before after : Intake} (hrejected : ¬ Admitted db channelH event)
    (hsame : SameTables after before) : Admits json db channelH [event] before after where
  events := by
    intro k
    refine Wrote.single ?_
    rw [if_neg (fun hhit => hrejected hhit.1), hsame.events]
  messages := by
    intro k
    refine Wrote.single ?_
    rw [if_neg (fun hhit => hrejected hhit.1), hsame.messages]
  recipients := by
    intro k
    refine Wrote.single ?_
    rw [if_neg (fun hhit => hrejected hhit.1), hsame.recipients]
  inbox := by
    intro k
    refine Wrote.single ?_
    rw [if_neg (fun hhit => hrejected hhit.1), hsame.inbox]

/-- Two lists of events, one after the other. -/
theorem Admits.append {json : WireJson} {db : Database} {channelH : String}
    {first second : List Event} {before middle after : Intake}
    (hfirst : Admits json db channelH first before middle)
    (hsecond : Admits json db channelH second middle after)
    (hsame : ∀ left ∈ first, ∀ right ∈ second, left.id = right.id → left = right) :
    Admits json db channelH (first ++ second) before after where
  events := fun k => (hfirst.events k).append (hsecond.events k) (fun _ _ => rfl)
    (fun left hleft right hright hl hr => hsame left hleft right hright (hl.2.1.symm.trans hr.2.1))
  messages := fun k => (hfirst.messages k).append (hsecond.messages k)
    (fun event found => congrArg some (receivedRow_receivedRow channelH event found))
    (fun left hleft right hright hl hr => hsame left hleft right hright (hl.2.1.symm.trans hr.2.1))
  recipients := fun k => (hfirst.recipients k).append (hsecond.recipients k) (fun _ _ => rfl)
    (fun left hleft right hright hl hr => hsame left hleft right hright (hl.2.1.symm.trans hr.2.1))
  inbox := fun k => (hfirst.inbox k).append (hsecond.inbox k) (fun _ _ => rfl)
    (fun left hleft right hright hl hr => hsame left hleft right hright (hl.2.1.symm.trans hr.2.1))

/-- What leaves the tables alone can follow. -/
theorem Admits.sameTables {json : WireJson} {db : Database} {channelH : String}
    {chats : List Event} {before middle after : Intake}
    (hadmits : Admits json db channelH chats before middle) (hsame : SameTables after middle) :
    Admits json db channelH chats before after where
  events := by
    intro k
    rw [hsame.events]
    exact hadmits.events k
  messages := by
    intro k
    rw [hsame.messages]
    exact hadmits.messages k
  recipients := by
    intro k
    rw [hsame.recipients]
    exact hadmits.recipients k
  inbox := by
    intro k
    rw [hsame.inbox]
    exact hadmits.inbox k

/-! ## Deliveries -/

/-- The event is a chat of the channel. -/
def OfChannel (channelH : String) (event : Event) : Prop :=
  ∃ chat, decodeChat event = some chat ∧ chat.channel = channelH

/-- A chat keeps the channel and the text of its event. -/
theorem decodeChat_eq_some {event : Event} {chat : ChatMessage}
    (hdecode : decodeChat event = some chat) :
    event.kind = kindChat ∧ (nostrTag event "h").getD "" = chat.channel ∧
      chat.body = event.content := by
  unfold decodeChat at hdecode
  by_cases hkind : event.kind = kindChat
  · rw [if_pos hkind, Option.map_eq_some_iff] at hdecode
    obtain ⟨channel, htag, rfl⟩ := hdecode
    rw [htag]
    exact ⟨hkind, rfl, rfl⟩
  · rw [if_neg hkind] at hdecode
    cases hdecode

/-- An event is a chat of one channel only. -/
theorem OfChannel.unique {first second : String} {event : Event} (hfirst : OfChannel first event)
    (hsecond : OfChannel second event) : first = second := by
  obtain ⟨chat, hdecode, rfl⟩ := hfirst
  obtain ⟨other, hother, rfl⟩ := hsecond
  have heq : some chat = some other := hdecode.symm.trans hother
  rw [Option.some.inj heq]

/-- What the relay client promises of the events that it delivers: their ids are
hexadecimal hashes, and their JSON texts can be read back. -/
structure Deliveries (json : WireJson) where
  Verified : Event → Prop
  eq_of_id : ∀ left right, Verified left → Verified right → left.id = right.id → left = right
  trim_id : ∀ event, Verified event → Rust.trim event.id = event.id
  id_nonempty : ∀ event, Verified event → event.id ≠ ""
  readBack : ∀ event, Verified event →
    ∃ text, json.eventToJson event = some text ∧ json.eventFromJson text = some event

/-! ## One admission -/

section Admission

variable {json : WireJson} {deliveries : Deliveries json} {start intake : Intake}
  {channelH : String} {event : Event} {chat : ChatMessage}

/-- An accepted chat writes its rows. -/
theorem acceptChat_admits (hkept : Undisturbed start intake)
    (hverified : deliveries.Verified event) (hdecode : decodeChat event = some chat)
    (hmember : Admitted start.db chat.channel event) :
    Admits json start.db chat.channel [event] intake (intake.acceptChat json event chat).2 := by
  obtain ⟨hkind, -, hbody⟩ := decodeChat_eq_some hdecode
  have hrecordable : Recordable (receivedAs event chat) ↔ event.createdAt ≤ Rust.i64Max := by
    have hid : Rust.trim event.id ≠ "" := by
      rw [deliveries.trim_id event hverified]
      exact deliveries.id_nonempty event hverified
    exact and_iff_right hid
  have hrouted : ∀ pubkey, Routed intake.db.store event chat.channel pubkey ↔
      Routed start.db.store event chat.channel pubkey := hkept.routed_iff event chat.channel
  constructor
  · intro k
    refine Wrote.single ?_
    rw [events_acceptChat json intake event chat hkind k]
    exact if_congr (and_iff_right hmember).symm rfl rfl
  · intro k
    refine Wrote.single ?_
    rw [messages_acceptChat]
    refine if_congr ?_ ?_ rfl
    · rw [deliveries.trim_id event hverified, hrecordable]
      exact (and_iff_right hmember).symm
    · show some { publishedMessage (receivedAs event chat) _ with
        messageId := Rust.trim event.id } = _
      rw [deliveries.trim_id event hverified, receivedRow, ← hbody]
      rfl
  · intro k
    refine Wrote.single ?_
    rw [recipients_acceptChat]
    refine if_congr ?_ rfl rfl
    rw [hrecordable, hrouted]
    exact (and_iff_right hmember).symm
  · intro k
    refine Wrote.single ?_
    rw [inbox_acceptChat, hbody]
    refine if_congr ?_ rfl rfl
    rw [hrouted, and_assoc]
    exact (and_iff_right hmember).symm

end Admission

/-! ## The quarantine -/

theorem addRecipient_quarantine (intake : Intake) (messageId recipient : String) :
    (intake.addRecipient messageId recipient).quarantine = intake.quarantine := by
  refine commit_invariant (I := fun after : Intake => after.quarantine = intake.quarantine) rfl ?_
  intro value after hok
  simp only [addMessageRecipient, bind_eq_ok, pure_eq_ok, Prod.mk.injEq] at hok
  obtain ⟨_, _, _, rfl⟩ := hok
  rfl

theorem addMessageRecipients_quarantine (intake : Intake) (messageId : String)
    (recipients : List String) :
    (intake.addMessageRecipients messageId recipients).quarantine = intake.quarantine :=
  run_invariant (I := fun after : Intake => after.quarantine = intake.quarantine) rfl
    (fun current recipient hcurrent =>
      (addRecipient_quarantine current messageId recipient).trans hcurrent) recipients

theorem materializeChatMessage_quarantine (intake : Intake) (event : Event) (chat : ChatMessage) :
    (intake.materializeChatMessage event chat).quarantine = intake.quarantine := by
  unfold materializeChatMessage
  split
  · rfl
  · rename_i messageId after hok
    rw [addMessageRecipients_quarantine]
    simp only [recordMessage, bind_eq_ok, pure_eq_ok, Prod.mk.injEq] at hok
    obtain ⟨_, _, _, _, _, rfl⟩ := hok
    rfl

theorem routeTo_quarantine (event : Event) (chat : ChatMessage) (intake : Intake)
    (targetPubkey : String) :
    (routeTo event chat intake targetPubkey).2.quarantine = intake.quarantine := by
  rw [routeTo_eq]
  split
  · exact addRecipient_quarantine (intake.setStore _) event.id targetPubkey
  · rfl

/-- An accepted chat leaves the quarantine alone. -/
theorem acceptChat_quarantine (json : WireJson) (intake : Intake) (event : Event)
    (chat : ChatMessage) : (intake.acceptChat json event chat).2.quarantine = intake.quarantine := by
  have hrecorded := materializeChatMessage_quarantine (intake.materializeEvent json event) event chat
  have hrouted : (routeChat ((intake.materializeEvent json event).materializeChatMessage event
      chat) event chat).2.quarantine = _ := @run_invariant _ _ (routeNext event chat)
    (false, (intake.materializeEvent json event).materializeChatMessage event chat)
    (fun routed => routed.2.quarantine =
      ((intake.materializeEvent json event).materializeChatMessage event chat).quarantine) rfl
    (fun routed pubkey hcurrent =>
      (routeTo_quarantine event chat routed.2 pubkey).trans hcurrent) (collectPPubkeys event)
  exact hrouted.trans hrecorded

/-- A quarantined row is the text of a chat of its channel that the database can store. -/
def Kept {json : WireJson} (deliveries : Deliveries json) (row : QuarantinedEvent) : Prop :=
  row.kind = kindChat ∧ ∃ event, deliveries.Verified event ∧
    json.eventFromJson row.eventJson = some event ∧ OfChannel row.channelH event ∧
    row.id = event.id ∧ event.createdAt ≤ Rust.i64Max

section Quarantining

variable {json : WireJson} {deliveries : Deliveries json} {intake : Intake} {event : Event}
  {now : Nat}

theorem quarantineChat_sameTables (reason : String) :
    SameTables (intake.quarantineChat json event reason now) intake := by
  unfold quarantineChat
  split
  · exact .refl intake
  · refine commit_invariant (I := fun after : Intake => SameTables after intake) (.refl intake) ?_
    intro inserted after hok
    simp only [quarantineEvent, bind_eq_ok, pure_eq_ok, Prod.mk.injEq] at hok
    obtain ⟨_, _, _, rfl⟩ := hok
    exact ⟨rfl, rfl, rfl, rfl⟩

/-- The rows of the quarantine after one more chat. -/
theorem find?_quarantineChat (hverified : deliveries.Verified event) (hnow : now ≤ Rust.i64Max)
    (reason k : String) :
    ((intake.quarantineChat json event reason now).quarantine.find? k).isSome =
      if k = event.id ∧ event.createdAt ≤ Rust.i64Max then true
      else (intake.quarantine.find? k).isSome := by
  obtain ⟨text, hwrite, -⟩ := deliveries.readBack event hverified
  rw [quarantineChat, hwrite]
  dsimp only
  by_cases hbound : event.createdAt ≤ Rust.i64Max
  · have hbind : bindParams [(toRelayEvent json event).createdAt, now] = .ok () :=
      bindParams_eq_ok.mpr (by simpa [toRelayEvent] using ⟨hbound, hnow⟩)
    rw [quarantineEvent, hbind]
    show ((intake.quarantine.upsert _ _ _).find? k).isSome = _
    rw [Table.find?_upsert]
    by_cases hk : k = event.id
    · simp [toRelayEvent, hk, hbound]
    · simp [toRelayEvent, hk]
  · rw [quarantineEvent, bindParams_eq_error (by simp [toRelayEvent, hbound])]
    show (intake.quarantine.find? k).isSome = _
    rw [if_neg (fun hhit => hbound hhit.2)]

theorem quarantineChat_kept {channelH : String} (hverified : deliveries.Verified event)
    (hchannel : OfChannel channelH event) (reason : String)
    (hkept : intake.quarantine.All (Kept deliveries)) :
    (intake.quarantineChat json event reason now).quarantine.All (Kept deliveries) := by
  obtain ⟨text, hwrite, hread⟩ := deliveries.readBack event hverified
  rw [quarantineChat, hwrite]
  dsimp only
  refine commit_invariant (I := fun after : Intake => after.quarantine.All (Kept deliveries))
    hkept ?_
  intro inserted after hok
  simp only [quarantineEvent, bind_eq_ok, pure_eq_ok, Prod.mk.injEq] at hok
  obtain ⟨_, hbind, _, rfl⟩ := hok
  have hbound : event.createdAt ≤ Rust.i64Max := by
    have hboth := bindParams_eq_ok.mp hbind
    simp only [toRelayEvent, List.mem_cons, forall_eq_or_imp] at hboth
    exact hboth.1
  obtain ⟨chat, hdecode, rfl⟩ := hchannel
  obtain ⟨hkind, htag, -⟩ := decodeChat_eq_some hdecode
  refine hkept.upsert ?_ ?_
  · exact ⟨hkind, event, hverified, hread, ⟨chat, hdecode, htag.symm⟩, rfl, hbound⟩
  · intro old hold _
    exact hold

/-- The row of a quarantined chat has the channel of its tag. -/
theorem quarantineChat_channels {channelH : String} (hchannel : OfChannel channelH event)
    (reason : String) {P : String → Prop}
    (hrows : intake.quarantine.All (fun row => P row.channelH)) (hevent : P channelH) :
    (intake.quarantineChat json event reason now).quarantine.All (fun row => P row.channelH) := by
  obtain ⟨chat, hdecode, rfl⟩ := hchannel
  obtain ⟨-, htag, -⟩ := decodeChat_eq_some hdecode
  unfold quarantineChat
  split
  · exact hrows
  · refine commit_invariant
      (I := fun after : Intake => after.quarantine.All (fun row => P row.channelH)) hrows ?_
    intro inserted after hok
    simp only [quarantineEvent, bind_eq_ok, pure_eq_ok, Prod.mk.injEq] at hok
    obtain ⟨_, _, _, rfl⟩ := hok
    refine hrows.upsert ?_ ?_
    · show P ((nostrTag event "h").getD "")
      rw [htag]
      exact hevent
    · intro old hold _
      exact hold

end Quarantining

/-! ## One chat -/

/-- A chat that the relay delivers, and the clock of the daemon at that time. -/
structure Arrival {json : WireJson} (deliveries : Deliveries json) where
  event : Event
  now : Nat
  verified : deliveries.Verified event
  isChat : ∃ channelH, OfChannel channelH event
  /-- The clock counts seconds in a signed 64-bit number. -/
  clock : now ≤ Rust.i64Max

def receive {json : WireJson} {deliveries : Deliveries json} (intake : Intake)
    (arrival : Arrival deliveries) : Intake :=
  (intake.materializeKindChat json arrival.event arrival.now).2

/-- The channel has a complete roster. -/
def Hydrated (db : Database) (channelH : String) : Prop :=
  channelH ≠ "" ∧ db.hasChannelMembershipSnapshot channelH = true

theorem Undisturbed.hydrated_iff {before after : Intake} (hkept : Undisturbed before after)
    (channelH : String) : Hydrated after.db channelH ↔ Hydrated before.db channelH := by
  rw [Hydrated, Hydrated, Database.hasChannelMembershipSnapshot,
    Database.hasChannelMembershipSnapshot, hkept.channelMemberSets]

theorem Undisturbed.admitted_iff {before after : Intake} (hkept : Undisturbed before after)
    (channelH : String) (event : Event) :
    Admitted after.db channelH event ↔ Admitted before.db channelH event := by
  rw [Admitted, Admitted, Database.isChannelMember, Database.isChannelMember,
    hkept.channelMembers]

instance (db : Database) (channelH : String) : Decidable (Hydrated db channelH) :=
  inferInstanceAs (Decidable (_ ∧ _))

/-- The gate asks for a complete roster and then for the author. -/
theorem chatAdmission_eq (db : Database) {channelH : String} {event : Event}
    (hchannel : OfChannel channelH event) :
    chatAdmission db event =
      if Hydrated db channelH then
        if Admitted db channelH event then .accepted else .rejected
      else .unhydrated := by
  obtain ⟨chat, hdecode, rfl⟩ := hchannel
  obtain ⟨-, htag, -⟩ := decodeChat_eq_some hdecode
  rw [chatAdmission, htag]
  by_cases hhydrated : Hydrated db chat.channel
  · rw [if_pos hhydrated, if_neg (by simp [hhydrated.1, hhydrated.2])]
    rfl
  · have hnot : chat.channel = "" ∨ db.hasChannelMembershipSnapshot chat.channel = false := by
      by_contra hneither
      rw [not_or, Bool.not_eq_false] at hneither
      exact hhydrated hneither
    rw [if_neg hhydrated, if_pos hnot]

/-- A chat under a complete roster: it is accepted if the roster has its author. -/
def settle (json : WireJson) (intake : Intake) (event : Event) (chat : ChatMessage) : Intake :=
  if Admitted intake.db chat.channel event then (intake.acceptChat json event chat).2 else intake

section Settle

variable {json : WireJson} {deliveries : Deliveries json} {start intake : Intake}
  {event : Event} {chat : ChatMessage}

theorem settle_admits (hkept : Undisturbed start intake) (hverified : deliveries.Verified event)
    (hdecode : decodeChat event = some chat) :
    Admits json start.db chat.channel [event] intake (intake.settle json event chat) := by
  have hmember := hkept.admitted_iff chat.channel event
  unfold settle
  by_cases hadmitted : Admitted intake.db chat.channel event
  · rw [if_pos hadmitted]
    exact acceptChat_admits hkept hverified hdecode (hmember.mp hadmitted)
  · rw [if_neg hadmitted]
    exact .of_rejected (fun hstart => hadmitted (hmember.mpr hstart)) (.refl intake)

theorem settle_quarantine : (intake.settle json event chat).quarantine = intake.quarantine := by
  unfold settle
  split
  · exact acceptChat_quarantine json intake event chat
  · rfl

/-- Under a complete roster the direct path settles the chat. -/
theorem receive_hydrated {arrival : Arrival deliveries}
    (hhydrated : Hydrated intake.db chat.channel) (hdecode : decodeChat arrival.event = some chat) :
    receive intake arrival =
      (intake.settle json arrival.event chat).removeQuarantinedEvent arrival.event.id := by
  have hgate := chatAdmission_eq intake.db ⟨chat, hdecode, rfl⟩
  rw [if_pos hhydrated] at hgate
  rw [receive, materializeKindChat, hdecode, settle]
  dsimp only
  by_cases hadmitted : Admitted intake.db chat.channel arrival.event
  · rw [if_pos hadmitted] at hgate ⊢
    rw [materializeChat, hgate]
  · rw [if_neg hadmitted] at hgate ⊢
    rw [materializeChat, hgate]

/-- And so does the replay of its text. -/
theorem replayRow_hydrated {eventId eventJson : String}
    (hhydrated : Hydrated intake.db chat.channel) (hdecode : decodeChat event = some chat)
    (hread : json.eventFromJson eventJson = some event) :
    (intake.replayRow json eventId eventJson).2 =
      (intake.settle json event chat).removeQuarantinedEvent eventId := by
  have hgate := chatAdmission_eq intake.db ⟨chat, hdecode, rfl⟩
  rw [if_pos hhydrated] at hgate
  rw [replayRow, hread, Option.bind_some, hdecode, Option.map_some, settle]
  dsimp only
  by_cases hadmitted : Admitted intake.db chat.channel event
  · rw [if_pos hadmitted] at hgate ⊢
    rw [hgate]
  · rw [if_neg hadmitted] at hgate ⊢
    rw [hgate]

end Settle

section Receive

variable {json : WireJson} {deliveries : Deliveries json} {start intake : Intake}
  {channelH : String} {arrival : Arrival deliveries}

/-- Under a complete roster a chat is admitted or turned away at once. -/
theorem receive_admits (hkept : Undisturbed start intake) (hhydrated : Hydrated start.db channelH)
    (hchannel : OfChannel channelH arrival.event) :
    Admits json start.db channelH [arrival.event] intake (receive intake arrival) := by
  obtain ⟨chat, hdecode, rfl⟩ := hchannel
  rw [receive_hydrated ((hkept.hydrated_iff chat.channel).mpr hhydrated) hdecode]
  exact (settle_admits hkept arrival.verified hdecode).sameTables ⟨rfl, rfl, rfl, rfl⟩

/-- Then it leaves no row in the quarantine. -/
theorem receive_quarantine (hhydrated : Hydrated intake.db channelH)
    (hchannel : OfChannel channelH arrival.event) :
    (receive intake arrival).quarantine =
      intake.quarantine.deleteWhere (fun row => row.id = arrival.event.id) := by
  obtain ⟨chat, hdecode, rfl⟩ := hchannel
  rw [receive_hydrated hhydrated hdecode]
  show (settle _ _ _ _).quarantine.deleteWhere _ = _
  rw [settle_quarantine]

/-- Without a complete roster it is quarantined. -/
theorem receive_unhydrated (hnot : ¬ Hydrated intake.db channelH)
    (hchannel : OfChannel channelH arrival.event) :
    receive intake arrival = intake.quarantineChat json arrival.event
      "membership snapshot not hydrated" arrival.now := by
  have hgate := chatAdmission_eq intake.db hchannel
  rw [if_neg hnot] at hgate
  obtain ⟨chat, hdecode, rfl⟩ := hchannel
  rw [receive, materializeKindChat, hdecode]
  dsimp only
  rw [materializeChat, hgate]

end Receive

/-! ## One roster -/

/-- The database after the snapshot, before anything is replayed. -/
def rostered (intake : Intake) (channelH : String) (snapshot : RosterSnapshot) : Intake :=
  { intake with db := intake.db.materializeRoster channelH snapshot }

def hydrate (json : WireJson) (intake : Intake) (channelH : String) (snapshot : RosterSnapshot) :
    Intake :=
  (intake.materializeSnapshot json channelH snapshot).2

/-- The chats whose texts wait for the roster of the channel. -/
def waiting (json : WireJson) (intake : Intake) (channelH : String) : List Event :=
  (intake.quarantinedChatEventsForChannel channelH).filterMap
    (fun row => json.eventFromJson row.2)

/-- A snapshot writes rosters only. -/
theorem rostered_sameTables (intake : Intake) (channelH : String) (snapshot : RosterSnapshot) :
    SameTables (intake.rostered channelH snapshot) intake ∧
      (intake.rostered channelH snapshot).db.store = intake.db.store := by
  have hframe : (intake.db.materializeRoster channelH snapshot).events = intake.db.events ∧
      (intake.db.materializeRoster channelH snapshot).store = intake.db.store := by
    rw [Database.materializeRoster_eq]
    refine commit_invariant (I := fun after : Database => after.events = intake.db.events ∧
      after.store = intake.db.store) ⟨rfl, rfl⟩ ?_
    intro replaced after hok
    unfold Database.replaceRole at hok
    split at hok
    · simp only [pure_eq_ok, Prod.mk.injEq] at hok
      obtain ⟨_, rfl⟩ := hok
      exact ⟨rfl, rfl⟩
    · simp only [bind_eq_ok, pure_eq_ok, Prod.mk.injEq] at hok
      obtain ⟨_, _, _, rfl⟩ := hok
      exact ⟨rfl, rfl⟩
  exact ⟨⟨hframe.1, rfl, rfl, congrArg Store.inbox hframe.2⟩, hframe.2⟩

/-- A snapshot completes no other roster. -/
theorem rostered_hydrated_iff {intake : Intake} {channelH other : String}
    {snapshot : RosterSnapshot} (hother : other ≠ channelH) :
    Hydrated (intake.rostered channelH snapshot).db other ↔ Hydrated intake.db other := by
  have hsets : ∀ role, (intake.db.materializeRoster channelH snapshot).channelMemberSets.find?
      (other, role) = intake.db.channelMemberSets.find? (other, role) := by
    intro role
    rw [Database.materializeRoster_eq]
    refine commit_invariant (I := fun after : Database =>
      after.channelMemberSets.find? (other, role) =
        intake.db.channelMemberSets.find? (other, role)) rfl ?_
    intro replaced after hok
    unfold Database.replaceRole at hok
    split at hok
    · simp only [pure_eq_ok, Prod.mk.injEq] at hok
      obtain ⟨_, rfl⟩ := hok
      rfl
    · simp only [bind_eq_ok, pure_eq_ok, Prod.mk.injEq] at hok
      obtain ⟨_, _, _, rfl⟩ := hok
      dsimp only
      rw [Table.find?_upsert, if_neg (fun heq => hother (congrArg Prod.fst heq))]
  rw [Hydrated, Hydrated, Database.hasChannelMembershipSnapshot,
    Database.hasChannelMembershipSnapshot, rostered, hsets, hsets]

section Roster

variable {json : WireJson} {deliveries : Deliveries json} {start intake : Intake}
  {channelH : String} {snapshot : RosterSnapshot}

/-- A fold over chats of a channel, each of which is admitted or turned away. -/
theorem Admits.fold {σ ι : Type} {step : σ → ι → σ} {view : σ → Intake} {read : ι → Option Event}
    {inputs : List ι} {state : σ}
    (hkeep : ∀ state input, Undisturbed (view state) (view (step state input)))
    (hstep : ∀ input ∈ inputs, ∃ event, read input = some event ∧ deliveries.Verified event ∧
      ∀ state, Undisturbed start (view state) →
        Admits json start.db channelH [event] (view state) (view (step state input)))
    (hkept : Undisturbed start (view state)) :
    Admits json start.db channelH (inputs.filterMap read) (view state)
      (view (inputs.foldl step state)) := by
  induction inputs generalizing state with
  | nil => exact .of_same (.refl _)
  | cons input rest ih =>
      obtain ⟨event, hread, hverified, hadmits⟩ := hstep input List.mem_cons_self
      have hlater : ∀ later ∈ rest, _ := fun later hmem =>
        hstep later (List.mem_cons_of_mem input hmem)
      have hnext : Undisturbed start (view (step state input)) := hkept.trans (hkeep state input)
      rw [List.filterMap_cons_some hread]
      refine (hadmits state hkept).append (ih hlater hnext) ?_
      intro left hleft right hright hid
      obtain ⟨later, hmem, hlaterRead⟩ := List.mem_filterMap.mp hright
      obtain ⟨other, hother, hotherVerified, -⟩ := hlater later hmem
      have heq : other = right := Option.some.inj (hother.symm.trans hlaterRead)
      rw [List.mem_singleton.mp hleft] at hid ⊢
      exact deliveries.eq_of_id event right hverified (heq ▸ hotherVerified) hid

/-- What the quarantine holds for a channel. -/
theorem quarantined_read (hkept : intake.quarantine.All (Kept deliveries))
    {row : String × String} (hrow : row ∈ intake.quarantinedChatEventsForChannel channelH) :
    ∃ event, json.eventFromJson row.2 = some event ∧ deliveries.Verified event ∧
      OfChannel channelH event ∧ row.1 = event.id ∧ event.createdAt ≤ Rust.i64Max ∧
      (intake.quarantine.find? event.id).isSome = true := by
  simp only [quarantinedChatEventsForChannel, List.mem_map, List.mem_insertionSort,
    Table.mem_select] at hrow
  obtain ⟨held, ⟨hmem, hchannel, -⟩, rfl⟩ := hrow
  obtain ⟨-, event, hverified, hread, hof, hid, hbound⟩ := hkept held hmem
  refine ⟨event, hread, hverified, hchannel ▸ hof, hid, hbound, ?_⟩
  have hfind : intake.quarantine.find? event.id = some held :=
    Table.find?_eq_some_iff.mpr ⟨hmem, hid⟩
  rw [hfind]
  rfl

theorem mem_waiting_iff (hkept : intake.quarantine.All (Kept deliveries)) (event : Event) :
    event ∈ intake.waiting json channelH ↔ deliveries.Verified event ∧ OfChannel channelH event ∧
      event.createdAt ≤ Rust.i64Max ∧ (intake.quarantine.find? event.id).isSome = true := by
  constructor
  · intro hwaiting
    obtain ⟨row, hrow, hread⟩ := List.mem_filterMap.mp hwaiting
    obtain ⟨other, hother, hverified, hof, -, hbound, hheld⟩ := quarantined_read hkept hrow
    have heq : other = event := Option.some.inj (hother.symm.trans hread)
    subst heq
    exact ⟨hverified, hof, hbound, hheld⟩
  · intro hheld
    obtain ⟨hverified, hof, -, hsome⟩ := hheld
    obtain ⟨held, hfind⟩ := Option.isSome_iff_exists.mp hsome
    have hmem := Table.mem_of_find? hfind
    obtain ⟨hkind, other, hother, hread, hotherOf, hid, -⟩ := hkept held hmem
    -- the row of the id holds the text of the same event
    have hkey : held.id = event.id := Table.key_of_find? hfind
    have heq : other = event :=
      deliveries.eq_of_id other event hother hverified (hid.symm.trans hkey)
    subst heq
    have hchannel : held.channelH = channelH := hotherOf.unique hof
    refine List.mem_filterMap.mpr ⟨(held.id, held.eventJson), ?_, hread⟩
    simp only [quarantinedChatEventsForChannel, List.mem_map, List.mem_insertionSort,
      Table.mem_select]
    exact ⟨held, ⟨hmem, hchannel, hkind⟩, rfl⟩

/-- The replay of a channel settles every chat that waits for it. -/
theorem replay_admits (hheld : start.quarantine.All (Kept deliveries))
    (hhydrated : Hydrated start.db channelH) :
    Admits json start.db channelH (start.waiting json channelH) start
      (start.replayQuarantinedChat json channelH).2 := by
  rw [replayQuarantinedChat, if_neg (by simp [hhydrated.2])]
  refine @Admits.fold json deliveries start channelH _ _ (replayNext json) Prod.snd _ _
    (false, start) ?_ ?_ (.refl start)
  · intro state row
    exact replayRow_undisturbed json state.2 row.1 row.2
  · intro row hrow
    obtain ⟨event, hread, hverified, hof, -⟩ := quarantined_read hheld hrow
    refine ⟨event, hread, hverified, ?_⟩
    intro state hkept
    obtain ⟨chat, hdecode, rfl⟩ := hof
    show Admits json start.db chat.channel [event] state.2
      (replayRow json state.2 row.1 row.2).2
    rw [replayRow_hydrated ((hkept.hydrated_iff chat.channel).mpr hhydrated) hdecode hread]
    exact (settle_admits hkept hverified hdecode).sameTables ⟨rfl, rfl, rfl, rfl⟩

/-- And takes every one of its rows out of the quarantine. -/
theorem replay_quarantine {rows : List (String × String)}
    (hrows : ∀ row ∈ rows, ∃ event, json.eventFromJson row.2 = some event ∧
      OfChannel channelH event)
    {state : Bool × Intake} (hkept : Undisturbed start state.2)
    (hhydrated : Hydrated start.db channelH) {held : QuarantinedEvent}
    (hheld : held ∈ (rows.foldl (replayNext json) state).2.quarantine.rows) :
    held ∈ state.2.quarantine.rows ∧ ∀ row ∈ rows, row.1 ≠ held.id := by
  induction rows generalizing state with
  | nil => exact ⟨hheld, fun _ hrow => absurd hrow List.not_mem_nil⟩
  | cons row rest ih =>
      have hnext : Undisturbed start (replayNext json state row).2 :=
        hkept.trans (replayRow_undisturbed json state.2 row.1 row.2)
      obtain ⟨hmem, hothers⟩ :=
        ih (fun later hlater => hrows later (List.mem_cons_of_mem row hlater)) hnext hheld
      obtain ⟨event, hread, chat, hdecode, rfl⟩ := hrows row List.mem_cons_self
      have hcurrent := (hkept.hydrated_iff chat.channel).mpr hhydrated
      have hrow : (replayRow json state.2 row.1 row.2).2 = _ :=
        replayRow_hydrated hcurrent hdecode hread
      have hquarantine : (replayNext json state row).2.quarantine =
          state.2.quarantine.deleteWhere (fun held => held.id = row.1) := by
        show (replayRow json state.2 row.1 row.2).2.quarantine = _
        rw [hrow]
        show (settle _ _ _ _).quarantine.deleteWhere _ = _
        rw [settle_quarantine]
      rw [hquarantine] at hmem
      have hkeptRow : ¬ held.id = row.1 := of_decide_eq_true (List.mem_filter.mp hmem).2
      refine ⟨Table.mem_of_mem_deleteWhere hmem, ?_⟩
      intro later hlater
      rcases List.mem_cons.mp hlater with rfl | hlater
      · exact fun heq => hkeptRow heq.symm
      · exact hothers later hlater

/-- While the roster is not complete the replay does nothing. -/
theorem replay_unhydrated (hheld : start.quarantine.All (Kept deliveries))
    (hnot : ¬ Hydrated start.db channelH) :
    (start.replayQuarantinedChat json channelH).2 = start := by
  unfold replayQuarantinedChat
  by_cases hsnapshot : start.db.hasChannelMembershipSnapshot channelH = false
  · rw [if_pos hsnapshot]
  · rw [if_neg hsnapshot]
    have hempty : ∀ row ∈ start.quarantinedChatEventsForChannel channelH,
        (start.replayRow json row.1 row.2).2 = start := by
      intro row hrow
      obtain ⟨event, hread, -, hof, -⟩ := quarantined_read hheld hrow
      have hgate := chatAdmission_eq start.db hof
      rw [if_neg hnot] at hgate
      obtain ⟨chat, hdecode, -⟩ := hof
      rw [replayRow, hread, Option.bind_some, hdecode, Option.map_some]
      dsimp only
      rw [hgate]
    have hfold : ∀ (rows : List (String × String)) (woke : Bool),
        (∀ row ∈ rows, (start.replayRow json row.1 row.2).2 = start) →
          (rows.foldl (replayNext json) (woke, start)).2 = start := by
      intro rows
      induction rows with
      | nil => intro woke _; rfl
      | cons row rest ih =>
          intro woke hall
          have hrow : replayNext json (woke, start) row =
              (woke || (start.replayRow json row.1 row.2).1, start) :=
            Prod.ext rfl (hall row List.mem_cons_self)
          rw [List.foldl_cons, hrow]
          exact ih _ (fun later hlater => hall later (List.mem_cons_of_mem row hlater))
    exact hfold _ false hempty

/-- A snapshot that completes the roster settles the chats that waited for it. -/
theorem hydrate_admits (hheld : intake.quarantine.All (Kept deliveries))
    (hhydrated : Hydrated (intake.rostered channelH snapshot).db channelH) :
    Admits json (intake.rostered channelH snapshot).db channelH (intake.waiting json channelH)
      (intake.rostered channelH snapshot) (hydrate json intake channelH snapshot) :=
  @replay_admits json deliveries (intake.rostered channelH snapshot) channelH hheld hhydrated

theorem hydrate_undisturbed :
    Undisturbed (intake.rostered channelH snapshot) (hydrate json intake channelH snapshot) :=
  replayQuarantinedChat_undisturbed json (intake.rostered channelH snapshot) channelH

/-- It leaves no row of the channel in the quarantine, and adds none. -/
theorem hydrate_quarantine (hheld : intake.quarantine.All (Kept deliveries))
    {held : QuarantinedEvent}
    (hmem : held ∈ (hydrate json intake channelH snapshot).quarantine.rows) :
    held ∈ intake.quarantine.rows ∧
      (Hydrated (intake.rostered channelH snapshot).db channelH → held.channelH ≠ channelH) := by
  by_cases hhydrated : Hydrated (intake.rostered channelH snapshot).db channelH
  · have hrows : ∀ row ∈ (intake.rostered channelH snapshot).quarantinedChatEventsForChannel
        channelH, ∃ event, json.eventFromJson row.2 = some event ∧ OfChannel channelH event := by
      intro row hrow
      obtain ⟨event, hread, -, hof, -⟩ :=
        @quarantined_read json deliveries (intake.rostered channelH snapshot) channelH hheld row hrow
      exact ⟨event, hread, hof⟩
    have hafter : hydrate json intake channelH snapshot =
        (((intake.rostered channelH snapshot).quarantinedChatEventsForChannel channelH).foldl
          (replayNext json) (false, intake.rostered channelH snapshot)).2 := by
      show ((intake.rostered channelH snapshot).replayQuarantinedChat json channelH).2 = _
      rw [replayQuarantinedChat, if_neg (by simp [hhydrated.2])]
    rw [hafter] at hmem
    obtain ⟨hbefore, hothers⟩ := replay_quarantine hrows (.refl _) hhydrated hmem
    refine ⟨hbefore, ?_⟩
    intro _ hchannel
    obtain ⟨hkind, -⟩ := hheld held hbefore
    refine hothers (held.id, held.eventJson) ?_ rfl
    simp only [quarantinedChatEventsForChannel, List.mem_map, List.mem_insertionSort,
      Table.mem_select]
    exact ⟨held, ⟨hbefore, hchannel, hkind⟩, rfl⟩
  · have hafter : hydrate json intake channelH snapshot = intake.rostered channelH snapshot :=
      @replay_unhydrated json deliveries (intake.rostered channelH snapshot) channelH hheld hhydrated
    rw [hafter] at hmem
    exact ⟨hmem, fun hcomplete => absurd hcomplete hhydrated⟩

end Roster

end Intake

end Mosaico
