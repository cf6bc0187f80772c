import Mosaico.Fabric.Messages
import Mosaico.Fabric.Rosters

/-!
# The intake of chat

Every chat event that the relay delivers passes the admission gate of its channel.
An admitted one is logged, recorded as a message and routed to the inboxes of the
sessions it names; one whose channel has no complete roster yet is quarantined, and
replayed when a roster snapshot arrives.

What the tail shows beside the message, such as the display name of its sender, is
left out.
-/

namespace Mosaico

open Relational Transition

/-! ## Events -/

/-- A signed relay event; its id is a hash of the rest. -/
structure Event where
  id : String
  kind : Nat
  pubkey : String
  createdAt : Nat
  content : String
  tags : List (List String)
  deriving DecidableEq, Repr

/-- The value of a tag with the name. -/
def tagValue (name : String) : List String → Option String
  | key :: value :: _ => if key = name then some value else none
  | _ => none

/-- The first value under the name. -/
def nostrTag (event : Event) (name : String) : Option String :=
  event.tags.findSome? (tagValue name)

def allTagValues (event : Event) (name : String) : List String :=
  event.tags.filterMap (tagValue name)

def collectPPubkeys (event : Event) : List String := allTagValues event "p"

structure ChatMessage where
  fromPubkey : String
  channel : String
  body : String
  mentionedPubkeys : List String
  deriving DecidableEq, Repr

/-- The chat message of an event, if it is one. -/
def decodeChat (event : Event) : Option ChatMessage :=
  if event.kind = kindChat then
    (nostrTag event "h").map (fun channel =>
      { fromPubkey := event.pubkey
        channel := channel
        body := event.content
        mentionedPubkeys := allTagValues event "p" })
  else none

/-- The JSON texts in which the database keeps tags and events. -/
structure WireJson where
  tagsToJson : List (List String) → String
  eventToJson : Event → Option String
  eventFromJson : String → Option Event

def toRelayEvent (json : WireJson) (event : Event) : RelayEvent where
  id := event.id
  kind := event.kind
  pubkey := event.pubkey
  createdAt := event.createdAt
  channelH := (nostrTag event "h").getD ""
  dTag := (nostrTag event "d").getD ""
  content := event.content
  tagsJson := json.tagsToJson event.tags

/-! ## Rows -/

inductive MessageDirection where
  | inbound
  | outbound
  deriving DecidableEq, Repr

/-- A line of the channel read model. -/
structure Message where
  messageId : String
  threadId : String
  channelH : String
  authorPubkey : String
  body : String
  createdAt : Nat
  direction : MessageDirection
  syncState : String
  nativeEventId : Option String
  error : Option String
  deriving DecidableEq, Repr

structure MessageRecipient where
  messageId : String
  recipientPubkey : String
  deliveredAt : Nat
  deriving DecidableEq, Repr

def MessageRecipient.key (row : MessageRecipient) : String × String :=
  (row.messageId, row.recipientPubkey)

/-- An event held out of the log until it can be admitted. -/
structure QuarantinedEvent where
  id : String
  kind : Nat
  pubkey : String
  createdAt : Nat
  channelH : String
  eventJson : String
  reason : String
  quarantinedAt : Nat
  deriving DecidableEq, Repr

/-- The database with the tables that the intake of chat writes. -/
structure Intake where
  db : Database
  messages : Table Message.messageId
  messageRecipients : Table MessageRecipient.key
  quarantine : Table QuarantinedEvent.id

inductive MessageError where
  | store (error : StoreError)
  | emptyMessageId
  deriving DecidableEq, Repr

namespace Database

/-- Both role snapshots of the channel have been materialized. -/
def hasChannelMembershipSnapshot (db : Database) (channelH : String) : Bool :=
  (db.channelMemberSets.find? (channelH, RosterRole.admin.asStr)).isSome &&
    (db.channelMemberSets.find? (channelH, RosterRole.member.asStr)).isSome

def isChannelMember (db : Database) (channelH pubkey : String) : Bool :=
  (db.channelMembers.find? (channelH, pubkey)).isSome

end Database

namespace Intake

def empty : Intake where
  db := Database.empty
  messages := Table.empty
  messageRecipients := Table.empty
  quarantine := Table.empty

def setStore (intake : Intake) (store : Store) : Intake :=
  { intake with db := { intake.db with store := store } }

/-! ## Messages -/

/-- Record or refresh a message.  A message that was sent from here stays outbound. -/
def recordMessage (intake : Intake) (msg : Message) : Except MessageError (String × Intake) := do
  let messageId := Rust.trim msg.messageId
  ensure (messageId ≠ "") .emptyMessageId
  (bindParams [msg.createdAt]).mapError MessageError.store
  let row := { msg with
    messageId := messageId
    nativeEventId := msg.nativeEventId.filter (· ≠ "")
    error := msg.error.filter (· ≠ "") }
  return (messageId, { intake with
    messages := intake.messages.upsert row (fun old => { row with
      messageId := old.messageId
      direction := if old.direction = .outbound then .outbound else row.direction
      nativeEventId := row.nativeEventId.or old.nativeEventId }) })

def addMessageRecipient (intake : Intake) (messageId recipientPubkey : String)
    (deliveredAt : Option Nat) : Except StoreError (Unit × Intake) := do
  let time := deliveredAt.getD 0
  bindParams [time]
  return ((), { intake with
    messageRecipients := intake.messageRecipients.upsert
      { messageId := messageId, recipientPubkey := recipientPubkey, deliveredAt := time }
      (fun old => { old with deliveredAt := max old.deliveredAt time }) })

/-- A recipient without a delivery yet.  A failure is only logged. -/
def addRecipient (intake : Intake) (messageId recipient : String) : Intake :=
  commit (intake.addMessageRecipient messageId recipient none) intake

def addMessageRecipients (intake : Intake) (messageId : String) (recipients : List String) :
    Intake :=
  recipients.foldl (fun current recipient => current.addRecipient messageId recipient) intake

/-! ## Quarantine -/

def quarantineEvent (intake : Intake) (event : RelayEvent) (eventJson reason : String)
    (quarantinedAt : Nat) : Except StoreError (Bool × Intake) := do
  bindParams [event.createdAt, quarantinedAt]
  return (true, { intake with
    quarantine := intake.quarantine.upsert
      { id := event.id
        kind := event.kind
        pubkey := event.pubkey
        createdAt := event.createdAt
        channelH := event.channelH
        eventJson := eventJson
        reason := reason
        quarantinedAt := quarantinedAt }
      (fun old => { old with reason := reason, quarantinedAt := quarantinedAt }) })

/-- The quarantined chat of a channel, oldest first. -/
def quarantinedChatEventsForChannel (intake : Intake) (channelH : String) :
    List (String × String) :=
  (((intake.quarantine.select (fun row => row.channelH = channelH ∧ row.kind = kindChat)).insertionSort
      (fun left right => left.id ≤ right.id)).insertionSort
    (fun left right => left.createdAt ≤ right.createdAt)).map
    (fun row => (row.id, row.eventJson))

def removeQuarantinedEvent (intake : Intake) (id : String) : Intake :=
  { intake with quarantine := intake.quarantine.deleteWhere (fun row => row.id = id) }

def quarantineChat (json : WireJson) (intake : Intake) (event : Event) (reason : String)
    (now : Nat) : Intake :=
  match json.eventToJson event with
  | none => intake
  | some eventJson =>
      commit (intake.quarantineEvent (toRelayEvent json event) eventJson reason now) intake

/-! ## The materializer -/

/-- The decoded event for the tail, and whether a mention was newly routed. -/
structure MaterializationOutcome where
  tail : Option ChatMessage
  wakeMentions : Bool
  deriving DecidableEq, Repr

def MaterializationOutcome.default : MaterializationOutcome := ⟨none, false⟩

def materializeEvent (json : WireJson) (intake : Intake) (event : Event) : Intake :=
  { intake with
    db := commit (intake.db.insertEvent (toRelayEvent json event)) intake.db }

/-- Without the message its recipients are not recorded either. -/
def materializeChatMessage (intake : Intake) (event : Event) (chat : ChatMessage) : Intake :=
  match intake.recordMessage
    { messageId := event.id
      threadId := chat.channel
      channelH := chat.channel
      authorPubkey := event.pubkey
      body := chat.body
      createdAt := event.createdAt
      direction := .inbound
      syncState := "accepted"
      nativeEventId := some event.id
      error := none } with
  | .error _ => intake
  | .ok (_, after) => after.addMessageRecipients event.id (collectPPubkeys event)

/-- Enqueue a mention and record its recipient. -/
def enqueueMention (intake : Intake) (eventId targetPubkey fromPubkey channelH body : String)
    (createdAt : Nat) : Bool × Intake :=
  let enqueued := intake.db.store.enqueueInbox eventId targetPubkey fromPubkey channelH body
    createdAt
  let after := intake.setStore (commit enqueued intake.db.store)
  (changed enqueued, after.addRecipient eventId targetPubkey)

/-- One target of `route_chat`: a known session that has a route in the channel. -/
def routeTo (event : Event) (chat : ChatMessage) (intake : Intake) (targetPubkey : String) :
    Bool × Intake :=
  if targetPubkey = event.pubkey then (false, intake)
  else match intake.db.store.getSession targetPubkey with
    | none => (false, intake)
    | some session =>
        if intake.db.store.hasSessionRoute session.pubkey chat.channel = true then
          intake.enqueueMention event.id session.pubkey event.pubkey chat.channel chat.body
            event.createdAt
        else (false, intake)

def routeNext (event : Event) (chat : ChatMessage) (routed : Bool × Intake)
    (targetPubkey : String) : Bool × Intake :=
  let (woke, after) := routeTo event chat routed.2 targetPubkey
  (routed.1 || woke, after)

/-- Route a chat message to every local session that it names. -/
def routeChat (intake : Intake) (event : Event) (chat : ChatMessage) : Bool × Intake :=
  (collectPPubkeys event).foldl (routeNext event chat) (false, intake)

/-! ## Admission -/

inductive ChatAdmission where
  | accepted
  | unhydrated
  | rejected
  deriving DecidableEq, Repr

def chatAdmission (db : Database) (event : Event) : ChatAdmission :=
  let channelH := (nostrTag event "h").getD ""
  if channelH = "" ∨ db.hasChannelMembershipSnapshot channelH = false then .unhydrated
  else if db.isChannelMember channelH event.pubkey = true then .accepted
  else .rejected

def acceptChat (json : WireJson) (intake : Intake) (event : Event) (chat : ChatMessage) :
    MaterializationOutcome × Intake :=
  let logged := intake.materializeEvent json event
  let recorded := logged.materializeChatMessage event chat
  let (woke, after) := recorded.routeChat event chat
  (⟨some { chat with fromPubkey := event.pubkey }, woke⟩, after)

def materializeChat (json : WireJson) (intake : Intake) (event : Event) (chat : ChatMessage)
    (now : Nat) : MaterializationOutcome × Intake :=
  match chatAdmission intake.db event with
  | .accepted =>
      let (outcome, after) := intake.acceptChat json event chat
      (outcome, after.removeQuarantinedEvent event.id)
  | .unhydrated =>
      (.default, intake.quarantineChat json event "membership snapshot not hydrated" now)
  | .rejected => (.default, intake.removeQuarantinedEvent event.id)

/-- Materialize an event of kind 9.  Without a channel it is not a chat message, and is
only logged. -/
def materializeKindChat (json : WireJson) (intake : Intake) (event : Event) (now : Nat) :
    MaterializationOutcome × Intake :=
  match decodeChat event with
  | none => (.default, intake.materializeEvent json event)
  | some chat => intake.materializeChat json event chat now

/-- One quarantined row of a replay. -/
def replayRow (json : WireJson) (intake : Intake) (eventId eventJson : String) : Bool × Intake :=
  match (json.eventFromJson eventJson).bind (fun event =>
    (decodeChat event).map (fun chat => (event, chat))) with
  | none => (false, intake.removeQuarantinedEvent eventId)
  | some (event, chat) =>
      match chatAdmission intake.db event with
      | .accepted =>
          let (outcome, after) := intake.acceptChat json event chat
          (outcome.wakeMentions, after.removeQuarantinedEvent eventId)
      | .rejected => (false, intake.removeQuarantinedEvent eventId)
      | .unhydrated => (false, intake)

def replayNext (json : WireJson) (replayed : Bool × Intake) (row : String × String) :
    Bool × Intake :=
  let (woke, after) := replayRow json replayed.2 row.1 row.2
  (replayed.1 || woke, after)

def replayQuarantinedChat (json : WireJson) (intake : Intake) (channelH : String) :
    Bool × Intake :=
  if intake.db.hasChannelMembershipSnapshot channelH = false then (false, intake)
  else (intake.quarantinedChatEventsForChannel channelH).foldl (replayNext json) (false, intake)

/-- Materialize a roster snapshot, and replay what waited for it. -/
def materializeSnapshot (json : WireJson) (intake : Intake) (channelH : String)
    (snapshot : RosterSnapshot) : MaterializationOutcome × Intake :=
  let hydrated := { intake with db := intake.db.materializeRoster channelH snapshot }
  let (woke, after) := hydrated.replayQuarantinedChat json channelH
  (⟨none, woke⟩, after)

/-! ## What the intake of chat leaves alone -/

/-- The session runs as before and was created when it was. -/
structure SameSession (row next : Session) : Prop where
  runtimeState : next.runtimeState = row.runtimeState
  createdAt : next.createdAt = row.createdAt

/-- The rosters, the routes, the claims and what routing reads of the sessions. -/
structure Undisturbed (before after : Intake) : Prop where
  channelMembers : after.db.channelMembers = before.db.channelMembers
  channelMemberSets : after.db.channelMemberSets = before.db.channelMemberSets
  sessionChannels : after.db.store.sessionChannels = before.db.store.sessionChannels
  eventClaims : after.db.store.eventClaims = before.db.store.eventClaims
  sessions : before.db.store.sessions.RelatedBy SameSession after.db.store.sessions

theorem Undisturbed.of_db {before after : Intake} (heq : after.db = before.db) :
    Undisturbed before after := by
  constructor
  · rw [heq]
  · rw [heq]
  · rw [heq]
  · rw [heq]
  · rw [heq]
    exact Table.RelatedBy.refl (fun _ => ⟨rfl, rfl⟩) _

theorem Undisturbed.refl (intake : Intake) : Undisturbed intake intake := .of_db rfl

theorem Undisturbed.trans {before middle after : Intake} (hfirst : Undisturbed before middle)
    (hsecond : Undisturbed middle after) : Undisturbed before after where
  channelMembers := hsecond.channelMembers.trans hfirst.channelMembers
  channelMemberSets := hsecond.channelMemberSets.trans hfirst.channelMemberSets
  sessionChannels := hsecond.sessionChannels.trans hfirst.sessionChannels
  eventClaims := hsecond.eventClaims.trans hfirst.eventClaims
  sessions := by
    intro k
    have hleft := hfirst.sessions k
    have hright := hsecond.sessions k
    generalize before.db.store.sessions.find? k = row at hleft
    generalize middle.db.store.sessions.find? k = between at hleft hright
    generalize after.db.store.sessions.find? k = next at hright
    cases hleft with
    | none =>
        cases hright with
        | none => exact .none
    | some hbefore =>
        cases hright with
        | some hafter =>
            exact .some ⟨hafter.runtimeState.trans hbefore.runtimeState,
              hafter.createdAt.trans hbefore.createdAt⟩

/-- A fold of steps that each leave the rest alone. -/
theorem Undisturbed.foldl {α β : Type} (step : β × Intake → α → β × Intake)
    (hstep : ∀ current item, Undisturbed current.2 (step current item).2) (items : List α)
    (start : β × Intake) : Undisturbed start.2 (items.foldl step start).2 := by
  induction items generalizing start with
  | nil => exact .refl start.2
  | cons item rest ih => exact (hstep start item).trans (ih (step start item))

variable {json : WireJson} {intake : Intake} {event : Event} {chat : ChatMessage}

theorem addRecipient_db (intake : Intake) (messageId recipient : String) :
    (intake.addRecipient messageId recipient).db = intake.db := by
  refine commit_invariant (I := fun after : Intake => after.db = intake.db) rfl ?_
  intro value after hok
  simp only [addMessageRecipient, bind_eq_ok, pure_eq_ok, Prod.mk.injEq] at hok
  obtain ⟨_, _, _, rfl⟩ := hok
  rfl

theorem addMessageRecipients_db (intake : Intake) (messageId : String) (recipients : List String) :
    (intake.addMessageRecipients messageId recipients).db = intake.db := by
  unfold addMessageRecipients
  induction recipients generalizing intake with
  | nil => rfl
  | cons recipient rest ih =>
      rw [List.foldl_cons, ih, addRecipient_db]

theorem materializeChatMessage_db (intake : Intake) (event : Event) (chat : ChatMessage) :
    (intake.materializeChatMessage event chat).db = intake.db := by
  unfold materializeChatMessage
  split
  · rfl
  · rename_i messageId after hok
    rw [addMessageRecipients_db]
    simp only [recordMessage, bind_eq_ok, pure_eq_ok, Prod.mk.injEq] at hok
    obtain ⟨_, _, _, _, _, rfl⟩ := hok
    rfl

/-- An arrival touches the inbox and the clock of its recipient. -/
theorem setStore_enqueue_undisturbed (intake : Intake)
    (eventId targetPubkey fromPubkey channelH body : String) (createdAt : Nat) :
    Undisturbed intake (intake.setStore (commit (intake.db.store.enqueueInbox eventId targetPubkey
      fromPubkey channelH body createdAt) intake.db.store)) := by
  refine commit_invariant (I := fun after : Store => Undisturbed intake (intake.setStore after))
    (.refl intake) ?_
  intro fresh after hok
  simp only [Store.enqueueInbox, bind_eq_ok] at hok
  obtain ⟨_, _, hok⟩ := hok
  split at hok
  · simp only [pure_eq_ok, Prod.mk.injEq] at hok
    obtain ⟨_, rfl⟩ := hok
    refine ⟨rfl, rfl, rfl, rfl, ?_⟩
    dsimp only [setStore]
    exact Table.RelatedBy.updateWhere (fun _ => ⟨rfl, rfl⟩) (fun _ _ _ => ⟨rfl, rfl⟩)
  · simp only [pure_eq_ok, Prod.mk.injEq] at hok
    obtain ⟨_, rfl⟩ := hok
    exact ⟨rfl, rfl, rfl, rfl, Table.RelatedBy.refl (fun _ => ⟨rfl, rfl⟩) _⟩

theorem enqueueMention_undisturbed (intake : Intake)
    (eventId targetPubkey fromPubkey channelH body : String) (createdAt : Nat) :
    Undisturbed intake (intake.enqueueMention eventId targetPubkey fromPubkey channelH body
      createdAt).2 :=
  (setStore_enqueue_undisturbed intake eventId targetPubkey fromPubkey channelH body
    createdAt).trans (.of_db (addRecipient_db _ eventId targetPubkey))

theorem routeTo_undisturbed (event : Event) (chat : ChatMessage) (intake : Intake)
    (targetPubkey : String) : Undisturbed intake (routeTo event chat intake targetPubkey).2 := by
  unfold routeTo
  split
  · exact .refl intake
  · split
    · exact .refl intake
    · split
      · exact enqueueMention_undisturbed intake _ _ _ _ _ _
      · exact .refl intake

theorem materializeEvent_undisturbed (json : WireJson) (intake : Intake) (event : Event) :
    Undisturbed intake (intake.materializeEvent json event) := by
  refine commit_invariant (I := fun after : Database =>
    Undisturbed intake { intake with db := after }) (.refl intake) ?_
  intro inserted after hok
  simp only [Database.insertEvent, bind_eq_ok] at hok
  obtain ⟨_, _, hok⟩ := hok
  split at hok
  · simp only [pure_eq_ok, Prod.mk.injEq] at hok
    obtain ⟨_, rfl⟩ := hok
    exact .refl intake
  · simp only [pure_eq_ok, Prod.mk.injEq] at hok
    obtain ⟨_, rfl⟩ := hok
    exact ⟨rfl, rfl, rfl, rfl, Table.RelatedBy.refl (fun _ => ⟨rfl, rfl⟩) _⟩

theorem acceptChat_undisturbed (json : WireJson) (intake : Intake) (event : Event)
    (chat : ChatMessage) : Undisturbed intake (intake.acceptChat json event chat).2 := by
  have hlogged := materializeEvent_undisturbed json intake event
  have hrecorded : Undisturbed (intake.materializeEvent json event)
      ((intake.materializeEvent json event).materializeChatMessage event chat) :=
    .of_db (materializeChatMessage_db _ event chat)
  have hrouted := Undisturbed.foldl (routeNext event chat)
    (fun current targetPubkey => routeTo_undisturbed event chat current.2 targetPubkey)
    (collectPPubkeys event) (false,
      (intake.materializeEvent json event).materializeChatMessage event chat)
  exact (hlogged.trans hrecorded).trans hrouted

theorem quarantineChat_db (json : WireJson) (intake : Intake) (event : Event) (reason : String)
    (now : Nat) : (intake.quarantineChat json event reason now).db = intake.db := by
  unfold quarantineChat
  split
  · rfl
  · refine commit_invariant (I := fun after : Intake => after.db = intake.db) rfl ?_
    intro inserted after hok
    simp only [quarantineEvent, bind_eq_ok, pure_eq_ok, Prod.mk.injEq] at hok
    obtain ⟨_, _, _, rfl⟩ := hok
    rfl

theorem materializeChat_undisturbed (json : WireJson) (intake : Intake) (event : Event)
    (chat : ChatMessage) (now : Nat) :
    Undisturbed intake (intake.materializeChat json event chat now).2 := by
  unfold materializeChat
  split
  · exact (acceptChat_undisturbed json intake event chat).trans (.of_db rfl)
  · exact .of_db (quarantineChat_db json intake event _ now)
  · exact .of_db rfl

theorem materializeKindChat_undisturbed (json : WireJson) (intake : Intake) (event : Event)
    (now : Nat) : Undisturbed intake (intake.materializeKindChat json event now).2 := by
  unfold materializeKindChat
  split
  · exact materializeEvent_undisturbed json intake event
  · exact materializeChat_undisturbed json intake event _ now

theorem replayRow_undisturbed (json : WireJson) (intake : Intake) (eventId eventJson : String) :
    Undisturbed intake (intake.replayRow json eventId eventJson).2 := by
  unfold replayRow
  split
  · exact .of_db rfl
  · rename_i event chat _
    split
    · exact (acceptChat_undisturbed json intake event chat).trans (.of_db rfl)
    · exact .of_db rfl
    · exact .refl intake

theorem replayQuarantinedChat_undisturbed (json : WireJson) (intake : Intake)
    (channelH : String) : Undisturbed intake (intake.replayQuarantinedChat json channelH).2 := by
  unfold replayQuarantinedChat
  split
  · exact .refl intake
  · exact Undisturbed.foldl (replayNext json)
      (fun current row => replayRow_undisturbed json current.2 row.1 row.2) _ (false, intake)

end Intake

end Mosaico
