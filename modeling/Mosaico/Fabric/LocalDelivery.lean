import Mosaico.Fabric.Intake
import Mosaico.Runtime.Endpoints

/-!
# Local delivery of published chat

A chat that is sent from here is seeded into the read models and handed to local
inboxes at once, and the relay may echo it, before or afterwards, any number of
times.  Both ways write the same rows under the same keys, so what is left in the end
depends on the recipients alone: the local loop serves the sessions that run, the
echo the sessions that have a route in the channel.
-/

namespace Mosaico

open Relational Transition

/-! ## Publishing -/

/-- Which call published a chat: a send with its tagged pubkeys, or a reply to the
message of an author. -/
inductive ChannelCall where
  | send (tagged : List String)
  | reply (originalAuthor replyTo : String)
  deriving DecidableEq

/-- A chat message that was signed and published. -/
structure PublishedChat where
  call : ChannelCall
  fromPubkey : String
  channel : String
  body : String
  eventId : String
  createdAt : Nat
  deriving DecidableEq

namespace PublishedChat

def mentionedPubkeys (published : PublishedChat) : List String :=
  match published.call with
  | .send tagged => tagged
  | .reply originalAuthor _ => [originalAuthor]

/-- A send, as opposed to a reply, records the sessions it serves as recipients. -/
def isSend (published : PublishedChat) : Bool :=
  match published.call with
  | .send _ => true
  | .reply _ _ => false

def chat (published : PublishedChat) : ChatMessage where
  fromPubkey := published.fromPubkey
  channel := published.channel
  body := published.body
  mentionedPubkeys := published.mentionedPubkeys

/-- A reply names the message it answers. -/
def replyTags (published : PublishedChat) : List (List String) :=
  match published.call with
  | .send _ => []
  | .reply _ replyTo => if replyTo = "" then [] else [["e", replyTo]]

/-- The signed event. -/
def signed (published : PublishedChat) : Event where
  id := published.eventId
  kind := kindChat
  pubkey := published.fromPubkey
  createdAt := published.createdAt
  content := published.body
  tags := ["h", published.channel] ::
    (published.mentionedPubkeys.map (fun pubkey => ["p", pubkey]) ++ published.replyTags)

theorem collectPPubkeys_signed (published : PublishedChat) :
    collectPPubkeys published.signed = published.mentionedPubkeys := by
  have hmentions : ∀ pubkeys : List String,
      (pubkeys.map (fun pubkey => ["p", pubkey])).filterMap (tagValue "p") = pubkeys := by
    intro pubkeys
    induction pubkeys with
    | nil => rfl
    | cons pubkey rest ih =>
        rw [List.map_cons, List.filterMap_cons, ih]
        rfl
  have hreply : published.replyTags.filterMap (tagValue "p") = [] := by
    unfold replyTags
    split
    · rfl
    · split
      · rfl
      · rfl
  show (published.mentionedPubkeys.map (fun pubkey => ["p", pubkey]) ++
    published.replyTags).filterMap (tagValue "p") = _
  rw [List.filterMap_append, hmentions, hreply, List.append_nil]

theorem decodeChat_signed (published : PublishedChat) :
    decodeChat published.signed = some published.chat := by
  have hmentions : allTagValues published.signed "p" = published.mentionedPubkeys :=
    collectPPubkeys_signed published
  simp only [decodeChat, hmentions]
  rfl

end PublishedChat

namespace Intake

def chatRelayEvent (json : WireJson) (published : PublishedChat) : RelayEvent where
  id := published.eventId
  kind := kindChat
  pubkey := published.signed.pubkey
  createdAt := published.createdAt
  channelH := published.channel
  dTag := ""
  content := published.signed.content
  tagsJson := json.tagsToJson published.signed.tags

/-- Seed the log and the read models with a chat that was published from here. -/
def seedChatReadModels (json : WireJson) (intake : Intake) (published : PublishedChat) : Intake :=
  let logged := { intake with
    db := commit (intake.db.insertEvent (chatRelayEvent json published)) intake.db }
  let recorded := commit (logged.recordMessage
    { messageId := published.eventId
      threadId := published.channel
      channelH := published.channel
      authorPubkey := published.signed.pubkey
      body := published.signed.content
      createdAt := published.createdAt
      direction := .outbound
      syncState := "accepted"
      nativeEventId := some published.eventId
      error := none }) logged
  recorded.addMessageRecipients published.eventId
    ((collectPPubkeys published.signed).dedup.insertionSort (· ≤ ·))

/-- The loop of `rpc_channel_send` serves the session.  The tagged recipients and the
mentioned pubkeys are the same. -/
def sendReaches (store : Store) (published : PublishedChat) (tagged : List String)
    (target : Session) : Bool :=
  let isDirectTarget := decide (target.pubkey ∈ tagged)
  let joinedTarget := store.hasSessionRoute target.pubkey published.channel
  let isMentioned := isDirectTarget || decide (target.pubkey ∈ published.mentionedPubkeys)
  (isDirectTarget || joinedTarget) && decide (target.createdAt ≤ published.createdAt) &&
    decide (target.pubkey ≠ published.fromPubkey) && isMentioned

/-- The loop of `enqueue_local_reply` serves the session. -/
def replyReaches (store : Store) (published : PublishedChat) (originalAuthor : String)
    (target : Session) : Bool :=
  decide (target.pubkey ≠ published.fromPubkey) && decide (target.pubkey = originalAuthor) &&
    store.hasSessionRoute target.pubkey published.channel

def reaches (store : Store) (published : PublishedChat) (target : Session) : Bool :=
  match published.call with
  | .send tagged => sendReaches store published tagged target
  | .reply originalAuthor _ => replyReaches store published originalAuthor target

/-- One session of the local loop.  A reply records no recipient. -/
def deliverTo (published : PublishedChat) (intake : Intake) (target : Session) : Intake :=
  if reaches intake.db.store published target = true then
    match published.call with
    | .send _ => (intake.enqueueMention published.eventId target.pubkey published.fromPubkey
        published.channel published.body published.createdAt).2
    | .reply _ _ => intake.setStore (commit (intake.db.store.enqueueInbox published.eventId
        target.pubkey published.fromPubkey published.channel published.body published.createdAt)
        intake.db.store)
  else intake

/-- The local delivery of a published chat. -/
def deliverLocally (intake : Intake) (published : PublishedChat) : Intake :=
  intake.db.store.listRunningSessions.foldl (deliverTo published) intake

/-! ## Single writes -/

/-- `INSERT OR IGNORE` under one key. -/
def keepFirst {ρ : Type} (row : ρ) (found : Option ρ) : Option ρ := some (found.getD row)

/-- A chat event replaces no other event. -/
theorem find?_insertEvent_chat {db : Database} {event : RelayEvent} (hkind : event.kind = kindChat)
    (k : String) :
    (commit (db.insertEvent event) db).events.find? k =
      if k = event.id ∧ event.createdAt ≤ Rust.i64Max then keepFirst event (db.events.find? k)
      else db.events.find? k := by
  have hreplaces : ∀ row, ¬ Database.replacesEvent event row := by
    intro row
    rw [Database.replacesEvent, hkind]
    rintro (⟨haddressable, _⟩ | ⟨_, hreplaceable, _⟩)
    · exact absurd haddressable (by decide)
    · exact absurd hreplaceable (by decide)
  by_cases hbound : event.createdAt ≤ Rust.i64Max
  · have hbind : bindParams [event.createdAt] = .ok () := bindParams_eq_ok.mpr (by simpa using hbound)
    have hnewer : ¬ db.events.Any (fun row =>
        Database.replacesEvent event row ∧ event.createdAt ≤ row.createdAt) := by
      rintro ⟨row, _, hreplaced, _⟩
      exact hreplaces row hreplaced
    rw [Database.insertEvent, hbind]
    show (commit (if _ then _ else _) db).events.find? k = _
    rw [if_neg hnewer]
    show ((db.events.deleteWhere (Database.replacesEvent event)).insertOrIgnore event).find? k = _
    rw [Table.find?_insertOrIgnore, Table.find?_deleteWhere]
    have hkept : (db.events.find? k).filter (fun row =>
        decide (¬ Database.replacesEvent event row)) = db.events.find? k := by
      cases db.events.find? k with
      | none => rfl
      | some row => simp [Option.filter, hreplaces row]
    simp only [hkept, hbound, and_true]
    rfl
  · rw [Database.insertEvent, bindParams_eq_error (by simpa using hbound)]
    show db.events.find? k = _
    rw [if_neg (fun hhit => hbound hhit.2)]

/-- The event log is not part of the store. -/
theorem insertEvent_store (db : Database) (event : RelayEvent) :
    (commit (db.insertEvent event) db).store = db.store := by
  refine commit_invariant (I := fun after : Database => after.store = db.store) rfl ?_
  intro inserted after hok
  simp only [Database.insertEvent, bind_eq_ok] at hok
  obtain ⟨_, _, hok⟩ := hok
  split at hok
  · simp only [pure_eq_ok, Prod.mk.injEq] at hok
    obtain ⟨_, rfl⟩ := hok
    rfl
  · simp only [pure_eq_ok, Prod.mk.injEq] at hok
    obtain ⟨_, rfl⟩ := hok
    rfl

theorem find?_addRecipient (intake : Intake) (messageId recipient : String)
    (k : String × String) :
    (intake.addRecipient messageId recipient).messageRecipients.find? k =
      if k = (messageId, recipient) then
        keepFirst ⟨k.1, k.2, 0⟩ (intake.messageRecipients.find? k)
      else intake.messageRecipients.find? k := by
  have hbind : bindParams [(none : Option Nat).getD 0] = .ok () := by decide
  rw [addRecipient, addMessageRecipient, hbind]
  show (intake.messageRecipients.upsert _ _ _).find? k = _
  rw [Table.find?_upsert]
  by_cases hk : k = (messageId, recipient)
  · subst hk
    simp only [MessageRecipient.key, if_true]
    cases intake.messageRecipients.find? (messageId, recipient) with
    | none => rfl
    | some old => simp [keepFirst]
  · simp [MessageRecipient.key, hk]

theorem find?_enqueueInbox (store : Store)
    (eventId targetPubkey fromPubkey channelH body : String) (createdAt : Nat)
    (k : String × String) :
    (commit (store.enqueueInbox eventId targetPubkey fromPubkey channelH body createdAt)
        store).inbox.find? k =
      if k = (eventId, targetPubkey) ∧ createdAt ≤ Rust.i64Max then
        keepFirst (.arrival k.1 k.2 fromPubkey channelH body createdAt) (store.inbox.find? k)
      else store.inbox.find? k := by
  by_cases hbound : createdAt ≤ Rust.i64Max
  · have hbind : bindParams [createdAt] = .ok () := bindParams_eq_ok.mpr (by simpa using hbound)
    have hinbox : (commit (store.enqueueInbox eventId targetPubkey fromPubkey channelH body
        createdAt) store).inbox = store.inbox.insertOrIgnore
          (.arrival eventId targetPubkey fromPubkey channelH body createdAt) := by
      rw [Store.enqueueInbox, hbind]
      show (commit (if _ then _ else _) store).inbox = _
      split
      · rfl
      · rfl
    rw [hinbox, Table.find?_insertOrIgnore]
    by_cases hk : k = (eventId, targetPubkey)
    · subst hk
      simp [InboxRow.key, InboxRow.arrival, keepFirst, hbound]
    · simp [InboxRow.key, InboxRow.arrival, hk]
  · rw [Store.enqueueInbox, bindParams_eq_error (by simpa using hbound)]
    show store.inbox.find? k = _
    rw [if_neg (fun hhit => hbound hhit.2)]

/-! ## Writes of a loop -/

/-- The recipients of a message are recorded under their keys. -/
theorem find?_addMessageRecipients (intake : Intake) (messageId : String)
    (recipients : List String) (k : String × String) :
    (intake.addMessageRecipients messageId recipients).messageRecipients.find? k =
      if ∃ recipient ∈ recipients, k = (messageId, recipient) then
        keepFirst ⟨k.1, k.2, 0⟩ (intake.messageRecipients.find? k)
      else intake.messageRecipients.find? k := by
  have hfold : (run (fun (current : Intake) recipient => current.addRecipient messageId recipient)
      intake recipients).messageRecipients.find? k = _ := run_writes
    (fun (current : Intake) recipient => current.addRecipient messageId recipient)
    (fun current : Intake => current.messageRecipients.find? k) (keepFirst ⟨k.1, k.2, 0⟩)
    (fun recipient => k = (messageId, recipient)) (J := fun _ => True) (fun _ => rfl)
    (fun _ _ _ => trivial)
    (fun current recipient _ => find?_addRecipient current messageId recipient k)
    trivial recipients
  exact hfold

/-- The log and the messages are the same. -/
def SameReadModels (before after : Intake) : Prop :=
  after.db.events = before.db.events ∧ after.messages = before.messages

theorem SameReadModels.refl (intake : Intake) : SameReadModels intake intake := ⟨rfl, rfl⟩

theorem SameReadModels.trans {before middle after : Intake}
    (hfirst : SameReadModels before middle) (hsecond : SameReadModels middle after) :
    SameReadModels before after :=
  ⟨hsecond.1.trans hfirst.1, hsecond.2.trans hfirst.2⟩

theorem addRecipient_sameReadModels (intake : Intake) (messageId recipient : String) :
    SameReadModels intake (intake.addRecipient messageId recipient) := by
  refine commit_invariant (I := SameReadModels intake) (.refl intake) ?_
  intro value after hok
  simp only [addMessageRecipient, bind_eq_ok, pure_eq_ok, Prod.mk.injEq] at hok
  obtain ⟨_, _, _, rfl⟩ := hok
  exact ⟨rfl, rfl⟩

theorem addMessageRecipients_sameReadModels (intake : Intake) (messageId : String)
    (recipients : List String) :
    SameReadModels intake (intake.addMessageRecipients messageId recipients) :=
  run_invariant (I := SameReadModels intake) (.refl intake)
    (fun current recipient hcurrent =>
      hcurrent.trans (addRecipient_sameReadModels current messageId recipient)) recipients

theorem enqueueMention_sameReadModels (intake : Intake)
    (eventId targetPubkey fromPubkey channelH body : String) (createdAt : Nat) :
    SameReadModels intake
      (intake.enqueueMention eventId targetPubkey fromPubkey channelH body createdAt).2 :=
  addRecipient_sameReadModels (intake.setStore _) eventId targetPubkey

/-- The echo enqueues a row for the pubkey: a known session with a route, which is not
the author. -/
def Routed (store : Store) (event : Event) (channelH pubkey : String) : Prop :=
  pubkey ≠ event.pubkey ∧ (store.getSession pubkey).isSome = true ∧
    store.hasSessionRoute pubkey channelH = true

instance (store : Store) (event : Event) (channelH : String) :
    DecidablePred (Routed store event channelH) := fun _ => inferInstanceAs (Decidable (_ ∧ _))

theorem Undisturbed.getSession_isSome {before after : Intake} (hkept : Undisturbed before after)
    (pubkey : String) :
    (after.db.store.getSession pubkey).isSome = (before.db.store.getSession pubkey).isSome := by
  have hrelated := hkept.sessions pubkey
  show (after.db.store.sessions.find? pubkey).isSome =
    (before.db.store.sessions.find? pubkey).isSome
  generalize before.db.store.sessions.find? pubkey = row at hrelated
  generalize after.db.store.sessions.find? pubkey = next at hrelated
  cases hrelated with
  | none | some _ => rfl

theorem Undisturbed.hasSessionRoute {before after : Intake} (hkept : Undisturbed before after)
    (pubkey channelH : String) :
    after.db.store.hasSessionRoute pubkey channelH =
      before.db.store.hasSessionRoute pubkey channelH := by
  rw [Store.hasSessionRoute, Store.hasSessionRoute, hkept.sessionChannels]

theorem Undisturbed.routed_iff {before after : Intake} (hkept : Undisturbed before after)
    (event : Event) (channelH pubkey : String) :
    Routed after.db.store event channelH pubkey ↔ Routed before.db.store event channelH pubkey := by
  rw [Routed, Routed, hkept.getSession_isSome, hkept.hasSessionRoute]

/-- One target of the echo. -/
theorem routeTo_eq (event : Event) (chat : ChatMessage) (intake : Intake) (targetPubkey : String) :
    (routeTo event chat intake targetPubkey).2 =
      if Routed intake.db.store event chat.channel targetPubkey then
        (intake.enqueueMention event.id targetPubkey event.pubkey chat.channel chat.body
          event.createdAt).2
      else intake := by
  by_cases hrouted : Routed intake.db.store event chat.channel targetPubkey
  · rw [if_pos hrouted]
    obtain ⟨hother, hknown, hroute⟩ := hrouted
    obtain ⟨session, hfind⟩ := Option.isSome_iff_exists.mp hknown
    have hkey : session.pubkey = targetPubkey := Table.key_of_find? hfind
    rw [routeTo, if_neg hother, hfind]
    dsimp only
    rw [hkey, if_pos hroute]
  · rw [if_neg hrouted]
    unfold routeTo
    split
    · rfl
    · rename_i hother
      split
      · rfl
      · rename_i session hfind
        have hkey : session.pubkey = targetPubkey := Table.key_of_find? hfind
        split
        · rename_i hroute
          rw [hkey] at hroute
          exact absurd ⟨hother, by rw [hfind]; rfl, hroute⟩ hrouted
        · rfl

/-- The echo writes an inbox row for every mentioned pubkey that is routed. -/
theorem inbox_routeChat (intake : Intake) (event : Event) (chat : ChatMessage)
    (k : String × String) :
    (intake.routeChat event chat).2.db.store.inbox.find? k =
      if ∃ pubkey ∈ collectPPubkeys event, Routed intake.db.store event chat.channel pubkey ∧
          k = (event.id, pubkey) ∧ event.createdAt ≤ Rust.i64Max then
        keepFirst (.arrival k.1 k.2 event.pubkey chat.channel chat.body event.createdAt)
          (intake.db.store.inbox.find? k)
      else intake.db.store.inbox.find? k := by
  have hfold := run_writes (routeNext event chat)
    (fun routed : Bool × Intake => routed.2.db.store.inbox.find? k)
    (keepFirst (.arrival k.1 k.2 event.pubkey chat.channel chat.body event.createdAt))
    (fun pubkey => Routed intake.db.store event chat.channel pubkey ∧ k = (event.id, pubkey) ∧
      event.createdAt ≤ Rust.i64Max) (J := fun routed => Undisturbed intake routed.2)
    (fun _ => rfl) ?_ ?_ (show Undisturbed intake (false, intake).2 from .refl intake)
    (collectPPubkeys event)
  · exact hfold
  · intro routed pubkey hkept
    exact hkept.trans (routeTo_undisturbed event chat routed.2 pubkey)
  · intro routed pubkey hkept
    show (routeTo event chat routed.2 pubkey).2.db.store.inbox.find? k = _
    rw [routeTo_eq, if_congr (hkept.routed_iff event chat.channel pubkey) rfl rfl]
    by_cases hrouted : Routed intake.db.store event chat.channel pubkey
    · rw [if_pos hrouted]
      simp only [hrouted, true_and]
      show (addRecipient _ event.id pubkey).db.store.inbox.find? k = _
      rw [addRecipient_db]
      exact find?_enqueueInbox routed.2.db.store event.id pubkey event.pubkey chat.channel chat.body
        event.createdAt k
    · rw [if_neg hrouted, if_neg (fun hhit => hrouted hhit.1)]

/-- The echo records the routed pubkeys as recipients. -/
theorem recipients_routeChat (intake : Intake) (event : Event) (chat : ChatMessage)
    (k : String × String) :
    (intake.routeChat event chat).2.messageRecipients.find? k =
      if ∃ pubkey ∈ collectPPubkeys event, Routed intake.db.store event chat.channel pubkey ∧
          k = (event.id, pubkey) then
        keepFirst ⟨k.1, k.2, 0⟩ (intake.messageRecipients.find? k)
      else intake.messageRecipients.find? k := by
  have hfold := run_writes (routeNext event chat)
    (fun routed : Bool × Intake => routed.2.messageRecipients.find? k)
    (keepFirst ⟨k.1, k.2, 0⟩)
    (fun pubkey => Routed intake.db.store event chat.channel pubkey ∧ k = (event.id, pubkey))
    (J := fun routed => Undisturbed intake routed.2)
    (fun _ => rfl) ?_ ?_ (show Undisturbed intake (false, intake).2 from .refl intake)
    (collectPPubkeys event)
  · exact hfold
  · intro routed pubkey hkept
    exact hkept.trans (routeTo_undisturbed event chat routed.2 pubkey)
  · intro routed pubkey hkept
    show (routeTo event chat routed.2 pubkey).2.messageRecipients.find? k = _
    rw [routeTo_eq, if_congr (hkept.routed_iff event chat.channel pubkey) rfl rfl]
    by_cases hrouted : Routed intake.db.store event chat.channel pubkey
    · rw [if_pos hrouted]
      simp only [hrouted, true_and]
      exact find?_addRecipient _ event.id pubkey k
    · rw [if_neg hrouted, if_neg (fun hhit => hrouted hhit.1)]

theorem routeTo_sameReadModels (event : Event) (chat : ChatMessage) (intake : Intake)
    (targetPubkey : String) :
    SameReadModels intake (routeTo event chat intake targetPubkey).2 := by
  rw [routeTo_eq]
  split
  · exact enqueueMention_sameReadModels intake _ _ _ _ _ _
  · exact .refl intake

theorem routeChat_sameReadModels (intake : Intake) (event : Event) (chat : ChatMessage) :
    SameReadModels intake (intake.routeChat event chat).2 :=
  @run_invariant _ _ (routeNext event chat) _
    (fun routed : Bool × Intake => SameReadModels intake routed.2) (.refl intake)
    (fun routed pubkey hrouted =>
      hrouted.trans (routeTo_sameReadModels event chat routed.2 pubkey)) (collectPPubkeys event)

/-! ## The local loop -/

theorem Undisturbed.reaches {before after : Intake} (hkept : Undisturbed before after)
    (published : PublishedChat) (target : Session) :
    reaches after.db.store published target = reaches before.db.store published target := by
  simp only [Intake.reaches, sendReaches, replyReaches, hkept.hasSessionRoute]

theorem deliverTo_undisturbed (published : PublishedChat) (intake : Intake) (target : Session) :
    Undisturbed intake (deliverTo published intake target) := by
  unfold deliverTo
  split
  · split
    · exact enqueueMention_undisturbed intake _ _ _ _ _ _
    · exact setStore_enqueue_undisturbed intake _ _ _ _ _ _
  · exact .refl intake

theorem deliverTo_sameReadModels (published : PublishedChat) (intake : Intake)
    (target : Session) : SameReadModels intake (deliverTo published intake target) := by
  unfold deliverTo
  split
  · split
    · exact enqueueMention_sameReadModels intake _ _ _ _ _ _
    · exact ⟨rfl, rfl⟩
  · exact .refl intake

theorem deliverLocally_undisturbed (intake : Intake) (published : PublishedChat) :
    Undisturbed intake (intake.deliverLocally published) :=
  @run_invariant _ _ (deliverTo published) _ (Undisturbed intake) (.refl intake)
    (fun current target hcurrent =>
      hcurrent.trans (deliverTo_undisturbed published current target)) _

theorem deliverLocally_sameReadModels (intake : Intake) (published : PublishedChat) :
    SameReadModels intake (intake.deliverLocally published) :=
  @run_invariant _ _ (deliverTo published) _ (SameReadModels intake) (.refl intake)
    (fun current target hcurrent =>
      hcurrent.trans (deliverTo_sameReadModels published current target)) _

/-- The local loop enqueues a row for the pubkey. -/
def LocallyEnqueues (store : Store) (published : PublishedChat) (pubkey : String) : Prop :=
  ∃ target ∈ store.listRunningSessions, reaches store published target = true ∧
    target.pubkey = pubkey

instance (store : Store) (published : PublishedChat) :
    DecidablePred (LocallyEnqueues store published) :=
  fun _ => inferInstanceAs (Decidable (∃ _ ∈ _, _))

theorem inbox_deliverTo (published : PublishedChat) (intake : Intake) (target : Session)
    (k : String × String) :
    (deliverTo published intake target).db.store.inbox.find? k =
      if reaches intake.db.store published target = true ∧
          k = (published.eventId, target.pubkey) ∧ published.createdAt ≤ Rust.i64Max then
        keepFirst (.arrival k.1 k.2 published.fromPubkey published.channel published.body
          published.createdAt) (intake.db.store.inbox.find? k)
      else intake.db.store.inbox.find? k := by
  unfold deliverTo
  by_cases hreaches : reaches intake.db.store published target = true
  · rw [if_pos hreaches]
    simp only [hreaches, true_and]
    split
    · show (addRecipient _ published.eventId target.pubkey).db.store.inbox.find? k = _
      rw [addRecipient_db]
      exact find?_enqueueInbox intake.db.store _ _ _ _ _ _ k
    · exact find?_enqueueInbox intake.db.store _ _ _ _ _ _ k
  · rw [if_neg hreaches, if_neg (fun hhit => hreaches hhit.1)]

theorem recipients_deliverTo (published : PublishedChat) (intake : Intake) (target : Session)
    (k : String × String) :
    (deliverTo published intake target).messageRecipients.find? k =
      if (reaches intake.db.store published target = true ∧
          k = (published.eventId, target.pubkey)) ∧ published.isSend = true then
        keepFirst ⟨k.1, k.2, 0⟩ (intake.messageRecipients.find? k)
      else intake.messageRecipients.find? k := by
  unfold deliverTo
  by_cases hreaches : reaches intake.db.store published target = true
  · rw [if_pos hreaches]
    simp only [hreaches, true_and]
    split
    · rename_i hcall
      rw [if_congr (and_iff_left (by rw [PublishedChat.isSend, hcall])) rfl rfl]
      exact find?_addRecipient (intake.setStore _) published.eventId target.pubkey k
    · rename_i hcall
      rw [if_neg (fun hhit => by simp [PublishedChat.isSend, hcall] at hhit)]
      rfl
  · rw [if_neg hreaches, if_neg (fun hhit => hreaches hhit.1.1)]

theorem inbox_deliverLocally (intake : Intake) (published : PublishedChat) (k : String × String) :
    (intake.deliverLocally published).db.store.inbox.find? k =
      if k.1 = published.eventId ∧ LocallyEnqueues intake.db.store published k.2 ∧
          published.createdAt ≤ Rust.i64Max then
        keepFirst (.arrival k.1 k.2 published.fromPubkey published.channel published.body
          published.createdAt) (intake.db.store.inbox.find? k)
      else intake.db.store.inbox.find? k := by
  have hfold := run_writes (deliverTo published)
    (fun current : Intake => current.db.store.inbox.find? k)
    (keepFirst (.arrival k.1 k.2 published.fromPubkey published.channel published.body
      published.createdAt))
    (fun target => reaches intake.db.store published target = true ∧
      k = (published.eventId, target.pubkey) ∧ published.createdAt ≤ Rust.i64Max)
    (J := Undisturbed intake) (fun _ => rfl) ?_ ?_ (.refl intake)
    intake.db.store.listRunningSessions
  · refine hfold.trans (if_congr ?_ rfl rfl)
    constructor
    · rintro ⟨target, hlisted, hreaches, rfl, hbound⟩
      exact ⟨rfl, ⟨target, hlisted, hreaches, rfl⟩, hbound⟩
    · rintro ⟨hid, ⟨target, hlisted, hreaches, hpubkey⟩, hbound⟩
      exact ⟨target, hlisted, hreaches, Prod.ext hid hpubkey.symm, hbound⟩
  · intro current target hkept
    exact hkept.trans (deliverTo_undisturbed published current target)
  · intro current target hkept
    rw [inbox_deliverTo, hkept.reaches]

theorem recipients_deliverLocally (intake : Intake) (published : PublishedChat)
    (k : String × String) :
    (intake.deliverLocally published).messageRecipients.find? k =
      if k.1 = published.eventId ∧ LocallyEnqueues intake.db.store published k.2 ∧
          published.isSend = true then
        keepFirst ⟨k.1, k.2, 0⟩ (intake.messageRecipients.find? k)
      else intake.messageRecipients.find? k := by
  have hfold := run_writes (deliverTo published)
    (fun current : Intake => current.messageRecipients.find? k) (keepFirst ⟨k.1, k.2, 0⟩)
    (fun target => (reaches intake.db.store published target = true ∧
      k = (published.eventId, target.pubkey)) ∧ published.isSend = true)
    (J := Undisturbed intake) (fun _ => rfl) ?_ ?_ (.refl intake)
    intake.db.store.listRunningSessions
  · refine hfold.trans (if_congr ?_ rfl rfl)
    constructor
    · rintro ⟨target, hlisted, ⟨hreaches, rfl⟩, hsend⟩
      exact ⟨rfl, ⟨target, hlisted, hreaches, rfl⟩, hsend⟩
    · rintro ⟨hid, ⟨target, hlisted, hreaches, hpubkey⟩, hsend⟩
      exact ⟨target, hlisted, ⟨hreaches, Prod.ext hid hpubkey.symm⟩, hsend⟩
  · intro current target hkept
    exact hkept.trans (deliverTo_undisturbed published current target)
  · intro current target hkept
    rw [recipients_deliverTo, hkept.reaches]

end Intake

end Mosaico
