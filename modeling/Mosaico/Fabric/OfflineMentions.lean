import Mosaico.Fabric.Intake

/-!
# Offline mentions

The relay stream hands every event to the intake, as often as it delivers it.  A
chat event that names a hosted pubkey is claimed for the recovery of that pubkey,
durably and once, but only at the first sight of its id, and only if the gate admits
it then.

A chat event that is quarantined at its first sight is therefore never claimed: its
replay does not pass here, and its re-deliveries are not first sights any more,
unless 4096 other events have driven its id out of the memory.
-/

namespace Mosaico

open Relational Transition

/-! ## First sights -/

def seenEventsCap : Nat := 4096

/-- The ids that were sighted last, oldest first. -/
structure SeenEvents where
  order : List String
  nodup : order.Nodup
  bounded : order.length ≤ seenEventsCap

namespace SeenEvents

def empty : SeenEvents where
  order := []
  nodup := List.nodup_nil
  bounded := Nat.zero_le _

/-- Remember a new id, and forget the oldest one when there are too many. -/
def remember (seen : SeenEvents) (eventId : String) (hnew : eventId ∉ seen.order) : SeenEvents where
  order :=
    if seenEventsCap < (seen.order ++ [eventId]).length then (seen.order ++ [eventId]).tail
    else seen.order ++ [eventId]
  nodup := by
    have hpushed : (seen.order ++ [eventId]).Nodup :=
      List.nodup_append.mpr ⟨seen.nodup, List.nodup_singleton eventId, by
        intro other hother last hlast heq
        rw [List.mem_singleton.mp hlast] at heq
        exact hnew (heq ▸ hother)⟩
    split
    · exact hpushed.tail
    · exact hpushed
  bounded := by
    have hbounded := seen.bounded
    split
    · rw [List.length_tail, List.length_append, List.length_singleton]
      omega
    · omega

/-- True once for every event id, as long as it is remembered. -/
def firstSight (seen : SeenEvents) (eventId : String) : Bool × SeenEvents :=
  if hnew : eventId ∉ seen.order then (true, seen.remember eventId hnew) else (false, seen)

theorem firstSight_fst (seen : SeenEvents) (eventId : String) :
    (seen.firstSight eventId).1 = decide (eventId ∉ seen.order) := by
  unfold firstSight
  split
  · rename_i hnew
    exact (decide_eq_true hnew).symm
  · rename_i hseen
    exact (decide_eq_false hseen).symm

end SeenEvents

/-! ## Claims -/

namespace Store

def processingLeaseSecs : Nat := 10 * 60

/-- The claim has failed, or its lease has run out. -/
def claimable (now : Nat) (row : EventClaim) : Prop :=
  row.state = .pending ∨ (row.state = .processing ∧ row.updatedAt < now - processingLeaseSecs)

instance (now : Nat) : DecidablePred (claimable now) := fun _ =>
  inferInstanceAs (Decidable (_ ∨ _))

/-- Claim one operation target for processing. -/
def claimOrchestrationTarget (store : Store)
    (eventId claimKey fromPubkey channelH body : String) (now : Nat) :
    Except StoreError (Bool × Store) := do
  bindParams [now, now - processingLeaseSecs]
  return ((store.eventClaims.find? (eventId, claimKey)).all (fun row => decide (claimable now row)),
    { store with
      eventClaims := store.eventClaims.upsert
        { eventId := eventId
          claimKey := claimKey
          state := .processing
          fromPubkey := fromPubkey
          channelH := channelH
          body := body
          createdAt := now
          updatedAt := now }
        (fun row => if claimable now row then
          { row with
            state := .processing
            fromPubkey := fromPubkey
            channelH := channelH
            body := body
            updatedAt := now }
          else row)
        (by intro row; split <;> rfl) })

def offlineMentionClaimPrefix : String := "offline-mention:"

def offlineMentionClaim (mentionedPubkey : String) : String :=
  offlineMentionClaimPrefix ++ mentionedPubkey

def claimOfflineMention (store : Store)
    (eventId mentionedPubkey fromPubkey channelH body : String) (now : Nat) :
    Except StoreError (Bool × Store) :=
  store.claimOrchestrationTarget eventId (offlineMentionClaim mentionedPubkey) fromPubkey channelH
    body now

/-- A pubkey that this backend has keys or a session for. -/
def listLocalSessionPubkeys (store : Store) : List String :=
  store.sessionSigners.rows.map SessionSigner.pubkey ++
    (store.sessions.select (fun row => row.recoveryState ≠ .revoked)).map Session.pubkey

end Store

/-! ## The relay stream -/

/-- The part of the daemon that the relay stream goes through. -/
structure Demux where
  intake : Intake
  seen : SeenEvents
  /-- The pubkeys with keys in memory or in the key store. -/
  hostedKeys : List String

/-- What the relay delivers about chat; events of other kinds are left out. -/
inductive Incoming where
  | chat (event : Event)
  /-- An admin or member snapshot of a channel, an event of its own. -/
  | roster (eventId channelH : String) (snapshot : RosterSnapshot)
  deriving DecidableEq

structure Observation where
  incoming : Incoming
  now : Nat
  deriving DecidableEq

def Incoming.eventId : Incoming → String
  | .chat event => event.id
  | .roster eventId _ _ => eventId

namespace Demux

/-- The pubkeys that this daemon hosts. -/
def hosted (demux : Demux) : List String :=
  demux.hostedKeys ++ demux.intake.db.store.listLocalSessionPubkeys

def materialize (json : WireJson) (intake : Intake) (incoming : Incoming) (now : Nat) :
    Intake.MaterializationOutcome × Intake :=
  match incoming with
  | .chat event => intake.materializeKindChat json event now
  | .roster _ channelH snapshot => intake.materializeSnapshot json channelH snapshot

/-- Claim every hosted pubkey that the chat mentions.  Each new claim dispatches a
recovery. -/
def dispatchAll (store : Store) (eventId : String) (chat : ChatMessage) (hosted : List String)
    (now : Nat) : Store :=
  (chat.mentionedPubkeys.filter (· ∈ hosted)).foldl (fun current mentionedPubkey =>
    commit (current.claimOfflineMention eventId mentionedPubkey chat.fromPubkey chat.channel
      chat.body now) current) store

/-- Decode one event and apply it. -/
def handleIncoming (json : WireJson) (demux : Demux) (observation : Observation) : Demux :=
  let hosted := demux.hosted
  let (outcome, intake) := materialize json demux.intake observation.incoming observation.now
  let (firstSight, seen) := demux.seen.firstSight observation.incoming.eventId
  let dispatched := match outcome.tail, firstSight with
    | some chat, true => intake.setStore (dispatchAll intake.db.store
        observation.incoming.eventId chat hosted observation.now)
    | _, _ => intake
  { demux with intake := dispatched, seen := seen }

/-! ## Claims of one step -/

/-- The recovery of the mentioned pubkey is claimed for the event, once. -/
def ClaimedOnce (demux : Demux) (eventId mentionedPubkey : String) : Prop :=
  ∃! row, row ∈ demux.intake.db.store.eventClaims.rows ∧
    row.key = (eventId, Store.offlineMentionClaim mentionedPubkey)

theorem claimedOnce_iff_find? {demux : Demux} {eventId mentionedPubkey : String} :
    demux.ClaimedOnce eventId mentionedPubkey ↔
      ∃ row, demux.intake.db.store.eventClaims.find?
        (eventId, Store.offlineMentionClaim mentionedPubkey) = some row := by
  constructor
  · rintro ⟨row, hrow, _⟩
    exact ⟨row, Table.find?_eq_some_iff.mpr hrow⟩
  · rintro ⟨row, hfind⟩
    refine ⟨row, Table.find?_eq_some_iff.mp hfind, ?_⟩
    intro other hother
    have hsame := Table.find?_eq_some_iff.mpr hother
    rw [hfind] at hsame
    exact (Option.some.inj hsame).symm

/-- The gate admits the event, as far as the rosters are known. -/
def Admits (demux : Demux) (event : Event) : Prop :=
  Intake.chatAdmission demux.intake.db event = .accepted

instance (demux : Demux) (event : Event) : Decidable (demux.Admits event) :=
  inferInstanceAs (Decidable (_ = _))

/-- The observation is a first sight of an admitted event that mentions the pubkey. -/
def ClaimsAt (demux : Demux) (observation : Observation) (eventId mentionedPubkey : String) :
    Prop :=
  ∃ event chat, observation.incoming = .chat event ∧ event.id = eventId ∧
    decodeChat event = some chat ∧ mentionedPubkey ∈ chat.mentionedPubkeys ∧
    mentionedPubkey ∈ demux.hosted ∧ eventId ∉ demux.seen.order ∧ demux.Admits event ∧
    observation.now ≤ Rust.i64Max

variable {json : WireJson} {demux : Demux} {observation : Observation}

theorem materializeRoster_store (db : Database) (channelH : String) (snapshot : RosterSnapshot) :
    (db.materializeRoster channelH snapshot).store = db.store := by
  rw [Database.materializeRoster_eq]
  refine commit_invariant (I := fun after : Database => after.store = db.store) rfl ?_
  intro value after hok
  unfold Database.replaceRole at hok
  split at hok
  · simp only [pure_eq_ok, Prod.mk.injEq] at hok
    rw [← hok.2]
  · simp only [bind_eq_ok, pure_eq_ok, Prod.mk.injEq] at hok
    obtain ⟨_, _, _, rfl⟩ := hok
    rfl

/-- The materializer claims nothing, whatever it replays. -/
theorem materialize_eventClaims (json : WireJson) (intake : Intake) (incoming : Incoming)
    (now : Nat) :
    (materialize json intake incoming now).2.db.store.eventClaims =
      intake.db.store.eventClaims := by
  cases incoming with
  | chat event =>
      exact (Intake.materializeKindChat_undisturbed json intake event now).eventClaims
  | roster eventId channelH snapshot =>
      have hreplay := (Intake.replayQuarantinedChat_undisturbed json
        { intake with db := intake.db.materializeRoster channelH snapshot } channelH).eventClaims
      refine hreplay.trans ?_
      show (intake.db.materializeRoster channelH snapshot).store.eventClaims = _
      rw [materializeRoster_store]

/-- Only an admitted chat event reaches the tail. -/
theorem materialize_tail {intake : Intake} {incoming : Incoming} {now : Nat} {shown : ChatMessage} :
    (materialize json intake incoming now).1.tail = some shown ↔
      ∃ event chat, incoming = .chat event ∧ decodeChat event = some chat ∧
        Intake.chatAdmission intake.db event = .accepted ∧
        shown = { chat with fromPubkey := event.pubkey } := by
  cases incoming with
  | roster eventId channelH snapshot =>
      constructor
      · intro htail
        cases htail
      · rintro ⟨_, _, hincoming, _⟩
        cases hincoming
  | chat event =>
      simp only [materialize, Intake.materializeKindChat, Intake.materializeChat]
      constructor
      · intro htail
        split at htail
        · cases htail
        · rename_i chat hdecode
          split at htail
          · rename_i hadmission
            cases htail
            exact ⟨event, chat, rfl, hdecode, hadmission, rfl⟩
          · cases htail
          · cases htail
      · rintro ⟨other, chat, hincoming, hdecode, hadmission, rfl⟩
        cases hincoming
        rw [hdecode]
        dsimp only
        rw [hadmission]
        rfl

/-- A claim makes one row, or finds it. -/
theorem find?_claimOfflineMention (store : Store)
    (eventId mentionedPubkey fromPubkey channelH body : String) (now : Nat)
    (k : String × String) :
    (∃ row, (commit (store.claimOfflineMention eventId mentionedPubkey fromPubkey channelH body now)
        store).eventClaims.find? k = some row) ↔
      (∃ row, store.eventClaims.find? k = some row) ∨
        (k = (eventId, Store.offlineMentionClaim mentionedPubkey) ∧ now ≤ Rust.i64Max) := by
  by_cases hnow : now ≤ Rust.i64Max
  · have hbind : bindParams [now, now - Store.processingLeaseSecs] = .ok () := by
      rw [bindParams_eq_ok]
      intro param hparam
      simp only [List.mem_cons, List.not_mem_nil, or_false] at hparam
      omega
    simp only [Store.claimOfflineMention, Store.claimOrchestrationTarget, hbind]
    show (∃ row, (store.eventClaims.upsert _ _ _).find? k = some row) ↔ _
    rw [Table.find?_upsert]
    by_cases hk : k = (eventId, Store.offlineMentionClaim mentionedPubkey)
    · simp [hk, EventClaim.key, hnow]
    · simp [hk, EventClaim.key]
  · have hfails : bindParams [now, now - Store.processingLeaseSecs] = .error .parameterOutOfRange := by
      refine bindParams_eq_error (fun hall => hnow (hall now List.mem_cons_self))
    simp only [Store.claimOfflineMention, Store.claimOrchestrationTarget, hfails]
    show (∃ row, store.eventClaims.find? k = some row) ↔ _
    simp [hnow]

/-- The claims of a dispatch. -/
theorem find?_dispatchAll (store : Store) (eventId : String) (chat : ChatMessage)
    (hosted : List String) (now : Nat) (mentionedPubkey other : String) :
    (∃ row, (dispatchAll store eventId chat hosted now).eventClaims.find?
        (other, Store.offlineMentionClaim mentionedPubkey) = some row) ↔
      (∃ row, store.eventClaims.find? (other, Store.offlineMentionClaim mentionedPubkey) =
        some row) ∨
        (other = eventId ∧ mentionedPubkey ∈ chat.mentionedPubkeys ∧ mentionedPubkey ∈ hosted ∧
          now ≤ Rust.i64Max) := by
  have hfold : ∀ (targets : List String) (current : Store),
      (∃ row, (targets.foldl (fun current target => commit (current.claimOfflineMention eventId
        target chat.fromPubkey chat.channel chat.body now) current) current).eventClaims.find?
          (other, Store.offlineMentionClaim mentionedPubkey) = some row) ↔
        (∃ row, current.eventClaims.find? (other, Store.offlineMentionClaim mentionedPubkey) =
          some row) ∨ (other = eventId ∧ mentionedPubkey ∈ targets ∧ now ≤ Rust.i64Max) := by
    intro targets
    induction targets with
    | nil =>
        intro current
        simp
    | cons target rest ih =>
        intro current
        rw [List.foldl_cons, ih, find?_claimOfflineMention, Prod.mk.injEq,
          Store.offlineMentionClaim, Store.offlineMentionClaim, String.append_right_inj,
          List.mem_cons]
        tauto
  rw [dispatchAll, hfold, List.mem_filter, decide_eq_true_eq]
  tauto

/-- A step claims a mention when it is the first sight of its admitted event. -/
theorem claimedOnce_handleIncoming (json : WireJson) (demux : Demux) (observation : Observation)
    (eventId mentionedPubkey : String) :
    (demux.handleIncoming json observation).ClaimedOnce eventId mentionedPubkey ↔
      demux.ClaimedOnce eventId mentionedPubkey ∨
        demux.ClaimsAt observation eventId mentionedPubkey := by
  have hkept := materialize_eventClaims json demux.intake observation.incoming observation.now
  have hfirst := demux.seen.firstSight_fst observation.incoming.eventId
  rw [claimedOnce_iff_find?, claimedOnce_iff_find?, handleIncoming]
  dsimp only
  split
  · rename_i chat htail hsight
    obtain ⟨event, decoded, hincoming, hdecode, hadmission, rfl⟩ := materialize_tail.mp htail
    have hnew : observation.incoming.eventId ∉ demux.seen.order :=
      of_decide_eq_true (hfirst.symm.trans hsight)
    show (∃ row, (dispatchAll _ _ _ _ _).eventClaims.find? _ = some row) ↔ _
    rw [find?_dispatchAll, hkept]
    refine or_congr Iff.rfl ?_
    rw [hincoming] at hnew ⊢
    constructor
    · rintro ⟨rfl, hmentioned, hhosted, hnow⟩
      exact ⟨event, decoded, hincoming, rfl, hdecode, hmentioned, hhosted, hnew, hadmission, hnow⟩
    · rintro ⟨other, chat, hother, rfl, hchat, hmentioned, hhosted, _, _, hnow⟩
      rw [hincoming] at hother
      cases hother
      rw [hdecode] at hchat
      cases hchat
      exact ⟨rfl, hmentioned, hhosted, hnow⟩
  · rename_i hnot
    rw [hkept]
    refine (or_iff_left ?_).symm
    rintro ⟨event, chat, hincoming, rfl, hdecode, _, _, hnew, hadmission, _⟩
    have htail : (materialize json demux.intake observation.incoming observation.now).1.tail =
        some { chat with fromPubkey := event.pubkey } :=
      materialize_tail.mpr ⟨event, chat, hincoming, hdecode, hadmission, rfl⟩
    refine hnot _ htail ?_
    rw [hfirst, hincoming]
    exact decide_eq_true hnew

/-! ## Claims of a run -/

/-- The final roster admits the author of an event that was delivered and that mentions
the hosted pubkey. -/
def Owed (json : WireJson) (demux : Demux) (observations : List Observation)
    (eventId mentionedPubkey : String) : Prop :=
  let final := run (handleIncoming json) demux observations
  ∃ event chat now, ⟨.chat event, now⟩ ∈ observations ∧ event.id = eventId ∧
    decodeChat event = some chat ∧ mentionedPubkey ∈ chat.mentionedPubkeys ∧
    mentionedPubkey ∈ final.hosted ∧ final.Admits event

/-- One of the observations is a first sight of the event that finds it admitted. -/
def AdmittedAtFirstSight (json : WireJson) (demux : Demux) (observations : List Observation)
    (eventId mentionedPubkey : String) : Prop :=
  ∃ before observation after, observations = before ++ observation :: after ∧
    (run (handleIncoming json) demux before).ClaimsAt observation eventId mentionedPubkey

theorem run_claimedOnce (json : WireJson) (demux : Demux) (observations : List Observation)
    (eventId mentionedPubkey : String) :
    (run (handleIncoming json) demux observations).ClaimedOnce eventId mentionedPubkey ↔
      demux.ClaimedOnce eventId mentionedPubkey ∨
        AdmittedAtFirstSight json demux observations eventId mentionedPubkey := by
  induction observations using List.reverseRecOn with
  | nil =>
      refine (or_iff_left ?_).symm
      rintro ⟨before, observation, after, heq, _⟩
      simp at heq
  | append_singleton earlier last ih =>
      rw [run_append]
      show (handleIncoming json (run (handleIncoming json) demux earlier) last).ClaimedOnce _ _ ↔ _
      rw [claimedOnce_handleIncoming, ih, or_assoc]
      refine or_congr Iff.rfl ?_
      constructor
      · rintro (⟨before, observation, after, rfl, hclaims⟩ | hclaims)
        · exact ⟨before, observation, after ++ [last], by simp, hclaims⟩
        · exact ⟨earlier, last, [], rfl, hclaims⟩
      · rintro ⟨before, observation, after, heq, hclaims⟩
        rcases List.eq_nil_or_concat after with rfl | ⟨later, final, rfl⟩
        · obtain ⟨rfl, hlast⟩ := List.append_inj' heq rfl
          cases hlast
          exact Or.inr hclaims
        · rw [List.concat_eq_append, ← List.cons_append, ← List.append_assoc] at heq
          obtain ⟨rfl, _⟩ := List.append_inj' heq rfl
          exact Or.inl ⟨before, observation, later, rfl, hclaims⟩

/-- An offline mention that is owed is claimed once exactly if a first sight of its event
found it admitted. -/
theorem owed_claimedOnce_iff (json : WireJson) (demux : Demux) (observations : List Observation)
    (eventId mentionedPubkey : String) :
    (Owed json demux observations eventId mentionedPubkey →
      (run (handleIncoming json) demux observations).ClaimedOnce eventId mentionedPubkey) ↔
    (Owed json demux observations eventId mentionedPubkey →
      demux.ClaimedOnce eventId mentionedPubkey ∨
        AdmittedAtFirstSight json demux observations eventId mentionedPubkey) := by
  rw [run_claimedOnce]

end Demux

/-! ## A mention that is quarantined first -/

def earlyChat : Event where
  id := "event"
  kind := kindChat
  pubkey := "alice"
  createdAt := 10
  content := "help"
  tags := [["h", "channel"], ["p", "agent"]]

/-- JSON that knows one event. -/
def earlyJson : WireJson where
  tagsToJson := fun tags => if tags = earlyChat.tags then "tags" else ""
  eventToJson := fun event => if event = earlyChat then some "chat" else none
  eventFromJson := fun text => if text = "chat" then some earlyChat else none

def hostingAgent : Demux where
  intake := Intake.empty
  seen := SeenEvents.empty
  hostedKeys := ["agent"]

/-- The chat arrives before the roster that admits its author, and once more after it. -/
def earlyObservations : List Observation :=
  [⟨.chat earlyChat, 11⟩, ⟨.roster "admins" "channel" ⟨.admin, ["relay"], 12⟩, 12⟩,
    ⟨.roster "members" "channel" ⟨.member, ["alice", "agent"], 13⟩, 13⟩, ⟨.chat earlyChat, 14⟩]

/-- The event is replayed and delivered again, and its mention is never claimed. -/
theorem early_chat_unclaimed :
    ¬ ∀ (json : WireJson) (demux : Demux) (observations : List Observation)
      (eventId mentionedPubkey : String),
      demux.Owed json observations eventId mentionedPubkey →
        (run (Demux.handleIncoming json) demux observations).ClaimedOnce eventId
          mentionedPubkey := by
  intro hclaim
  have howed : hostingAgent.Owed earlyJson earlyObservations "event" "agent" :=
    ⟨earlyChat, ⟨"alice", "channel", "help", ["agent"]⟩, 11, by decide +kernel, rfl,
      by decide +kernel, by decide +kernel, by decide +kernel, by decide +kernel⟩
  obtain ⟨row, hrow, _⟩ := hclaim earlyJson hostingAgent earlyObservations "event" "agent" howed
  have hempty : (run (Demux.handleIncoming earlyJson) hostingAgent
      earlyObservations).intake.db.store.eventClaims.rows = [] := by decide +kernel
  rw [hempty] at hrow
  exact absurd hrow.1 List.not_mem_nil

end Mosaico
