import Mosaico.Fabric.Relay

/-!
# Messages of the fabric view

Which messages of a channel a view shows.  The capture freezes the chat events of
the channel, less the session's own, the injected ones and backend traffic, and
the inbox rows that the request claimed; the selection keeps the events after the
cursor and adds the claimed rows.

Only the part of a message that decides its selection is modelled: its texts and
the display names of its author and recipients are left out.
-/

namespace Mosaico

open Relational

def kindChat : Nat := 9

/-- Widest chat capture cap. -/
def chatCaptureCap : Nat := 10000

def windowSecs : Nat := 4 * 60 * 60

def maxClusterGapSecs : Nat := 20 * 60

def maxClusterRows : Nat := 30

/-- A claimed inbox row on its way into the view. -/
structure FabricMessageSeed where
  id : String
  channel : String
  fromPubkey : String
  body : String
  createdAt : Nat
  mention : Bool
  deriving DecidableEq, Repr

def inboxSeed (row : InboxRow) : FabricMessageSeed where
  id := row.eventId
  channel := row.channelH
  fromPubkey := row.fromPubkey
  body := row.body
  createdAt := row.createdAt
  mention := true

/-- A captured event. -/
structure EvCap where
  id : String
  createdAt : Nat
  mentionsSelf : Bool
  forcedMention : Bool
  deriving DecidableEq, Repr

structure MsgBundle where
  events : List EvCap
  forced : List EvCap
  deriving DecidableEq, Repr

def MsgBundle.empty : MsgBundle := ⟨[], []⟩

structure MessageRow where
  id : String
  mention : Bool
  deriving DecidableEq, Repr

/-- What a fabric view is asked for. -/
structure FabricContextInput where
  session : Option Session
  scope : String
  selfPubkey : String
  backendPubkey : String
  forcedMessages : List FabricMessageSeed
  warnings : List String
  deriving DecidableEq, Repr

/-! ## Capture -/

/-- The distinct non-empty pubkeys of the `p` tags; `parseTags` is the JSON
parser. -/
def pTagPubkeys (parseTags : String → Option (List (List String))) (tagsJson : String) :
    List String :=
  let tagged := ((parseTags tagsJson).getD []).filterMap (fun tag =>
    match tag with
    | "p" :: pubkey :: _ => if pubkey = "" then none else some pubkey
    | _ => none)
  tagged.foldl (fun out pubkey => if pubkey ∈ out then out else out ++ [pubkey]) []

def mentionsPubkey (parseTags : String → Option (List (List String)))
    (tagsJson pubkey : String) : Bool :=
  pubkey ≠ "" && (pTagPubkeys parseTags tagsJson).any (· = pubkey)

namespace Database

def isBackend (db : Database) (pubkey : String) : Bool :=
  (db.getProfile pubkey).any Profile.isBackend

def isBackendPubkey (db : Database) (backendPubkey pubkey : String) : Bool :=
  (backendPubkey ≠ "" && pubkey == backendPubkey) || db.isBackend pubkey

def isBackendTraffic (db : Database) (parseTags : String → Option (List (List String)))
    (backendPubkey author tagsJson : String) : Bool :=
  db.isBackendPubkey backendPubkey author ||
    (pTagPubkeys parseTags tagsJson).any (fun pubkey => db.isBackendPubkey backendPubkey pubkey)

/-- The event ids whose prompt echo is outstanding for the session. -/
def injectedIds (db : Database) (session : Option Session) : List String :=
  match session with
  | none => []
  | some row => (db.store.injectedForPubkey row.pubkey).map InboxRow.eventId

/-- The event is chat for the view: not the reader's own, not injected and not
backend traffic. -/
def isAmbient (db : Database) (parseTags : String → Option (List (List String)))
    (input : FabricContextInput) (event : RelayEvent) : Bool :=
  event.kind == kindChat && event.pubkey ≠ input.selfPubkey &&
    !(db.injectedIds input.session).contains event.id &&
    !db.isBackendTraffic parseTags input.backendPubkey event.pubkey event.tagsJson

/-- Freeze the messages of a channel. -/
def captureMessages (db : Database) (parseTags : String → Option (List (List String)))
    (input : FabricContextInput) (channel : String) (forced : List FabricMessageSeed) :
    MsgBundle :=
  if input.session = none then .empty
  else
    { events := ((db.chatForChannel channel 0 chatCaptureCap).filter
          (db.isAmbient parseTags input)).map (fun event =>
        { id := event.id
          createdAt := event.createdAt
          mentionsSelf := mentionsPubkey parseTags event.tagsJson input.selfPubkey
          forcedMention := false })
      forced := forced.map (fun seed =>
        { id := seed.id
          createdAt := seed.createdAt
          mentionsSelf := false
          forcedMention := seed.mention }) }

end Database

/-! ## Selection -/

/-- Oldest first, ties by id. -/
def EvCap.before (left right : EvCap) : Prop :=
  left.createdAt < right.createdAt ∨ (left.createdAt = right.createdAt ∧ left.id ≤ right.id)

instance : DecidableRel EvCap.before := fun _ _ => inferInstanceAs (Decidable (_ ∨ _))

def sortEvents (events : List EvCap) : List EvCap :=
  events.insertionSort EvCap.before

/-- The newest events of a reversed list up to the first long pause, at most
`room` of them. -/
def clusterTail : Nat → List EvCap → List EvCap
  | 0, _ => []
  | _, [] => []
  | _, [event] => [event]
  | room + 1, event :: earlier :: rest =>
      if maxClusterGapSecs < event.createdAt - earlier.createdAt then [event]
      else event :: clusterTail room (earlier :: rest)

/-- The most recent cluster of a long list of events. -/
def recentCluster (events : List EvCap) : List EvCap :=
  if events.length ≤ maxClusterRows then events
  else (clusterTail maxClusterRows (sortEvents events).reverse).reverse

/-- The captured events that the cursor selects. -/
def selectedEvents (bundle : MsgBundle) (cursor now : Nat) : List EvCap :=
  let since := if cursor = 0 then now - windowSecs else cursor
  let events := bundle.events.filter (fun event => since < event.createdAt)
  if cursor = 0 then recentCluster events else events

/-- Add the forced rows whose ids are not among the events yet. -/
def addForced (events forced : List EvCap) : List EvCap :=
  forced.foldl (fun shown row =>
    if row.id ∈ shown.map EvCap.id then shown else shown ++ [row]) events

/-- The message rows of a channel and the number of omitted events. -/
def messageRows (bundle : MsgBundle) (cursor now : Nat) : List MessageRow × Nat :=
  let since := if cursor = 0 then now - windowSecs else cursor
  let total := (bundle.events.filter (fun event => since < event.createdAt)).length
  let events := selectedEvents bundle cursor now
  let omitted := if cursor = 0 then total - events.length else 0
  let forcedMentions := (bundle.forced.filter EvCap.forcedMention).map EvCap.id
  ((sortEvents (addForced events bundle.forced)).map (fun event =>
    { id := event.id
      mention := event.mentionsSelf || forcedMentions.contains event.id }), omitted)

/-! ## What is selected -/

theorem mem_sortEvents {events : List EvCap} {event : EvCap} :
    event ∈ sortEvents events ↔ event ∈ events :=
  List.mem_insertionSort _

/-- Forcing adds exactly the missing ids. -/
theorem mem_addForced_ids {events forced : List EvCap} {id : String} :
    id ∈ (addForced events forced).map EvCap.id ↔
      id ∈ events.map EvCap.id ∨ id ∈ forced.map EvCap.id := by
  induction forced generalizing events with
  | nil => simp [addForced]
  | cons row rest ih =>
      rw [addForced, List.foldl_cons, ← addForced, ih]
      by_cases hshown : row.id ∈ events.map EvCap.id
      · rw [if_pos hshown, List.map_cons, List.mem_cons]
        constructor
        · rintro (hevents | hrest)
          · exact Or.inl hevents
          · exact Or.inr (Or.inr hrest)
        · rintro (hevents | rfl | hrest)
          · exact Or.inl hevents
          · exact Or.inl hshown
          · exact Or.inr hrest
      · rw [if_neg hshown]
        simp [or_assoc, eq_comm]

/-- A message row shows a selected event or a forced row. -/
theorem mem_messageRows_ids {bundle : MsgBundle} {cursor now : Nat} {id : String} :
    id ∈ (messageRows bundle cursor now).1.map MessageRow.id ↔
      id ∈ (selectedEvents bundle cursor now).map EvCap.id ∨
        id ∈ bundle.forced.map EvCap.id := by
  rw [← mem_addForced_ids, messageRows, List.map_map]
  simp only [List.mem_map, Function.comp_apply, mem_sortEvents]

theorem clusterTail_subset {room : Nat} {events : List EvCap} {event : EvCap}
    (hevent : event ∈ clusterTail room events) : event ∈ events := by
  fun_induction clusterTail room events with
  | case1 | case2 => cases hevent
  | case3 => exact hevent
  | case4 room first earlier rest hgap =>
      rw [List.mem_singleton.mp hevent]
      exact List.mem_cons_self
  | case5 room first earlier rest hgap ih =>
      rcases List.mem_cons.mp hevent with heq | hrest
      · rw [heq]
        exact List.mem_cons_self
      · exact List.mem_cons_of_mem first (ih hrest)

/-- Only captured events are selected. -/
theorem selectedEvents_subset {bundle : MsgBundle} {cursor now : Nat} {event : EvCap}
    (hevent : event ∈ selectedEvents bundle cursor now) : event ∈ bundle.events := by
  have hcluster : ∀ events : List EvCap, event ∈ recentCluster events → event ∈ events := by
    intro events hrecent
    unfold recentCluster at hrecent
    split at hrecent
    · exact hrecent
    · have htail := clusterTail_subset (List.mem_reverse.mp hrecent)
      exact mem_sortEvents.mp (List.mem_reverse.mp htail)
  unfold selectedEvents at hevent
  by_cases hcursor : cursor = 0
  · rw [if_pos hcursor] at hevent
    exact (List.mem_filter.mp (hcluster _ hevent)).1
  · rw [if_neg hcursor] at hevent
    exact (List.mem_filter.mp hevent).1

/-- In a delta the cursor alone selects. -/
theorem mem_selectedEvents_delta {bundle : MsgBundle} {cursor now : Nat} (hcursor : cursor ≠ 0)
    {event : EvCap} :
    event ∈ selectedEvents bundle cursor now ↔
      event ∈ bundle.events ∧ cursor < event.createdAt := by
  simp [selectedEvents, hcursor]

end Mosaico
