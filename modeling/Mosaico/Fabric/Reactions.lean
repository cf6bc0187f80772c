import Mosaico.Fabric.Wire
import Mosaico.Reading.Queries
import Mosaico.Relational.Conflicts
import Mosaico.View.Render

/-!
# Reactions

The projection of the reactions that the relay delivers, and the rows of the fabric view that
are made of it.  A capture reads the reactions on the messages of one pubkey, oldest first and
a bounded number of them, and leaves out those of backends; the view keeps the ones after its
cursor, groups them by message and emoji and shows the first groups.
-/

namespace Mosaico

open Relational Transition Domain Nip29WireCodec

/-- Widest capture cap; grouping applies the real render cap. -/
def reactionCaptureCap : Nat := 1000

/-- Maximum reaction groups rendered per turn. -/
def maxReactionRows : Nat := 8

/-- Snippet length for the reacted-to message body. -/
def snippetChars : Nat := 50

/-! ## Rows -/

/-- A row of `relay_reactions`. -/
structure StoredReaction where
  reactionId : String
  targetMessageId : String
  channelH : String
  reactorPubkey : String
  emoji : String
  createdAt : Nat
  deriving DecidableEq, Repr

/-- A reaction together with the body of the message it is on. -/
structure AuthoredReaction extends StoredReaction where
  targetBody : String
  deriving DecidableEq, Repr

/-- The place of a reaction in the capture: its time, then its id. -/
def AuthoredReaction.position (row : AuthoredReaction) : Nat ×ₗ String :=
  toLex (row.createdAt, row.reactionId)

/-- The columns of a profile that name a pubkey. -/
structure ProfileNames where
  slug : String
  agentSlug : String

/-- The database with the reaction projection and the names of the profiles. -/
structure ReactionStore where
  intake : Intake
  reactions : Table StoredReaction.reactionId
  profileNames : String → ProfileNames

namespace ReactionStore

/-! ## Materialization -/

/-- A reaction that is there already stays as it is. -/
def upsertReaction (store : ReactionStore) (row : StoredReaction) :
    Except StoreError (Unit × ReactionStore) := do
  bindParams [row.createdAt]
  return ((), { store with reactions := store.reactions.insertOrIgnore row })

/-- A failure is only logged. -/
def materializeReaction (store : ReactionStore) (event : Event) (reaction : Reaction) :
    ReactionStore :=
  commit (store.upsertReaction
    { reactionId := event.id
      targetMessageId := reaction.targetEventId
      channelH := reaction.channel
      reactorPubkey := event.pubkey
      emoji := reaction.emoji
      createdAt := event.createdAt }) store

/-- Materialize an event.  An event that is no reaction leaves the reactions alone, and
`elsewhere` is what it makes of the rest of the database. -/
def materialize (env : CodecEnv) (store : ReactionStore) (event : Event)
    (elsewhere : Intake × (String → ProfileNames)) : ReactionStore :=
  match decodeEvent env event with
  | some (.reaction reaction) => store.materializeReaction event reaction
  | _ => { store with intake := elsewhere.1, profileNames := elsewhere.2 }

/-! ## Queries -/

/-- `JOIN messages`: the reaction with the body of its message, if `author` wrote that. -/
def onAuthored (store : ReactionStore) (author : String) (since : Nat) (row : StoredReaction) :
    Option AuthoredReaction :=
  (store.intake.messages.find? row.targetMessageId).bind fun message =>
    if message.authorPubkey = author ∧ since < row.createdAt ∧ row.reactorPubkey ≠ author then
      some { row with targetBody := message.body }
    else none

/-- The reactions of others on the messages of `author` after `since`. -/
def authored (store : ReactionStore) (author : String) (since : Nat) : List AuthoredReaction :=
  store.reactions.rows.filterMap (store.onAuthored author since)

/-- Oldest first, capped. -/
def reactionsOnAuthoredAfter (store : ReactionStore) (author : String) (since limit : Nat) :
    Except StoreError (List AuthoredReaction) := do
  bindParams [since]
  return (ascending AuthoredReaction.position (store.authored author since)).take limit

/-! ## Display references -/

def pubkeyShort (id : String) : String := String.ofList (id.toList.take 8)

def agentLabel (slug host : String) : String :=
  let host := Rust.trim host
  if host = "" then slug else slug ++ "@" ++ host

def agentRefFrom (slug host localHost : String) : String :=
  let host := Rust.trim host
  if host = "" ∨ host = Rust.trim localHost then slug else agentLabel slug host

/-- The display reference of a pubkey. -/
def pubkeyRef (store : ReactionStore) (pubkey localHost : String) : String :=
  let host := (store.intake.db.getProfile pubkey).map Profile.host
  let names := (store.intake.db.getProfile pubkey).map fun _ => store.profileNames pubkey
  let slug := ((names.map ProfileNames.slug).filter (· ≠ "")).getD (pubkeyShort pubkey)
  if names.any (fun names => names.agentSlug ≠ "") then slug
  else agentRefFrom slug ((host.filter (· ≠ "")).getD localHost) localHost

end ReactionStore

/-! ## Capture -/

/-- A captured reaction. -/
structure ReactionCap where
  reactorRef : String
  emoji : String
  targetMessageId : String
  targetSnippet : String
  createdAt : Nat
  deriving DecidableEq, Repr

def snippet (body : String) : String :=
  let trimmed := (Rust.trim body).toList
  String.ofList (trimmed.take snippetChars ++ if snippetChars < trimmed.length then ['…'] else [])

/-- Whose messages a capture is about, and since when. -/
structure ReactionScope where
  selfPubkey : String
  since : Nat
  localHost : String
  backendPubkey : String
  deriving DecidableEq, Repr

namespace ReactionStore

def reactionCap (store : ReactionStore) (scope : ReactionScope) (row : AuthoredReaction) :
    ReactionCap where
  reactorRef := store.pubkeyRef row.reactorPubkey scope.localHost
  emoji := row.emoji
  targetMessageId := row.targetMessageId
  targetSnippet := snippet row.targetBody
  createdAt := row.createdAt

/-- Freeze the reactions on the messages of the reader.  A failed read has no rows. -/
def captureReactionSources (store : ReactionStore) (scope : ReactionScope) : List ReactionCap :=
  if scope.selfPubkey = "" then []
  else
    let rows := match store.reactionsOnAuthoredAfter scope.selfPubkey scope.since
        reactionCaptureCap with
      | .ok rows => rows
      | .error _ => []
    (rows.filter fun row =>
        !store.intake.db.isBackendPubkey scope.backendPubkey row.reactorPubkey).map
      (store.reactionCap scope)

end ReactionStore

/-! ## Groups -/

/-- The reactions on one message with one emoji. -/
structure ReactionGroup where
  targetMessageId : String
  emoji : String
  reactors : List String
  targetSnippet : String
  latest : Nat
  deriving DecidableEq, Repr

def ReactionGroup.key (group : ReactionGroup) : String × String :=
  (group.targetMessageId, group.emoji)

def ReactionCap.key (cap : ReactionCap) : String × String :=
  (cap.targetMessageId, cap.emoji)

/-- The order of the map that the groups are collected in. -/
def ReactionGroup.mapKey (group : ReactionGroup) : String ×ₗ String :=
  toLex group.key

/-- The order of the groups in a view: by their newest reaction, then by their texts. -/
def ReactionGroup.position (group : ReactionGroup) : Nat ×ₗ String ×ₗ String :=
  toLex (group.latest, toLex (group.targetSnippet, group.emoji))

/-- Add a reactor once, and keep the newest time. -/
def ReactionGroup.join (cap : ReactionCap) (group : ReactionGroup) : ReactionGroup :=
  { group with
    reactors := if cap.reactorRef ∈ group.reactors then group.reactors
      else group.reactors ++ [cap.reactorRef]
    latest := max group.latest cap.createdAt }

@[simp] theorem ReactionGroup.key_join (cap : ReactionCap) (group : ReactionGroup) :
    (group.join cap).key = group.key := rfl

/-- The group that a reaction opens. -/
def ReactionCap.opened (cap : ReactionCap) : ReactionGroup where
  targetMessageId := cap.targetMessageId
  emoji := cap.emoji
  reactors := []
  targetSnippet := cap.targetSnippet
  latest := 0

def joinGroups (groups : Table ReactionGroup.key) (cap : ReactionCap) :
    Table ReactionGroup.key :=
  groups.upsert (cap.opened.join cap) (ReactionGroup.join cap) (ReactionGroup.key_join cap)

/-- After the cursor and not ahead of the clock. -/
def ReactionCap.inWindow (cursor now : Nat) (cap : ReactionCap) : Bool :=
  cursor < cap.createdAt && cap.createdAt ≤ now

def collectGroups (sources : List ReactionCap) (cursor now : Nat) : Table ReactionGroup.key :=
  (sources.filter (ReactionCap.inWindow cursor now)).foldl joinGroups Table.empty

/-- The groups of a view in their order. -/
def orderedGroups (sources : List ReactionCap) (cursor now : Nat) : List ReactionGroup :=
  ascending ReactionGroup.position
    (ascending ReactionGroup.mapKey (collectGroups sources cursor now).rows)

def relativeTime (past now : Nat) : String :=
  let d := now - past
  if d < 60 then "just now"
  else if d < 3600 then toString (d / 60) ++ " min ago"
  else if d < 86400 then
    let h := d / 3600
    toString h ++ " hour" ++ (if h = 1 then "" else "s") ++ " ago"
  else if d < 172800 then "yesterday"
  else toString (d / 86400) ++ " days ago"

def ReactionGroup.row (now : Nat) (group : ReactionGroup) : View.ReactionRow where
  reactors := ascending id group.reactors
  emoji := group.emoji
  targetSnippet := group.targetSnippet
  age := relativeTime group.latest now

/-- The rendered rows and the count elided by the cap. -/
def groupReactions (sources : List ReactionCap) (cursor now : Nat) :
    List View.ReactionRow × Nat :=
  let ordered := orderedGroups sources cursor now
  ((ordered.take maxReactionRows).map (ReactionGroup.row now), ordered.length - maxReactionRows)

/-! ## What the groups have -/

/-- What a list of captured reactions makes of the groups. -/
structure Collected (caps : List ReactionCap) (groups : Table ReactionGroup.key) : Prop where
  covers : ∀ cap ∈ caps, ∃ group ∈ groups.rows,
    group.key = cap.key ∧ cap.reactorRef ∈ group.reactors
  sources : ∀ group ∈ groups.rows, ∀ reactor ∈ group.reactors,
    ∃ cap ∈ caps, cap.key = group.key ∧ cap.reactorRef = reactor
  inhabited : ∀ group ∈ groups.rows, group.reactors ≠ []

theorem mem_reactors_join {cap : ReactionCap} {group : ReactionGroup} {reactor : String} :
    reactor ∈ (group.join cap).reactors ↔ reactor ∈ group.reactors ∨ reactor = cap.reactorRef := by
  unfold ReactionGroup.join
  split
  · rename_i hthere
    constructor
    · exact Or.inl
    · rintro (hmem | rfl)
      · exact hmem
      · exact hthere
  · simp

theorem key_opened (cap : ReactionCap) : (cap.opened.join cap).key = cap.key := rfl

theorem find?_joinGroups (groups : Table ReactionGroup.key) (cap : ReactionCap)
    (k : String × String) :
    (joinGroups groups cap).find? k =
      if k = cap.key then some ((groups.find? k).elim (cap.opened.join cap) (.join cap))
      else groups.find? k := by
  rw [joinGroups, Table.find?_upsert, key_opened]

/-- A group was there under another key, or the reaction has just joined it. -/
theorem joined_of_mem {groups : Table ReactionGroup.key} {cap : ReactionCap}
    {group : ReactionGroup} (hgroup : group ∈ (joinGroups groups cap).rows) :
    group ∈ groups.rows ∨
      (cap.key = group.key ∧ ∃ before, group = before.join cap ∧
        (before = cap.opened ∨ (before ∈ groups.rows ∧ before.key = group.key))) := by
  rw [Table.mem_rows_iff, find?_joinGroups] at hgroup
  split at hgroup
  · rename_i hkey
    refine Or.inr ⟨hkey.symm, ?_⟩
    cases hold : groups.find? group.key with
    | none =>
        rw [hold] at hgroup
        exact ⟨cap.opened, (Option.some.inj hgroup).symm, Or.inl rfl⟩
    | some old =>
        rw [hold] at hgroup
        exact ⟨old, (Option.some.inj hgroup).symm,
          Or.inr ⟨Table.mem_of_find? hold, Table.key_of_find? hold⟩⟩
  · exact Or.inl (Table.mem_rows_iff.mpr hgroup)

/-- One more reaction. -/
theorem Collected.join {caps : List ReactionCap} {groups : Table ReactionGroup.key}
    (hcollected : Collected caps groups) (cap : ReactionCap) :
    Collected (caps ++ [cap]) (joinGroups groups cap) := by
  constructor
  · intro other hother
    rw [List.mem_append, List.mem_singleton] at hother
    by_cases hkey : other.key = cap.key
    · have hhere := find?_joinGroups groups cap cap.key
      rw [if_pos rfl] at hhere
      refine ⟨_, Table.mem_of_find? hhere, (Table.key_of_find? hhere).trans hkey.symm, ?_⟩
      rcases hother with hbefore | rfl
      · obtain ⟨group, hgroup, hgroupKey, hreactor⟩ := hcollected.covers other hbefore
        have hold : groups.find? cap.key = some group :=
          Table.find?_eq_some_iff.mpr ⟨hgroup, hgroupKey.trans hkey⟩
        rw [hold]
        exact mem_reactors_join.mpr (Or.inl hreactor)
      · cases groups.find? other.key with
        | none | some group => exact mem_reactors_join.mpr (Or.inr rfl)
    · rcases hother with hbefore | rfl
      · obtain ⟨group, hgroup, hgroupKey, hreactor⟩ := hcollected.covers other hbefore
        refine ⟨group, ?_, hgroupKey, hreactor⟩
        rw [Table.mem_rows_iff, find?_joinGroups, hgroupKey, if_neg hkey, ← hgroupKey]
        exact Table.mem_rows_iff.mp hgroup
      · exact absurd rfl hkey
  · intro group hgroup reactor hreactor
    have hbefore : ∀ old ∈ groups.rows, reactor ∈ old.reactors →
        ∃ other ∈ caps ++ [cap], other.key = old.key ∧ other.reactorRef = reactor := by
      intro old hold hmem
      obtain ⟨other, hother, hfound⟩ := hcollected.sources old hold reactor hmem
      exact ⟨other, List.mem_append_left _ hother, hfound⟩
    rcases joined_of_mem hgroup with hold | ⟨hkey, before, rfl, hwas⟩
    · exact hbefore group hold hreactor
    · rcases mem_reactors_join.mp hreactor with hmem | rfl
      · rcases hwas with rfl | ⟨hold, hsame⟩
        · cases hmem
        · rw [← hsame]
          exact hbefore before hold hmem
      · exact ⟨cap, by simp, hkey, rfl⟩
  · intro group hgroup
    rcases joined_of_mem hgroup with hold | ⟨_, before, rfl, _⟩
    · exact hcollected.inhabited group hold
    · exact List.ne_nil_of_mem (mem_reactors_join.mpr (Or.inr rfl))

theorem collected_foldl (caps : List ReactionCap) :
    Collected caps (caps.foldl joinGroups Table.empty) := by
  induction caps using List.reverseRecOn with
  | nil =>
      constructor
      · intro cap hcap
        cases hcap
      · intro group hgroup
        cases hgroup
      · intro group hgroup
        cases hgroup
  | append_singleton earlier cap ih =>
      rw [List.foldl_append]
      exact ih.join cap

/-- The groups of a view are those of the captured reactions in its window. -/
theorem collected_groups (sources : List ReactionCap) (cursor now : Nat) :
    Collected (sources.filter (ReactionCap.inWindow cursor now))
      (collectGroups sources cursor now) :=
  collected_foldl _

@[simp] theorem mem_orderedGroups {sources : List ReactionCap} {cursor now : Nat}
    {group : ReactionGroup} :
    group ∈ orderedGroups sources cursor now ↔
      group ∈ (collectGroups sources cursor now).rows := by
  simp [orderedGroups]

/-! ## What a capture has -/

namespace ReactionStore

variable {store : ReactionStore} {scope : ReactionScope} {author : String} {since : Nat}
  {row : AuthoredReaction}

theorem mem_authored :
    row ∈ store.authored author since ↔
      row.toStoredReaction ∈ store.reactions.rows ∧ since < row.createdAt ∧
        row.reactorPubkey ≠ author ∧
        ∃ message ∈ store.intake.messages.rows, message.messageId = row.targetMessageId ∧
          message.authorPubkey = author ∧ message.body = row.targetBody := by
  simp only [authored, onAuthored, List.mem_filterMap, Option.bind_eq_some_iff,
    Table.find?_eq_some_iff]
  constructor
  · rintro ⟨stored, hstored, message, ⟨hmessage, hid⟩, hrow⟩
    split at hrow
    · rename_i hshown
      cases hrow
      exact ⟨hstored, hshown.2.1, hshown.2.2, message, hmessage, hid, hshown.1, rfl⟩
    · cases hrow
  · rintro ⟨hstored, hsince, hother, message, hmessage, hid, hauthor, hbody⟩
    refine ⟨row.toStoredReaction, hstored, message, ⟨hmessage, hid⟩, ?_⟩
    rw [if_pos ⟨hauthor, hsince, hother⟩, hbody]

theorem reactionId_of_onAuthored {stored : StoredReaction}
    (hrow : store.onAuthored author since stored = some row) :
    row.reactionId = stored.reactionId := by
  obtain ⟨message, _, hmessage⟩ := Option.bind_eq_some_iff.mp hrow
  split at hmessage
  · cases hmessage
    rfl
  · cases hmessage

/-- Reactions differ in their ids, and so in their places. -/
theorem nodup_authored_positions (store : ReactionStore) (author : String) (since : Nat) :
    ((store.authored author since).map AuthoredReaction.position).Nodup := by
  have hids : store.reactions.rows.Pairwise
      fun first second => first.reactionId ≠ second.reactionId :=
    List.pairwise_map.mp store.reactions.keysNodup
  rw [authored, List.Nodup, List.pairwise_map, List.pairwise_filterMap]
  refine hids.imp ?_
  intro first second hne row hrow other hother hplace
  apply hne
  rw [← reactionId_of_onAuthored hrow, ← reactionId_of_onAuthored hother]
  exact congrArg (fun place => (ofLex place).2) hplace

/-- A reaction is captured exactly if it is among the oldest ones. -/
theorem mem_captureReactionSources {cap : ReactionCap} :
    cap ∈ store.captureReactionSources scope ↔
      scope.selfPubkey ≠ "" ∧ scope.since ≤ Rust.i64Max ∧
        ∃ row ∈ store.authored scope.selfPubkey scope.since,
          rank AuthoredReaction.position (store.authored scope.selfPubkey scope.since) row <
              reactionCaptureCap ∧
            store.intake.db.isBackendPubkey scope.backendPubkey row.reactorPubkey = false ∧
            store.reactionCap scope row = cap := by
  have htake : ∀ row, row ∈ (ascending AuthoredReaction.position
        (store.authored scope.selfPubkey scope.since)).take reactionCaptureCap ↔
      row ∈ store.authored scope.selfPubkey scope.since ∧
        rank AuthoredReaction.position (store.authored scope.selfPubkey scope.since) row <
          reactionCaptureCap := by
    intro row
    rw [mem_take_iff_rank (pairwise_lt_ascending (nodup_authored_positions _ _ _)), mem_ascending,
      rank_perm (ascending_perm _)]
  unfold captureReactionSources reactionsOnAuthoredAfter
  by_cases hself : scope.selfPubkey = ""
  · simp [hself]
  · rw [if_neg hself]
    by_cases hsince : scope.since ≤ Rust.i64Max
    · have hbind : bindParams [scope.since] = .ok () := by simpa using hsince
      rw [hbind]
      simp only [List.mem_map, List.mem_filter, Bool.not_eq_true']
      constructor
      · rintro ⟨row, ⟨hrow, hbackend⟩, hcap⟩
        obtain ⟨hmem, hrank⟩ := (htake row).mp hrow
        exact ⟨hself, hsince, row, hmem, hrank, hbackend, hcap⟩
      · rintro ⟨_, _, row, hmem, hrank, hbackend, hcap⟩
        exact ⟨row, ⟨(htake row).mpr ⟨hmem, hrank⟩, hbackend⟩, hcap⟩
    · rw [bindParams_eq_error (by simpa using hsince)]
      simp [hsince]

end ReactionStore

end Mosaico
