import Mosaico.State.Operations

/-!
# The materialized relay caches

The database holds, next to the local plumbing of `Store`, what this daemon has
observed on the relay: channels with their parent links, rosters, profiles and
the event log.  The local workspace bindings and the pending reservations of
channel names complete it.
-/

namespace Mosaico

open Relational Transition

/-! ## Rows -/

/-- Metadata of a channel.  An empty `parent` marks a root channel. -/
structure Channel where
  channelH : String
  name : String
  about : String
  parent : String
  createdAt : Nat
  updatedAt : Nat
  deriving DecidableEq, Repr

structure ChannelMember where
  channelH : String
  pubkey : String
  role : String
  updatedAt : Nat
  deriving DecidableEq, Repr

def ChannelMember.key (row : ChannelMember) : String × String :=
  (row.channelH, row.pubkey)

/-- The high-water mark of a roster snapshot that was materialized. -/
structure ChannelMemberSet where
  channelH : String
  role : String
  updatedAt : Nat
  deriving DecidableEq, Repr

def ChannelMemberSet.key (row : ChannelMemberSet) : String × String :=
  (row.channelH, row.role)

theorem ChannelMemberSet.key_stamped (updatedAt : Nat) (row : ChannelMemberSet) :
    ChannelMemberSet.key { row with updatedAt := updatedAt } = row.key := rfl

inductive SessionState where
  | working
  | idle
  | suspended
  | offline
  deriving DecidableEq, Repr

/-- The current activity of a pubkey in a channel. -/
structure Status where
  pubkey : String
  channelH : String
  slug : String
  title : String
  activity : String
  state : SessionState
  stateSince : Nat
  lastSeen : Nat
  updatedAt : Nat
  expiration : Nat
  deriving DecidableEq, Repr

def Status.key (row : Status) : String × String :=
  (row.pubkey, row.channelH)

/-- What a pubkey advertises about itself, as far as channels are concerned. -/
structure Profile where
  pubkey : String
  host : String
  isBackend : Bool
  workspaces : List String
  updatedAt : Nat
  deriving DecidableEq, Repr

/-- An event of the relay log. -/
structure RelayEvent where
  id : String
  kind : Nat
  pubkey : String
  createdAt : Nat
  channelH : String
  dTag : String
  content : String
  tagsJson : String
  deriving DecidableEq, Repr

/-- The path of a channel's workspace on this machine. -/
structure WorkspaceBinding where
  channelH : String
  absPath : String
  updatedAt : Nat
  deriving DecidableEq, Repr

/-- A local reservation of a channel name whose metadata is still pending. -/
structure ResolutionIntent where
  parent : String
  name : String
  channelH : String
  createdAt : Nat
  deriving DecidableEq, Repr

def ResolutionIntent.key (row : ResolutionIntent) : String × String :=
  (row.parent, row.name)

structure Database where
  store : Store
  channels : Table Channel.channelH
  channelMembers : Table ChannelMember.key
  channelMemberSets : Table ChannelMemberSet.key
  statuses : Table Status.key
  profiles : Table Profile.pubkey
  events : Table RelayEvent.id
  workspaceRoots : Table WorkspaceBinding.channelH
  resolutionIntents : Table ResolutionIntent.key

def Database.empty : Database where
  store := Store.empty
  channels := Table.empty
  channelMembers := Table.empty
  channelMemberSets := Table.empty
  statuses := Table.empty
  profiles := Table.empty
  events := Table.empty
  workspaceRoots := Table.empty
  resolutionIntents := Table.empty

/-! ## Channel metadata -/

def archivedChannelAboutPrefix : String := "[ARCHIVED]"

def isArchivedChannelAbout (about : String) : Bool :=
  archivedChannelAboutPrefix.toList.isPrefixOf about.toList

def Channel.isArchived (channel : Channel) : Bool :=
  isArchivedChannelAbout channel.about

/-- The human display name.  A room whose name merely defaulted to its opaque id
is unnamed. -/
def Channel.humanName (channel : Channel) : Option String :=
  let name := Rust.trim channel.name
  if name = "" then none
  else if channel.parent ≠ "" ∧ name = channel.channelH then none
  else some name

namespace Database

/-! ## Reads -/

def getChannel (db : Database) (channelH : String) : Option Channel :=
  db.channels.find? channelH

/-- Newest metadata first. -/
def listChannels (db : Database) : List Channel :=
  db.channels.rows.insertionSort (fun left right => right.updatedAt ≤ left.updatedAt)

def channelIdForName (db : Database) (parent name : String) : Option String :=
  (db.channels.rows.find? (fun row => row.parent = parent ∧ row.name = name)).map
    Channel.channelH

def listChannelMembers (db : Database) (channelH : String) : List ChannelMember :=
  db.channelMembers.select (fun row => row.channelH = channelH)

def isChannelAdmin (db : Database) (channelH pubkey : String) : Bool :=
  (db.channelMembers.find? (channelH, pubkey)).any (fun row => row.role = "admin")

def getProfile (db : Database) (pubkey : String) : Option Profile :=
  db.profiles.find? pubkey

def listBackendProfiles (db : Database) : List Profile :=
  db.profiles.select (fun row => row.isBackend = true)

def workspacePath (db : Database) (channelH : String) : Option String :=
  (db.workspaceRoots.find? channelH).map WorkspaceBinding.absPath

def listWorkspaceBindings (db : Database) : List WorkspaceBinding :=
  db.workspaceRoots.rows.insertionSort (fun left right => left.channelH ≤ right.channelH)

/-- Events of a channel after `since`, oldest first, at most `limit` of them. -/
def chatForChannel (db : Database) (channelH : String) (since limit : Nat) : List RelayEvent :=
  (((db.events.select (fun row => row.channelH = channelH ∧ since < row.createdAt)).insertionSort
      (fun left right => left.id ≤ right.id)).insertionSort
    (fun left right => left.createdAt ≤ right.createdAt)).take limit

/-! ## Writes -/

/-- Materialize channel metadata.  Older metadata of a known channel is ignored,
and the schema keeps the names below one parent apart: metadata that would be
written is refused when another channel holds its name. -/
def upsertChannel (db : Database) (channelH name about parent : String) (createdAt : Nat) :
    Except StoreError (Unit × Database) := do
  bindParams [createdAt]
  ensure ((∃ row ∈ db.channels.find? channelH, createdAt < row.createdAt) ∨
      ¬ db.channels.Any (fun row =>
        row.parent = parent ∧ row.name = name ∧ row.channelH ≠ channelH))
    (.constraintViolation "relay_channels")
  return ((), { db with
    channels := db.channels.upsert
      { channelH := channelH
        name := name
        about := about
        parent := parent
        createdAt := createdAt
        updatedAt := createdAt }
      (fun row => if row.createdAt ≤ createdAt then
        { row with
          name := name
          about := about
          parent := parent
          createdAt := createdAt
          updatedAt := createdAt }
        else row)
      (by intro row; split <;> rfl) })

def isAddressable (kind : Nat) : Bool :=
  30000 ≤ kind && kind < 40000

def isReplaceable (kind : Nat) : Bool :=
  kind == 0 || kind == 3 || (10000 ≤ kind && kind < 20000)

/-- The event occupies the coordinate of `row`, for which the relay keeps the
newest event only. -/
def replacesEvent (event row : RelayEvent) : Prop :=
  (isAddressable event.kind = true ∧ row.kind = event.kind ∧ row.pubkey = event.pubkey ∧
      row.dTag = event.dTag) ∨
    (isAddressable event.kind = false ∧ isReplaceable event.kind = true ∧
      row.kind = event.kind ∧ row.pubkey = event.pubkey)

instance (event : RelayEvent) : DecidablePred (replacesEvent event) := fun _ =>
  inferInstanceAs (Decidable (_ ∨ _))

/-- Insert a relay event, replacing the older event of the same coordinate. -/
def insertEvent (db : Database) (event : RelayEvent) : Except StoreError (Bool × Database) := do
  bindParams [event.createdAt]
  if db.events.Any (fun row => replacesEvent event row ∧ event.createdAt ≤ row.createdAt) then
    return (false, db)
  else
    let cleared := db.events.deleteWhere (replacesEvent event)
    return ((cleared.find? event.id).isNone, { db with events := cleared.insertOrIgnore event })

end Database

end Mosaico
