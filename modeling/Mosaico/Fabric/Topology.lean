import Mathlib.Data.List.Dedup
import Mosaico.Fabric.ChannelRef
import Mosaico.Fabric.Roots

/-!
# The captured topology

The workspaces of this machine with their channels.  A workspace is named by its
root: a root channel that is not archived, or a channel bound to a local path.
Every channel that is not archived is filed under its resolved root, and a single
channel without one fails the whole capture.
-/

namespace Mosaico

open Relational Transition

structure SummaryCap where
  name : String
  channel : String
  about : String
  deriving DecidableEq, Repr

structure ChannelCap where
  h : String
  name : String
  reference : String
  about : String
  updatedAt : Nat
  deriving DecidableEq, Repr

structure WorkspaceCap where
  summary : SummaryCap
  updatedAt : Nat
  channels : List ChannelCap
  deriving DecidableEq, Repr

/-- A `BTreeSet<String>`: its elements in order, without repetition. -/
def sortDedup (names : List String) : List String :=
  names.dedup.insertionSort (· ≤ ·)

@[simp] theorem mem_sortDedup {names : List String} {name : String} :
    name ∈ sortDedup names ↔ name ∈ names := by
  rw [sortDedup, List.mem_insertionSort, List.mem_dedup]

namespace Database

/-- The channels that are not archived, newest metadata first. -/
def liveChannels (db : Database) : List Channel :=
  db.listChannels.filter (fun channel => !channel.isArchived)

/-- The roots of the workspaces. -/
def workspaceRootIds (db : Database) : List String :=
  sortDedup ((db.liveChannels.filter (fun channel => channel.parent = "")).map Channel.channelH ++
    db.listWorkspaceBindings.map WorkspaceBinding.channelH)

def channelCap (db : Database) (channel : Channel) : ChannelCap where
  h := channel.channelH
  name := if channel.parent = "" then channel.channelH
    else channel.humanName.getD channel.channelH
  reference := db.fullChannelRef channel.channelH
  about := channel.about
  updatedAt := channel.updatedAt

/-- The channels with their roots, in capture order. -/
def channelsWithRoots (db : Database) : Except AncestryError (List (String × ChannelCap)) :=
  db.liveChannels.mapM (fun channel => do
    let root ← db.rootForChannel channel.channelH
    return (root, db.channelCap channel))

def profileQualifies (db : Database) (root : String) (profile : Profile) : Bool :=
  profile.host ≠ "" && profile.workspaces.any (· = root) && db.isChannelAdmin root profile.pubkey

/-- The newest qualifying profile of a workspace, or zero. -/
def workspaceUpdatedAt (db : Database) (root : String) : Nat :=
  ((db.listBackendProfiles.filter (db.profileQualifies root)).map Profile.updatedAt).foldl max 0

def workspaceCap (db : Database) (filed : List (String × ChannelCap)) (root : String) :
    WorkspaceCap where
  summary :=
    { name := root
      channel := formatChannelRef root []
      about := ((db.liveChannels.find? (fun channel => channel.channelH = root)).map
        Channel.about).getD "" }
  updatedAt := db.workspaceUpdatedAt root
  channels := ((filed.filter (fun entry => entry.1 = root)).map Prod.snd).insertionSort
    (fun left right => left.reference ≤ right.reference)

/-- The workspaces of this machine. -/
def captureTopology (db : Database) : Except AncestryError (List WorkspaceCap) := do
  let filed ← db.channelsWithRoots
  return db.workspaceRootIds.map (db.workspaceCap filed)

/-! ## When the capture succeeds -/

theorem mem_liveChannels {db : Database} {channel : Channel} :
    channel ∈ db.liveChannels ↔
      db.getChannel channel.channelH = some channel ∧ channel.isArchived = false := by
  rw [liveChannels, List.mem_filter, listChannels, List.mem_insertionSort,
    Table.mem_rows_iff]
  simp [getChannel]

/-- The topology is captured exactly when every channel that is not archived has a
root. -/
theorem captureTopology_ok_iff {db : Database} :
    (∃ workspaces, db.captureTopology = .ok workspaces) ↔
      ∀ channel ∈ db.liveChannels, db.Resolvable channel.channelH := by
  have hfiled : (∃ workspaces, db.captureTopology = .ok workspaces) ↔
      ∃ filed, db.channelsWithRoots = .ok filed := by
    simp only [captureTopology, bind_eq_ok, pure_eq_ok]
    constructor
    · rintro ⟨_, filed, hfiled, _⟩
      exact ⟨filed, hfiled⟩
    · rintro ⟨filed, hfiled⟩
      exact ⟨_, filed, hfiled, rfl⟩
  rw [hfiled, channelsWithRoots, exists_mapM_eq_ok]
  apply forall₂_congr
  intro channel _
  rw [← rootForChannel_ok_iff]
  simp only [bind_eq_ok, pure_eq_ok]
  constructor
  · rintro ⟨_, root, hroot, _⟩
    exact ⟨root, hroot⟩
  · rintro ⟨root, hroot⟩
    exact ⟨_, root, hroot, rfl⟩

end Database

end Mosaico
