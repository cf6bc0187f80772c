import Mathlib.Data.List.Sort
import Mosaico.Fabric.Relay
import Mosaico.Forest.Preorder

/-!
# The list of channels below a channel

`channel list` prints the channels below one as an indented outline.  The parent links come
from the relay, so nothing keeps them from forming cycles or from naming unknown channels.
-/

namespace Mosaico

open Forest Relational

/-- What is listed of a channel. -/
structure ChannelEntry where
  childH : String
  name : String
  about : String
  deriving DecidableEq, Repr

namespace ChannelEntry

/-- An unnamed channel is displayed by its description. -/
def ofChannel (channel : Channel) : ChannelEntry where
  childH := channel.channelH
  name := if channel.name = "" then channel.about else channel.name
  about := channel.about

/-- The order of the triples of id, name and description. -/
def before (left right : ChannelEntry) : Prop :=
  left.childH < right.childH ∨ (left.childH = right.childH ∧
    (left.name < right.name ∨ (left.name = right.name ∧ left.about ≤ right.about)))

instance : DecidableRel before := fun left right =>
  inferInstanceAs (Decidable (left.childH < right.childH ∨ (left.childH = right.childH ∧
    (left.name < right.name ∨ (left.name = right.name ∧ left.about ≤ right.about)))))

end ChannelEntry

/-- The channels that are listed below `node`. -/
def channelKids (rows : List Channel) (node : String) : List ChannelEntry :=
  ((rows.filter fun channel => channel.parent ≠ "" && !channel.isArchived &&
    channel.parent == node).map ChannelEntry.ofChannel).insertionSort ChannelEntry.before

/-- `preorder_rooms`, with a bound on the depth of its recursion. -/
def preorderRooms (rows : List Channel) (fuel : Nat) (root : String) :
    List (ChannelEntry × Nat) :=
  (preorder (channelKids rows) ChannelEntry.childH fuel root 0 ⟨[root], []⟩).out

def channelListRooms (rows : List Channel) (root : String) : List (ChannelEntry × Nat) :=
  preorderRooms rows (rows.length + 1) root

def Database.rpcChannelList (db : Database) (channel : String) : List (ChannelEntry × Nat) :=
  channelListRooms db.listChannels channel

theorem mem_channelKids {rows : List Channel} {node : String} {entry : ChannelEntry} :
    entry ∈ channelKids rows node ↔ ∃ channel ∈ rows, channel.parent ≠ "" ∧
      channel.isArchived = false ∧ channel.parent = node ∧ ChannelEntry.ofChannel channel = entry := by
  simp only [channelKids, List.mem_insertionSort, List.mem_map, List.mem_filter, Bool.and_eq_true,
    decide_eq_true_eq, Bool.not_eq_true', beq_iff_eq]
  constructor
  · rintro ⟨channel, ⟨hmem, ⟨hparent, harchived⟩, hnode⟩, hentry⟩
    exact ⟨channel, hmem, hparent, harchived, hnode, hentry⟩
  · rintro ⟨channel, hmem, hparent, harchived, hnode, hentry⟩
    exact ⟨channel, ⟨hmem, ⟨hparent, harchived⟩, hnode⟩, hentry⟩

theorem childH_mem_of_channelKids (rows : List Channel) (node : String) :
    ∀ entry ∈ channelKids rows node, entry.childH ∈ rows.map Channel.channelH := by
  intro entry hentry
  obtain ⟨channel, hmem, -, -, -, rfl⟩ := mem_channelKids.mp hentry
  exact List.mem_map_of_mem hmem

/-- A listed channel below another one. -/
def Database.ListedBelow (db : Database) (parent child : String) : Prop :=
  ∃ channel ∈ db.channels.rows, channel.channelH = child ∧ channel.parent = parent ∧
    parent ≠ "" ∧ channel.isArchived = false

theorem Database.link_channelKids_iff (db : Database) (parent child : String) :
    Link (channelKids db.listChannels) ChannelEntry.childH parent child ↔
      db.ListedBelow parent child := by
  constructor
  · rintro ⟨entry, hentry, rfl⟩
    obtain ⟨channel, hmem, hparent, harchived, rfl, rfl⟩ := mem_channelKids.mp hentry
    exact ⟨channel, (List.mem_insertionSort _).mp hmem, rfl, rfl, hparent, harchived⟩
  · rintro ⟨channel, hmem, rfl, rfl, hparent, harchived⟩
    exact ⟨ChannelEntry.ofChannel channel, mem_channelKids.mpr
      ⟨channel, (List.mem_insertionSort _).mpr hmem, hparent, harchived, rfl, rfl⟩, rfl⟩

/-- For every content of the channels table, cycles and dangling parents included, the list
below a channel comes to an end, is the outline of a tree of parent links with siblings in
order, names no channel twice, and names exactly the channels that links through channels
that are not archived lead to from the given one, itself left out. -/
theorem Database.rpcChannelList_spec (db : Database) (root : String) :
    (∀ more, preorderRooms db.listChannels (db.listChannels.length + 1 + more) root =
      db.rpcChannelList root) ∧
    Outlined (channelKids db.listChannels) ChannelEntry.childH
      (channelKids db.listChannels root) 0 (db.rpcChannelList root) ∧
    ((db.rpcChannelList root).map fun room => room.1.childH).Nodup ∧
    (∀ child, child ∈ (db.rpcChannelList root).map (fun room => room.1.childH) ↔
      child ≠ root ∧ Relation.TransGen db.ListedBelow root child) := by
  have hnodes := childH_mem_of_channelKids db.listChannels
  obtain ⟨houtlined, hnodup, hmem⟩ := preorder_root hnodes
    (show (db.listChannels.map Channel.channelH).length < db.listChannels.length + 1 by simp) root
  refine ⟨fun more => ?_, houtlined, hnodup, fun child => (hmem child).trans ?_⟩
  · refine congrArg Traversal.out (preorder_add hnodes root 0 ⟨[root], []⟩ ?_ more)
    refine Nat.lt_of_le_of_lt (List.length_filter_le _ _) ?_
    simp
  · have hlinks : Link (channelKids db.listChannels) ChannelEntry.childH = db.ListedBelow := by
      funext parent child
      exact propext (db.link_channelKids_iff parent child)
    rw [hlinks]

end Mosaico
