import Mosaico.Fabric.Relay
import Mosaico.Forest.Ancestry

/-!
# The root of a channel

A workspace is a tree of channels, and everything that belongs to a workspace is
found by walking the parent links of a channel to its root.  The walk is bounded,
so it fails for cycles and for channels deeper than the bound; a channel with an
unknown ancestor is resolved only when it is bound to a path itself.
-/

namespace Mosaico

open Relational Forest

def maxChannelParentDepth : Nat := 16

/-- Why the root of a channel cannot be resolved. -/
inductive AncestryError where
  | parentCycle (channel : String)
  | parentChainTooLong (channel : String)
  | incompleteAncestry (channel : String)
  deriving DecidableEq, Repr

/-- The text of an error.  `debug` is Rust's `{:?}` rendering of a string. -/
def AncestryError.text (debug : String → String) : AncestryError → String
  | .parentCycle channel => "channel parent cycle detected at " ++ channel
  | .parentChainTooLong channel =>
      "channel parent chain exceeds " ++ toString maxChannelParentDepth ++ " links at " ++ channel
  | .incompleteAncestry channel =>
      "workspace resolver: incomplete ancestry for channel " ++ debug channel

/-- The parent link of a channel, for the ancestry of channels. -/
def Channel.parentLink (channel : Channel) : Option String :=
  if channel.parent = "" then none else some channel.parent

namespace Database

def parentLinks (db : Database) (channelH : String) : Option (Option String) :=
  (db.getChannel channelH).map Channel.parentLink

/-- Walk the parent links of a known channel to its root channel, or `none` when
the channel or one of its ancestors is unknown. -/
def rootChannelOf (db : Database) (channelH : String) :
    Except AncestryError (Option String) :=
  if db.getChannel channelH = none then .ok none
  else match climb db.parentLinks maxChannelParentDepth [] channelH with
    | .root root => .ok (some root)
    | .unknown => .ok none
    | .cycle channel => .error (.parentCycle channel)
    | .deep => .error (.parentChainTooLong channelH)

/-- The root of a channel's workspace. -/
def rootForChannel (db : Database) (channelH : String) : Except AncestryError String :=
  if channelH = "" then .ok ""
  else do
    match ← db.rootChannelOf channelH with
    | some root => return root
    | none =>
        if (db.workspacePath channelH).isSome then return channelH
        else throw (.incompleteAncestry channelH)

def pathForChannel (db : Database) (channelH : String) :
    Except AncestryError (Option String) := do
  let root ← db.rootForChannel channelH
  return db.workspacePath root

/-! ## When a root is resolved -/

/-- The channel has a root within the bound, or an unknown ancestor within it and
a path of its own. -/
def Resolvable (db : Database) (channelH : String) : Prop :=
  channelH = "" ∨
    (∃ root depth, depth < maxChannelParentDepth ∧
      Rooted db.parentLinks channelH root depth) ∨
    ((db.workspacePath channelH).isSome = true ∧
      ∃ depth, depth ≤ maxChannelParentDepth ∧ Dangling db.parentLinks channelH depth)

theorem rootChannelOf_eq_some_iff {db : Database} {channelH root : String} :
    db.rootChannelOf channelH = .ok (some root) ↔
      ∃ depth, depth < maxChannelParentDepth ∧ Rooted db.parentLinks channelH root depth := by
  rw [← climb_eq_root_iff, rootChannelOf]
  constructor
  · intro hroot
    split at hroot
    · cases hroot
    · split at hroot
      · rename_i heq
        cases hroot
        exact heq
      · cases hroot
      · cases hroot
      · cases hroot
  · intro hclimb
    have hknown : db.getChannel channelH ≠ none := by
      intro hnone
      obtain ⟨depth, _, hrooted⟩ := rooted_of_climb hclimb
      exact hrooted.known (by rw [parentLinks, hnone, Option.map_none])
    rw [if_neg hknown, hclimb]

theorem rootChannelOf_eq_none_iff {db : Database} {channelH : String} :
    db.rootChannelOf channelH = .ok none ↔
      ∃ depth, depth ≤ maxChannelParentDepth ∧ Dangling db.parentLinks channelH depth := by
  have hbound : 0 < maxChannelParentDepth := by decide
  rw [← climb_eq_unknown_iff hbound, rootChannelOf]
  by_cases hknown : db.getChannel channelH = none
  · have hunknown : Dangling db.parentLinks channelH 0 :=
      .unknown (by rw [parentLinks, hknown, Option.map_none])
    simp [hknown, climb_of_dangling hunknown hbound (Nat.zero_le _)]
  · rw [if_neg hknown]
    constructor
    · intro hnone
      split at hnone
      · cases hnone
      · rename_i heq
        exact heq
      · cases hnone
      · cases hnone
    · intro hclimb
      rw [hclimb]

/-- A channel is resolved exactly when its ancestry allows it. -/
theorem rootForChannel_ok_iff {db : Database} {channelH : String} :
    (∃ root, db.rootForChannel channelH = .ok root) ↔ db.Resolvable channelH := by
  unfold rootForChannel Resolvable
  by_cases hempty : channelH = ""
  · simp [hempty]
  · rw [if_neg hempty]
    simp only [hempty, false_or, ← rootChannelOf_eq_some_iff, ← rootChannelOf_eq_none_iff]
    cases db.rootChannelOf channelH with
    | error error => simp
    | ok found =>
        cases found with
        | some root => simp
        | none =>
            by_cases hbound : (db.workspacePath channelH).isSome = true
            · simp [hbound]
            · simp [hbound]

end Database

end Mosaico
