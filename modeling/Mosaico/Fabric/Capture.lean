import Mosaico.Fabric.Messages
import Mosaico.Fabric.Topology

/-!
# The captured inputs of a view

One read of the database freezes everything a fabric view depends on, apart from
its clock and cursor: the workspaces, the channels the session takes part in, the
rosters, the presence and the messages.  The presence of a channel is read by its
own component and enters as a parameter.
-/

namespace Mosaico

open Relational Transition

structure NativeFailureCap where
  outcome : String
  message : String
  finishedAt : Nat
  deriving DecidableEq, Repr

/-- The captured status of a session in a channel.  A local session has no
expiration. -/
structure StatusCap where
  pubkey : String
  slug : String
  state : SessionState
  activity : String
  title : String
  changedAt : Nat
  stateSince : Nat
  expiration : Option Nat
  nativeFailure : Option NativeFailureCap
  deriving DecidableEq, Repr

/-- What the capture reads through other components: the JSON parser of tag lists,
Rust's `{:?}` rendering of a string and the presence of a channel. -/
structure CaptureEnv where
  parseTags : String → Option (List (List String))
  debug : String → String
  statusCaps : Database → String → List StatusCap

/-- The frozen inputs.  The maps are functions of the channel. -/
structure ViewInputs where
  hasSelf : Bool
  selfPubkey : String
  currentWorkspace : String
  activeChannels : List String
  workspaces : List WorkspaceCap
  warnings : List String
  roster : String → List String
  statuses : String → List StatusCap
  messages : String → Option MsgBundle

inductive ChannelReadiness where
  | ready
  | archived
  | missing
  deriving DecidableEq, Repr

/-- The forced rows of one channel; rows without a channel belong to the scope. -/
def forcedFor (rows : List FabricMessageSeed) (fallbackScope channel : String) :
    List FabricMessageSeed :=
  rows.filter (fun row => (if row.channel = "" then fallbackScope else row.channel) = channel)

/-- The channels that forced rows belong to. -/
def forcedChannels (rows : List FabricMessageSeed) (fallbackScope : String) : List String :=
  sortDedup (rows.map (fun row => if row.channel = "" then fallbackScope else row.channel))

/-- Append the names that are not in the list yet. -/
def appendMissing (names more : List String) : List String :=
  more.foldl (fun out name => if name ∈ out then out else out ++ [name]) names

theorem mem_appendMissing {names more : List String} {name : String} :
    name ∈ appendMissing names more ↔ name ∈ names ∨ name ∈ more := by
  induction more generalizing names with
  | nil => simp [appendMissing]
  | cons next rest ih =>
      rw [appendMissing, List.foldl_cons, ← appendMissing, ih, List.mem_cons]
      by_cases hknown : next ∈ names
      · rw [if_pos hknown]
        constructor
        · rintro (hname | hrest)
          · exact Or.inl hname
          · exact Or.inr (Or.inr hrest)
        · rintro (hname | rfl | hrest)
          · exact Or.inl hname
          · exact Or.inl hknown
          · exact Or.inr hrest
      · rw [if_neg hknown, List.mem_append, List.mem_singleton, or_assoc]

namespace Database

def channelReadiness (db : Database) (channel : String) : ChannelReadiness :=
  match db.getChannel channel with
  | some row => if row.isArchived then .archived else .ready
  | none => .missing

/-- The routes of a session and the channel it publishes in. -/
def sessionChannels (db : Database) (session : Option Session) : List String :=
  match session with
  | none => []
  | some rec =>
      let routed := ((db.store.listSessionRoutes rec.pubkey).map Prod.fst).filter (· ≠ "")
      sortDedup (appendMissing routed (if rec.channelH = "" then [] else [rec.channelH]))

def activeChannels (db : Database) (session : Option Session) : List String :=
  (db.sessionChannels session).filter (fun channel => db.channelReadiness channel = .ready)

/-- Joined channels plus forced-message channels, minus channels that are not
ready. -/
def selectedChannels (db : Database) (input : FabricContextInput) : List String :=
  let requested := appendMissing (db.activeChannels input.session)
    (if input.scope = "" then [] else [input.scope])
  let forced := appendMissing requested (forcedChannels input.forcedMessages input.scope)
  (sortDedup forced).filter (fun channel => db.channelReadiness channel = .ready)

/-- The requested channels without metadata, for which the view warns. -/
def missingChannels (db : Database) (input : FabricContextInput) : List String :=
  let requested := appendMissing (db.sessionChannels input.session)
    (if input.scope = "" then [] else [input.scope])
  let forced := appendMissing requested (forcedChannels input.forcedMessages input.scope)
  (sortDedup forced).filter (fun channel => db.channelReadiness channel = .missing)

def missingChannelWarning (debug : String → String) (channel : String) : String :=
  "Fabric channel " ++ debug channel ++ " is unavailable: no relay-backed channel metadata " ++
    "exists locally, so it is not rendered as an active channel."

/-- The workspace of the scope; an unknown scope only labels the view. -/
def currentWorkspace (db : Database) (scope : String) : Except AncestryError String :=
  if (db.getChannel scope).isSome then db.rootForChannel scope else return scope

/-- The bundle of a channel of the topology, unless it is not selected. -/
def capturedBundle (db : Database) (env : CaptureEnv) (input : FabricContextInput)
    (workspaces : List WorkspaceCap) (channel : String) : Option MsgBundle :=
  if channel ∈ (workspaces.flatMap WorkspaceCap.channels).map ChannelCap.h ∧
      channel ∈ db.selectedChannels input then
    some (db.captureMessages env.parseTags input channel
      (forcedFor input.forcedMessages input.scope channel))
  else none

/-- Read the database once and freeze the inputs of a view. -/
def captureInputs (db : Database) (env : CaptureEnv) (input : FabricContextInput) :
    Except AncestryError ViewInputs := do
  let currentWorkspace ← db.currentWorkspace input.scope
  let workspaces ← db.captureTopology
  return {
    hasSelf := input.session.isSome
    selfPubkey := input.selfPubkey
    currentWorkspace := currentWorkspace
    activeChannels := db.activeChannels input.session
    workspaces := workspaces
    warnings := input.warnings ++
      (db.missingChannels input).map (missingChannelWarning env.debug)
    roster := fun channel => (db.listChannelMembers channel).map ChannelMember.pubkey
    statuses := env.statusCaps db
    messages := db.capturedBundle env input workspaces }

/-! ## Properties of the capture -/

/-- The scope, when it is known, and every channel that is not archived have a
root. -/
def Resolves (db : Database) (scope : String) : Prop :=
  ((db.getChannel scope).isSome = true → db.Resolvable scope) ∧
    ∀ channel ∈ db.liveChannels, db.Resolvable channel.channelH

/-- The capture of a view succeeds exactly when its scope and every channel of the
machine have a root, whatever session it is for. -/
theorem captureInputs_ok_iff {db : Database} {env : CaptureEnv} {input : FabricContextInput} :
    (∃ inputs, db.captureInputs env input = .ok inputs) ↔ db.Resolves input.scope := by
  have hscope : (∃ workspace, db.currentWorkspace input.scope = .ok workspace) ↔
      ((db.getChannel input.scope).isSome = true → db.Resolvable input.scope) := by
    rw [← rootForChannel_ok_iff, currentWorkspace]
    by_cases hknown : (db.getChannel input.scope).isSome = true
    · simp [hknown]
    · simp [hknown]
  rw [Resolves, ← hscope, ← captureTopology_ok_iff]
  simp only [captureInputs, bind_eq_ok, pure_eq_ok]
  constructor
  · rintro ⟨_, workspace, hworkspace, workspaces, hworkspaces, _⟩
    exact ⟨⟨workspace, hworkspace⟩, workspaces, hworkspaces⟩
  · rintro ⟨⟨workspace, hworkspace⟩, workspaces, hworkspaces⟩
    exact ⟨_, workspace, hworkspace, workspaces, hworkspaces, rfl⟩

theorem mem_selectedChannels {db : Database} {input : FabricContextInput} {channel : String} :
    channel ∈ db.selectedChannels input ↔
      db.channelReadiness channel = .ready ∧
        (channel ∈ db.sessionChannels input.session ∨
          (channel = input.scope ∧ input.scope ≠ "") ∨
          channel ∈ forcedChannels input.forcedMessages input.scope) := by
  simp only [selectedChannels, List.mem_filter, mem_sortDedup, mem_appendMissing, activeChannels,
    decide_eq_true_eq]
  by_cases hready : db.channelReadiness channel = .ready
  · by_cases hscope : input.scope = ""
    · simp [hready, hscope]
    · simp [hready, hscope, or_assoc]
  · simp [hready]

end Database

end Mosaico
