import Mathlib.Data.List.Destutter
import Mosaico.Fabric.Wire

/-!
# Operations in chat events

Three operations travel as chat events: adding agents to a channel, admitting sessions that are
running, and dispatching a session to another backend.  Receivers read the tags only, and the
last `mosaico-op` tag says which operation it is.  A builder writes more than a parser takes: an
orchestration without an add and a dispatch with an empty target are built and not read.
-/

namespace Mosaico

/-! ## Orchestration -/

def mosaicoOpAddAgents : String := "subgroup.add-agents.v2"
def mosaicoOpAdmitRunning : String := "subgroup.admit-running.v1"

/-- One add that is routed to a backend. -/
structure AddTarget where
  backendPubkey : String
  slug : String
  sessionPubkey : Option String
  deriving DecidableEq, Repr

structure AddAgentsOp where
  parent : String
  childH : String
  adds : List AddTarget
  runningOnly : Bool
  deriving DecidableEq, Repr

namespace Orchestration

/-- An empty session pubkey is none. -/
def normalTarget (target : AddTarget) : AddTarget :=
  { target with sessionPubkey := target.sessionPubkey.filter (· ≠ "") }

def addTag (target : AddTarget) : List String :=
  match (normalTarget target).sessionPubkey with
  | some sessionPubkey => ["add", target.backendPubkey, target.slug, sessionPubkey]
  | none => ["add", target.backendPubkey, target.slug]

/-- The distinct backends, sorted. -/
def backends (adds : List AddTarget) : List String :=
  ((adds.map AddTarget.backendPubkey).insertionSort (· ≤ ·)).destutter (· ≠ ·)

def buildEvent (operation parentH childH : String) (adds : List AddTarget) (prose : String) :
    EventBuilder where
  kind := kindChat
  content := prose
  tags := [["h", parentH], ["mosaico-op", operation], ["parent", parentH], ["h-target", childH]] ++
    repeatedTag "p" (backends adds) ++ adds.map addTag

def buildAddAgentsEvent (parentH childH : String) (adds : List AddTarget) (prose : String) :
    EventBuilder :=
  buildEvent mosaicoOpAddAgents parentH childH adds prose

def buildAdmitRunningEvent (parentH childH : String) (adds : List AddTarget) (prose : String) :
    Except String EventBuilder :=
  if adds.all (fun target => target.sessionPubkey.any (· ≠ "")) = true then
    .ok (buildEvent mosaicoOpAdmitRunning parentH childH adds prose)
  else .error "admit-running orchestration requires exact session pubkeys"

/-- What the parser has seen. -/
structure Seen where
  mosaicoOp : Option String
  hVals : List String
  parentVals : List String
  targetVals : List String
  adds : List AddTarget
  deriving DecidableEq

def readAdd (tag : List String) : Option AddTarget := do
  let backendPubkey ← tag[1]?
  let slug ← tag[2]?
  return {
    backendPubkey := backendPubkey
    slug := slug
    sessionPubkey := tag[3]?.filter (· ≠ "") }

def Seen.read (seen : Seen) (tag : List String) : Seen :=
  if tag.head? = some "mosaico-op" then { seen with mosaicoOp := tag[1]? }
  else if tag.head? = some "h" then { seen with hVals := seen.hVals ++ tag[1]?.toList }
  else if tag.head? = some "parent" then
    { seen with parentVals := seen.parentVals ++ tag[1]?.toList }
  else if tag.head? = some "h-target" then
    { seen with targetVals := seen.targetVals ++ tag[1]?.toList }
  else if tag.head? = some "add" then { seen with adds := seen.adds ++ (readAdd tag).toList }
  else seen

def seen (tags : List (List String)) : Seen :=
  tags.foldl Seen.read ⟨none, [], [], [], []⟩

def runningOnly : Option String → Option Bool
  | some operation =>
      if operation = mosaicoOpAddAgents then some false
      else if operation = mosaicoOpAdmitRunning then some true
      else none
  | none => none

/-- The only value of a list. -/
def single : List String → Option String
  | [value] => some value
  | _ => none

def parseOrchestration (event : Event) : Option AddAgentsOp := do
  guard (event.kind = kindChat)
  let read := seen event.tags
  let running ← runningOnly read.mosaicoOp
  let h ← single read.hVals
  let parent ← single read.parentVals
  guard (h = parent)
  let childH ← single read.targetVals
  guard (read.adds ≠ [])
  guard ¬(running = true ∧ read.adds.any (fun target => target.sessionPubkey.isNone) = true)
  return { parent := parent, childH := childH, adds := read.adds, runningOnly := running }

/-- What the handler does with an add: admit a running session, resume one or spawn. -/
inductive TargetAction where
  | admitRunning (sessionPubkey : String)
  | resume (sessionPubkey : String)
  | spawn (slug : String)
  deriving DecidableEq, Repr

def targetAction (op : AddAgentsOp) (target : AddTarget) : TargetAction :=
  if op.runningOnly = true then .admitRunning (target.sessionPubkey.getD "")
  else if target.sessionPubkey.any (· ≠ "") = true then .resume (target.sessionPubkey.getD "")
  else .spawn target.slug

end Orchestration

/-! ## Session dispatch -/

def mosaicoOpSessionDispatch : String := "session.dispatch.v1"

structure DispatchTarget where
  backendPubkey : String
  slug : String
  workspace : String
  channels : List String
  deriving DecidableEq, Repr

structure SessionDispatchOp where
  routeChannel : String
  target : DispatchTarget
  deriving DecidableEq, Repr

namespace SessionDispatch

def buildSessionDispatchEvent (routeChannel : String) (target : DispatchTarget)
    (prose : String) : EventBuilder where
  kind := kindChat
  content := prose
  tags := [["h", routeChannel], ["mosaico-op", mosaicoOpSessionDispatch],
      ["p", target.backendPubkey], ["dispatch", target.backendPubkey, target.slug],
      ["workspace", target.workspace]] ++ repeatedTag "channel" target.channels

/-- What the parser has seen. -/
structure Seen where
  mosaicoOp : Option String
  routeChannels : List String
  dispatches : List (String × String)
  workspace : Option String
  channels : List String
  deriving DecidableEq

def readDispatch (tag : List String) : Option (String × String) := do
  let backendPubkey ← tag[1]?
  let slug ← tag[2]?
  return (backendPubkey, slug)

def Seen.read (seen : Seen) (tag : List String) : Seen :=
  if tag.head? = some "mosaico-op" then { seen with mosaicoOp := tag[1]? }
  else if tag.head? = some "h" then
    { seen with routeChannels := seen.routeChannels ++ tag[1]?.toList }
  else if tag.head? = some "dispatch" then
    { seen with dispatches := seen.dispatches ++ (readDispatch tag).toList }
  else if tag.head? = some "workspace" then { seen with workspace := tag[1]? }
  else if tag.head? = some "channel" then
    { seen with channels := seen.channels ++ (tag[1]?.filter (· ≠ "")).toList }
  else seen

def seen (tags : List (List String)) : Seen :=
  tags.foldl Seen.read ⟨none, [], [], none, []⟩

/-- The only dispatch, if it names a backend and a slug. -/
def singleDispatch : List (String × String) → Option (String × String)
  | [dispatch] => if dispatch.1 ≠ "" ∧ dispatch.2 ≠ "" then some dispatch else none
  | _ => none

def parseSessionDispatch (event : Event) : Option SessionDispatchOp := do
  guard (event.kind = kindChat)
  let read := seen event.tags
  guard (read.mosaicoOp = some mosaicoOpSessionDispatch)
  let routeChannel ← Orchestration.single read.routeChannels
  let dispatch ← singleDispatch read.dispatches
  let workspace ← read.workspace.filter (· ≠ "")
  return {
    routeChannel := routeChannel
    target :=
      { backendPubkey := dispatch.1
        slug := dispatch.2
        workspace := workspace
        channels := if read.channels = [] then [workspace] else read.channels } }

/-- Empty channels are dropped; without any the workspace is the channel. -/
def normalTarget (target : DispatchTarget) : DispatchTarget :=
  let channels := target.channels.filter (· ≠ "")
  { target with channels := if channels = [] then [target.workspace] else channels }

end SessionDispatch

/-! ## Round trips -/

variable {signature : Signature} {adds : List AddTarget} {parentH childH prose : String}

namespace Orchestration

theorem filter_some_of_ne {text : String} (hne : text ≠ "") :
    (some text).filter (· ≠ "") = some text := by
  simp [Option.filter, hne]

theorem readAdd_addTag (target : AddTarget) :
    readAdd (addTag target) = some (normalTarget target) := by
  obtain ⟨backendPubkey, slug, sessionPubkey⟩ := target
  cases sessionPubkey with
  | none => rfl
  | some sessionPubkey =>
      by_cases hempty : sessionPubkey = ""
      · rw [hempty]
        rfl
      · have hkept := filter_some_of_ne hempty
        have hnormal : normalTarget ⟨backendPubkey, slug, some sessionPubkey⟩ =
            ⟨backendPubkey, slug, some sessionPubkey⟩ := by
          rw [normalTarget, hkept]
        rw [addTag, hnormal]
        show some (AddTarget.mk backendPubkey slug ((some sessionPubkey).filter (· ≠ ""))) = _
        rw [hkept]

theorem foldl_recipients (start : Seen) (pubkeys : List String) :
    (repeatedTag "p" pubkeys).foldl Seen.read start = start := by
  induction pubkeys generalizing start with
  | nil => rfl
  | cons pubkey rest ih => exact ih start

theorem foldl_adds (start : Seen) (adds : List AddTarget) :
    (adds.map addTag).foldl Seen.read start =
      { start with adds := start.adds ++ adds.map normalTarget } := by
  induction adds generalizing start with
  | nil => simp
  | cons target rest ih =>
      have hread : start.read (addTag target) =
          { start with adds := start.adds ++ [normalTarget target] } := by
        have htag : (readAdd (addTag target)).toList = [normalTarget target] := by
          rw [readAdd_addTag]
          rfl
        have hhead : (addTag target).head? = some "add" := by
          unfold addTag
          split <;> rfl
        simp [Seen.read, hhead, htag]
      rw [List.map_cons, List.foldl_cons, hread, ih]
      simp

theorem seen_buildEvent (operation : String) :
    seen (buildEvent operation parentH childH adds prose).tags =
      ⟨some operation, [parentH], [parentH], [childH], adds.map normalTarget⟩ := by
  unfold seen buildEvent
  rw [List.foldl_append, List.foldl_append, foldl_recipients, foldl_adds]
  simp [Seen.read]

theorem parse_buildEvent (operation : String) {running : Bool}
    (hrunning : runningOnly (some operation) = some running) :
    parseOrchestration ((buildEvent operation parentH childH adds prose).sign signature) =
      if adds = [] ∨
          (running = true ∧ ∃ target ∈ adds, (normalTarget target).sessionPubkey = none) then none
      else some
        { parent := parentH
          childH := childH
          adds := adds.map normalTarget
          runningOnly := running } := by
  have hkind : ((buildEvent operation parentH childH adds prose).sign signature).kind =
      kindChat := rfl
  have hseen : seen ((buildEvent operation parentH childH adds prose).sign signature).tags =
      ⟨some operation, [parentH], [parentH], [childH], adds.map normalTarget⟩ :=
    @seen_buildEvent adds parentH childH prose operation
  unfold parseOrchestration
  rw [hkind, hseen]
  by_cases hempty : adds = []
  · simp [hempty, hrunning, single]
  · by_cases hmissing :
        running = true ∧ ∃ target ∈ adds, (normalTarget target).sessionPubkey = none
    · rw [if_pos (Or.inr hmissing)]
      simp [hempty, hrunning, single, hmissing.1, hmissing.2]
    · rw [if_neg (not_or.mpr ⟨hempty, hmissing⟩)]
      have hpresent : (running = true → ∀ target ∈ adds,
          ¬ (normalTarget target).sessionPubkey = none) = True := by
        rw [eq_iff_iff, iff_true]
        intro hrun target htarget hnone
        exact hmissing ⟨hrun, target, htarget, hnone⟩
      simp [hempty, hrunning, single, hpresent]

/-- An orchestration with an add comes back in its normal form. -/
theorem parse_buildAddAgents :
    parseOrchestration ((buildAddAgentsEvent parentH childH adds prose).sign signature) =
      if adds = [] then none
      else some
        { parent := parentH
          childH := childH
          adds := adds.map normalTarget
          runningOnly := false } := by
  rw [buildAddAgentsEvent, parse_buildEvent mosaicoOpAddAgents rfl]
  simp

theorem normalTarget_of_some {target : AddTarget}
    (hsession : target.sessionPubkey.any (· ≠ "") = true) :
    normalTarget target = target ∧ (normalTarget target).sessionPubkey ≠ none := by
  obtain ⟨backendPubkey, slug, sessionPubkey⟩ := target
  cases sessionPubkey with
  | none => cases hsession
  | some sessionPubkey =>
      have hne : sessionPubkey ≠ "" := by simpa using hsession
      simp [normalTarget, Option.filter, hne]

/-- So does an admission of running sessions, which its builder has checked. -/
theorem parse_buildAdmitRunning {builder : EventBuilder}
    (hbuilt : buildAdmitRunningEvent parentH childH adds prose = .ok builder) :
    parseOrchestration (builder.sign signature) =
      if adds = [] then none
      else some
        { parent := parentH
          childH := childH
          adds := adds
          runningOnly := true } := by
  unfold buildAdmitRunningEvent at hbuilt
  split at hbuilt
  · rename_i hexact
    cases hbuilt
    rw [List.all_eq_true] at hexact
    have hmap : adds.map normalTarget = adds := by
      refine (List.map_congr_left ?_).trans (List.map_id adds)
      intro target htarget
      exact (normalTarget_of_some (hexact target htarget)).1
    have hpresent : ¬ ∃ target ∈ adds, (normalTarget target).sessionPubkey = none := by
      rintro ⟨target, htarget, hnone⟩
      exact (normalTarget_of_some (hexact target htarget)).2 hnone
    rw [parse_buildEvent mosaicoOpAdmitRunning rfl, hmap]
    simp [hpresent]
  · cases hbuilt

/-- What the parser demands of an operation. -/
structure Complete (op : AddAgentsOp) : Prop where
  adds : op.adds ≠ []
  running : op.runningOnly = true → ∀ target ∈ op.adds, target.sessionPubkey.isSome = true
  sessions : ∀ target ∈ op.adds, target.sessionPubkey ≠ some ""

theorem readAdd_session {tag : List String} {target : AddTarget}
    (hread : readAdd tag = some target) : target.sessionPubkey ≠ some "" := by
  unfold readAdd at hread
  simp only [Option.bind_eq_bind, Option.bind_eq_some_iff, Option.pure_def,
    Option.some.injEq] at hread
  obtain ⟨_, _, _, _, rfl⟩ := hread
  intro hempty
  have hkept := (Option.filter_eq_some_iff.mp hempty).2
  simp at hkept

theorem mem_adds_read {start : Seen} {tag : List String} {target : AddTarget}
    (htarget : target ∈ (start.read tag).adds) :
    target ∈ start.adds ∨ readAdd tag = some target := by
  by_cases htag : tag.head? = some "add"
  · have hread : start.read tag =
        { start with adds := start.adds ++ (readAdd tag).toList } := by
      simp [Seen.read, htag]
    rw [hread] at htarget
    rcases List.mem_append.mp htarget with hearlier | hhere
    · exact Or.inl hearlier
    · exact Or.inr (Option.mem_toList.mp hhere)
  · have hkept : (start.read tag).adds = start.adds := by
      unfold Seen.read
      repeat' split
      all_goals rfl
    rw [hkept] at htarget
    exact Or.inl htarget

/-- No add that the parser has read has an empty session pubkey. -/
theorem sessions_seen (tags : List (List String)) :
    ∀ target ∈ (seen tags).adds, target.sessionPubkey ≠ some "" := by
  unfold seen
  induction tags using List.reverseRecOn with
  | nil =>
      intro target htarget
      cases htarget
  | append_singleton earlier tag ih =>
      rw [List.foldl_append, List.foldl_cons, List.foldl_nil]
      intro target htarget
      rcases mem_adds_read htarget with hearlier | hhere
      · exact ih target hearlier
      · exact readAdd_session hhere

theorem complete_of_parse {event : Event} {op : AddAgentsOp}
    (hparsed : parseOrchestration event = some op) : Complete op := by
  unfold parseOrchestration at hparsed
  simp only [Option.bind_eq_bind, Option.bind_eq_some_iff, Option.guard_eq_some',
    Option.pure_def, Option.some.injEq, exists_and_left, exists_const] at hparsed
  obtain ⟨_, running, _, _, _, _, _, _, _, _, hadds, hrunning, rfl⟩ := hparsed
  refine ⟨hadds, ?_, sessions_seen event.tags⟩
  intro hrun target htarget
  rw [← Option.not_isNone, Bool.not_eq_true']
  by_contra hnone
  refine hrunning ⟨hrun, List.any_eq_true.mpr ⟨target, htarget, ?_⟩⟩
  simpa using hnone

/-- What the handler looks up is never empty. -/
theorem Complete.targetAction {op : AddAgentsOp} (hcomplete : Complete op) {target : AddTarget}
    (htarget : target ∈ op.adds) :
    targetAction op target ≠ .admitRunning "" ∧ targetAction op target ≠ .resume "" := by
  have hsession := hcomplete.sessions target htarget
  unfold Orchestration.targetAction
  split
  · rename_i hrunning
    obtain ⟨sessionPubkey, hsome⟩ :=
      Option.isSome_iff_exists.mp (hcomplete.running hrunning target htarget)
    rw [hsome] at hsession ⊢
    have hne : sessionPubkey ≠ "" := fun hempty => hsession (congrArg some hempty)
    simpa using hne
  · split
    · rename_i hpresent
      cases hsome : target.sessionPubkey with
      | none =>
          rw [hsome] at hpresent
          cases hpresent
      | some sessionPubkey =>
          rw [hsome] at hsession
          have hne : sessionPubkey ≠ "" := fun hempty => hsession (congrArg some hempty)
          simpa using hne
    · simp

end Orchestration

namespace SessionDispatch

theorem foldl_channels (start : Seen) (channels : List String) :
    (repeatedTag "channel" channels).foldl Seen.read start =
      { start with channels := start.channels ++ channels.filter (· ≠ "") } := by
  induction channels generalizing start with
  | nil => simp [repeatedTag]
  | cons channel rest ih =>
      have hread : start.read ["channel", channel] =
          { start with
            channels := start.channels ++ ((some channel).filter (· ≠ "")).toList } := rfl
      show (repeatedTag "channel" rest).foldl Seen.read (start.read ["channel", channel]) = _
      rw [hread, ih]
      by_cases hempty : channel = ""
      · simp [hempty, Option.filter]
      · simp [hempty, Option.filter]

theorem seen_buildSessionDispatchEvent (routeChannel prose : String) (target : DispatchTarget) :
    seen (buildSessionDispatchEvent routeChannel target prose).tags =
      { mosaicoOp := some mosaicoOpSessionDispatch
        routeChannels := [routeChannel]
        dispatches := [(target.backendPubkey, target.slug)]
        workspace := some target.workspace
        channels := target.channels.filter (· ≠ "") } := by
  unfold seen buildSessionDispatchEvent
  rw [List.foldl_append, foldl_channels]
  simp [Seen.read, readDispatch]

/-- A dispatch with a whole target comes back in its normal form. -/
theorem parse_buildSessionDispatch (routeChannel : String) (target : DispatchTarget) :
    parseSessionDispatch
        ((buildSessionDispatchEvent routeChannel target prose).sign signature) =
      if target.backendPubkey = "" ∨ target.slug = "" ∨ target.workspace = "" then none
      else some { routeChannel := routeChannel, target := normalTarget target } := by
  have hkind : ((buildSessionDispatchEvent routeChannel target prose).sign signature).kind =
      kindChat := rfl
  have hseen := seen_buildSessionDispatchEvent routeChannel prose target
  unfold parseSessionDispatch
  rw [hkind, show ((buildSessionDispatchEvent routeChannel target prose).sign signature).tags =
    (buildSessionDispatchEvent routeChannel target prose).tags from rfl, hseen]
  by_cases hbackend : target.backendPubkey = ""
  · simp [hbackend, singleDispatch, Orchestration.single]
  · by_cases hslug : target.slug = ""
    · simp [hslug, singleDispatch, Orchestration.single]
    · by_cases hworkspace : target.workspace = ""
      · simp [hworkspace, hbackend, hslug, singleDispatch, Orchestration.single, Option.filter]
      · simp [hworkspace, hbackend, hslug, singleDispatch, Orchestration.single, Option.filter,
          normalTarget]

/-- What the parser demands of a dispatch. -/
structure Complete (op : SessionDispatchOp) : Prop where
  backend : op.target.backendPubkey ≠ ""
  slug : op.target.slug ≠ ""
  workspace : op.target.workspace ≠ ""
  channels : op.target.channels ≠ []
  named : ∀ channel ∈ op.target.channels, channel ≠ ""

theorem mem_channels_read {start : Seen} {tag : List String} {channel : String}
    (hchannel : channel ∈ (start.read tag).channels) :
    channel ∈ start.channels ∨ tag[1]?.filter (· ≠ "") = some channel := by
  by_cases htag : tag.head? = some "channel"
  · have hread : start.read tag =
        { start with channels := start.channels ++ (tag[1]?.filter (· ≠ "")).toList } := by
      simp [Seen.read, htag]
    rw [hread] at hchannel
    rcases List.mem_append.mp hchannel with hearlier | hhere
    · exact Or.inl hearlier
    · exact Or.inr (Option.mem_toList.mp hhere)
  · have hkept : (start.read tag).channels = start.channels := by
      unfold Seen.read
      repeat' split
      all_goals rfl
    rw [hkept] at hchannel
    exact Or.inl hchannel

/-- No channel that the parser has read is empty. -/
theorem channels_seen (tags : List (List String)) :
    ∀ channel ∈ (seen tags).channels, channel ≠ "" := by
  unfold seen
  induction tags using List.reverseRecOn with
  | nil =>
      intro channel hchannel
      cases hchannel
  | append_singleton earlier tag ih =>
      rw [List.foldl_append, List.foldl_cons, List.foldl_nil]
      intro channel hchannel
      rcases mem_channels_read hchannel with hearlier | hhere
      · exact ih channel hearlier
      · have hkept := (Option.filter_eq_some_iff.mp hhere).2
        simpa using hkept

theorem singleDispatch_eq_some {dispatches : List (String × String)} {dispatch : String × String}
    (hsingle : singleDispatch dispatches = some dispatch) :
    dispatch.1 ≠ "" ∧ dispatch.2 ≠ "" := by
  unfold singleDispatch at hsingle
  split at hsingle
  · split at hsingle
    · rename_i hnamed
      cases hsingle
      exact hnamed
    · cases hsingle
  · cases hsingle

theorem complete_of_parse {event : Event} {op : SessionDispatchOp}
    (hparsed : parseSessionDispatch event = some op) : Complete op := by
  unfold parseSessionDispatch at hparsed
  simp only [Option.bind_eq_bind, Option.bind_eq_some_iff, Option.guard_eq_some',
    Option.pure_def, Option.some.injEq, exists_and_left, exists_const] at hparsed
  obtain ⟨_, _, _, _, dispatch, hdispatch, workspace, hworkspace, rfl⟩ := hparsed
  obtain ⟨hbackend, hslug⟩ := singleDispatch_eq_some hdispatch
  have hnamed : workspace ≠ "" := by
    have hkept := (Option.filter_eq_some_iff.mp hworkspace).2
    simpa using hkept
  refine ⟨hbackend, hslug, hnamed, ?_, ?_⟩
  · show (if (seen event.tags).channels = [] then [workspace] else _) ≠ []
    split
    · simp
    · assumption
  · show ∀ channel ∈ (if (seen event.tags).channels = [] then [workspace] else _), channel ≠ ""
    split
    · intro channel hchannel
      rw [List.mem_singleton.mp hchannel]
      exact hnamed
    · exact channels_seen event.tags

end SessionDispatch

/-! ## One operation an event -/

/-- The operation that the last tag names. -/
def lastOperation (tags : List (List String)) : Option String :=
  tags.foldl (fun operation tag =>
    if tag.head? = some "mosaico-op" then tag[1]? else operation) none

theorem orchestration_mosaicoOp (tags : List (List String)) :
    (Orchestration.seen tags).mosaicoOp = lastOperation tags := by
  unfold Orchestration.seen lastOperation
  induction tags using List.reverseRecOn with
  | nil => rfl
  | append_singleton earlier tag ih =>
      rw [List.foldl_append, List.foldl_append, ← ih]
      simp only [List.foldl_cons, List.foldl_nil, Orchestration.Seen.read]
      split
      · rfl
      · repeat' split
        all_goals rfl

theorem sessionDispatch_mosaicoOp (tags : List (List String)) :
    (SessionDispatch.seen tags).mosaicoOp = lastOperation tags := by
  unfold SessionDispatch.seen lastOperation
  induction tags using List.reverseRecOn with
  | nil => rfl
  | append_singleton earlier tag ih =>
      rw [List.foldl_append, List.foldl_append, ← ih]
      simp only [List.foldl_cons, List.foldl_nil, SessionDispatch.Seen.read]
      split
      · rfl
      · repeat' split
        all_goals rfl

/-- No event is read as an orchestration and as a dispatch. -/
theorem parsed_once (event : Event) :
    Orchestration.parseOrchestration event = none ∨
      SessionDispatch.parseSessionDispatch event = none := by
  by_cases hoperation : lastOperation event.tags = some mosaicoOpSessionDispatch
  · left
    have hrunning : Orchestration.runningOnly (some mosaicoOpSessionDispatch) = none := by decide
    unfold Orchestration.parseOrchestration
    simp [orchestration_mosaicoOp, hoperation, hrunning]
  · right
    unfold SessionDispatch.parseSessionDispatch
    simp [sessionDispatch_mosaicoOp, hoperation]

/-- What is built with an add or a whole target is read back in its normal form and nothing
else that is built is read; an event is one operation at most; and an operation that is read has
what its handler looks up. -/
theorem operations_read :
    (∀ (signature : Signature) (parentH childH : String) (adds : List AddTarget)
        (prose : String),
      Orchestration.parseOrchestration
          ((Orchestration.buildAddAgentsEvent parentH childH adds prose).sign signature) =
        (if adds = [] then none
          else some ⟨parentH, childH, adds.map Orchestration.normalTarget, false⟩) ∧
      ∀ builder,
        Orchestration.buildAdmitRunningEvent parentH childH adds prose = .ok builder →
          Orchestration.parseOrchestration (builder.sign signature) =
            if adds = [] then none else some ⟨parentH, childH, adds, true⟩) ∧
      (∀ (signature : Signature) (routeChannel : String) (target : DispatchTarget)
          (prose : String),
        SessionDispatch.parseSessionDispatch
            ((SessionDispatch.buildSessionDispatchEvent routeChannel target prose).sign
              signature) =
          if target.backendPubkey = "" ∨ target.slug = "" ∨ target.workspace = "" then none
          else some ⟨routeChannel, SessionDispatch.normalTarget target⟩) ∧
      (∀ event : Event, Orchestration.parseOrchestration event = none ∨
        SessionDispatch.parseSessionDispatch event = none) ∧
      (∀ (event : Event) (op : AddAgentsOp),
        Orchestration.parseOrchestration event = some op →
          Orchestration.Complete op ∧ ∀ target ∈ op.adds,
            Orchestration.targetAction op target ≠ .admitRunning "" ∧
              Orchestration.targetAction op target ≠ .resume "") ∧
      ∀ (event : Event) (op : SessionDispatchOp),
        SessionDispatch.parseSessionDispatch event = some op → SessionDispatch.Complete op := by
  refine ⟨?_, ?_, parsed_once, ?_, fun _ _ => SessionDispatch.complete_of_parse⟩
  · intro signature parentH childH adds prose
    exact ⟨Orchestration.parse_buildAddAgents,
      fun _ hbuilt => Orchestration.parse_buildAdmitRunning hbuilt⟩
  · intro signature routeChannel target prose
    exact SessionDispatch.parse_buildSessionDispatch routeChannel target
  · intro event op hparsed
    have hcomplete := Orchestration.complete_of_parse hparsed
    exact ⟨hcomplete, fun _ htarget => hcomplete.targetAction htarget⟩

def unsigned : Signature where
  id := ""
  pubkey := ""
  createdAt := 0

/-- An admission whose session pubkey is no pubkey. -/
def looseAdmission : Event where
  id := ""
  kind := kindChat
  pubkey := ""
  createdAt := 0
  content := ""
  tags := [["h", "room"], ["mosaico-op", mosaicoOpAdmitRunning], ["parent", "room"],
    ["h-target", "child"], ["add", "backend", "codex", "nobody"]]

/-- An add of an agent without a slug, to a channel without an id. -/
def emptyAdd : Event where
  id := ""
  kind := kindChat
  pubkey := ""
  createdAt := 0
  content := ""
  tags := [["h", "room"], ["mosaico-op", mosaicoOpAddAgents], ["parent", "room"],
    ["h-target", ""], ["add", "backend", ""]]

/-- An orchestration without adds and a dispatch to nobody are built and not read, the parser
takes any text for a session pubkey, and it takes an add whose slug and channel are empty, as
the dispatch parser does not, so that the handler spawns an agent without a name. -/
theorem operations_not_read :
    Orchestration.parseOrchestration
        ((Orchestration.buildAddAgentsEvent "room" "child" [] "").sign unsigned) = none ∧
      SessionDispatch.parseSessionDispatch
        ((SessionDispatch.buildSessionDispatchEvent "room" ⟨"", "codex", "work", []⟩ "").sign
          unsigned) = none ∧
      Orchestration.parseOrchestration looseAdmission =
        some ⟨"room", "child", [⟨"backend", "codex", some "nobody"⟩], true⟩ ∧
      Orchestration.parseOrchestration emptyAdd =
        some ⟨"room", "", [⟨"backend", "", none⟩], false⟩ ∧
      Orchestration.targetAction ⟨"room", "", [⟨"backend", "", none⟩], false⟩
        ⟨"backend", "", none⟩ = .spawn "" := by
  refine ⟨by decide, by decide, by decide, by decide, by decide⟩

end Mosaico
