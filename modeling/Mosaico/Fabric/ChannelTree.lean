import Mosaico.Fabric.ChannelBlocks
import Mosaico.Fabric.ReferencePaths
import Mosaico.Fabric.Topology

/-!
# The channel tree of the full view

The full view without a session shows every captured channel in a block, filed by the reference
of the channel and arranged by it.  A reference is the root id and the shown names joined by
slashes, so the tree is right as long as these paths keep the channels apart and a name holds no
slash of its own.

The rows of a block are read by other components and enter as a parameter.
-/

namespace Mosaico

open Relational Transition Forest ChannelTree

variable {μ π : Type}

structure WorkspaceView (μ π : Type) where
  name : String
  about : String
  root : Option (ChannelBlock μ π)
  channels : List (ChannelBlock μ π)

def WorkspaceView.places (view : WorkspaceView μ π) : List (Place × String) :=
  arrangedPlaces (view.root, view.channels)

/-- The captured channels under their references, in order; of two channels with one reference
the later one is kept. -/
def channelCaps (channels : List ChannelCap) : List ChannelCap :=
  (sortDedup (channels.map ChannelCap.reference)).filterMap fun reference =>
    channels.reverse.find? fun channel => channel.reference = reference

def channelBlock (rowsOf : ChannelCap → BlockRows μ π) (channel : ChannelCap) :
    ChannelBlock μ π where
  name := channel.name
  id := channel.reference
  about := channel.about
  rows := rowsOf channel
  children := []

/-- A workspace in the full view without a session, which selects all of its channels. -/
def workspaceRow (rowsOf : ChannelCap → BlockRows μ π) (workspace : WorkspaceCap) :
    Option (WorkspaceView μ π) := do
  let blocks := (channelCaps workspace.channels).map (channelBlock rowsOf)
  let (root, channels) ← arrange workspace.summary.name blocks
  return {
    name := workspace.summary.name
    about := workspace.summary.about
    root := root
    channels := channels }

namespace Database

/-! ## A faithful tree -/

/-- Neither the channel nor one of its ancestors is archived. -/
inductive AllLive (db : Database) : String → Prop
  | root {channelH : String} {channel : Channel} (hget : db.getChannel channelH = some channel)
      (hlive : channel.isArchived = false) (hroot : channel.parent = "") : AllLive db channelH
  | child {channelH : String} {channel : Channel} (hget : db.getChannel channelH = some channel)
      (hlive : channel.isArchived = false) (hparent : channel.parent ≠ "")
      (hup : AllLive db channel.parent) : AllLive db channelH

/-- Every channel that is not archived has a root; the mark of a root is no channel. -/
structure IsForest (db : Database) : Prop where
  rootMark : db.getChannel "" = none
  rooted : ∀ channel ∈ db.liveChannels, ∃ root depth,
    Rooted db.parentLinks channel.channelH root depth

/-- Where the block of a channel belongs. -/
def properPlace (db : Database) (channelH : String) : Place :=
  match db.getChannel channelH with
  | none => .top
  | some channel =>
      if channel.parent = "" then .root else .below (db.fullChannelRef channel.parent)

/-- The view shows each channel whose ancestors are all shown once, in its own workspace and
directly below its parent, and no block has taken the place of another. -/
structure FaithfulTree (db : Database) (workspaces : List WorkspaceCap)
    (views : List (WorkspaceView μ π)) : Prop where
  apart : ∀ first second, db.AllLive first → db.AllLive second →
    db.fullChannelRef first = db.fullChannelRef second → first = second
  kept : ∀ workspace ∈ workspaces, (workspace.channels.map ChannelCap.reference).Nodup
  own : ∀ workspace ∈ workspaces, ∀ cap ∈ workspace.channels, ∀ root names,
    db.NamePath root cap.h names → workspace.summary.name = root
  arranged : List.Forall₂ (fun workspace view => view.name = workspace.summary.name ∧
    (view.places.map Prod.snd).Perm
      (sortDedup (workspace.channels.map ChannelCap.reference))) workspaces views
  distinct : (views.map WorkspaceView.name).Nodup
  nested : ∀ channelH root names, db.AllLive channelH → db.NamePath root channelH names →
    ∃ view ∈ views, view.name = root ∧
      view.places.filter (fun entry => entry.2 = db.fullChannelRef channelH) =
        [(db.properPlace channelH, db.fullChannelRef channelH)]

/-- The full view exists and is a faithful tree. -/
def ShowsTree (db : Database) (rowsOf : ChannelCap → BlockRows μ π) : Prop :=
  ∃ workspaces views, db.captureTopology = .ok workspaces ∧
    workspaces.mapM (workspaceRow rowsOf) = some views ∧ db.FaithfulTree workspaces views

/-! ## Paths that keep the channels apart -/

/-- No chain is too long to be captured, no name below a root holds a slash, and the printed
paths differ: those of any two channels whose ancestors are all shown, and those of any two
channels of one workspace. -/
structure PathsApart (db : Database) : Prop where
  shallow : ∀ channel ∈ db.liveChannels, ∀ root depth,
    Rooted db.parentLinks channel.channelH root depth → depth < maxChannelParentDepth
  noSlash : ∀ channelH channel, db.AllLive channelH → db.getChannel channelH = some channel →
    channel.parent ≠ "" → '/' ∉ channel.shownName.toList
  acrossWorkspaces : ∀ first second root other firstNames secondNames, first ≠ second →
    db.AllLive first → db.AllLive second → db.NamePath root first firstNames →
      db.NamePath other second secondNames →
        pathSegments root firstNames ≠ pathSegments other secondNames
  withinWorkspace : ∀ first ∈ db.liveChannels, ∀ second ∈ db.liveChannels,
    ∀ root firstNames secondNames, first.channelH ≠ second.channelH →
      root ∈ db.workspaceRootIds → db.NamePath root first.channelH firstNames →
        db.NamePath root second.channelH secondNames →
          pathSegments root firstNames ≠ pathSegments root secondNames

end Database

/-! ## The view of one workspace -/

theorem map_reference_channelCaps (channels : List ChannelCap) :
    (channelCaps channels).map ChannelCap.reference =
      sortDedup (channels.map ChannelCap.reference) := by
  rw [channelCaps, List.map_filterMap]
  refine (List.filterMap_congr fun reference hreference => ?_).trans List.filterMap_some
  obtain ⟨channel, hchannel, rfl⟩ := List.mem_map.mp (mem_sortDedup.mp hreference)
  have hfound : (channels.reverse.find? fun other =>
      other.reference = channel.reference).isSome = true := by
    rw [List.find?_isSome]
    exact ⟨channel, List.mem_reverse.mpr hchannel, decide_eq_true rfl⟩
  obtain ⟨kept, hkept⟩ := Option.isSome_iff_exists.mp hfound
  have hsame := List.find?_some hkept
  rw [decide_eq_true_eq] at hsame
  rw [hkept, Option.map_some, hsame]

theorem nodup_sortDedup (names : List String) : (sortDedup names).Nodup :=
  (List.perm_insertionSort _ _).nodup_iff.mpr (List.nodup_dedup names)

/-- The blocks of a workspace stand where their references place them. -/
theorem workspaceRow_places (rowsOf : ChannelCap → BlockRows μ π) (workspace : WorkspaceCap) :
    ∃ view, workspaceRow rowsOf workspace = some view ∧ view.name = workspace.summary.name ∧
      view.places.Perm ((sortDedup (workspace.channels.map ChannelCap.reference)).map fun id =>
        (placeOf (formatChannelRef workspace.summary.name [])
          (sortDedup (workspace.channels.map ChannelCap.reference)) id, id)) := by
  have hids : ((channelCaps workspace.channels).map (channelBlock rowsOf)).map ChannelBlock.id =
      sortDedup (workspace.channels.map ChannelCap.reference) := by
    rw [List.map_map, ← map_reference_channelCaps]
    rfl
  have hleaves : ∀ block ∈ (channelCaps workspace.channels).map (channelBlock rowsOf),
      block.children = [] := by
    intro block hblock
    obtain ⟨channel, _, rfl⟩ := List.mem_map.mp hblock
    rfl
  have hnodup := nodup_sortDedup (workspace.channels.map ChannelCap.reference)
  rw [← hids] at hnodup
  obtain ⟨⟨root, channels⟩, harrange, hplaces⟩ :=
    arrange_places workspace.summary.name hleaves hnodup
  rw [hids] at hplaces
  refine ⟨⟨workspace.summary.name, workspace.summary.about, root, channels⟩, ?_, rfl, hplaces⟩
  rw [workspaceRow, harrange]
  rfl

namespace Database

variable {db : Database}

/-! ## The captured channels -/

/-- The root under which a channel is filed. -/
def filedRoot (db : Database) (channelH : String) : String :=
  match db.rootForChannel channelH with
  | .ok root => root
  | .error _ => ""

/-- The channels filed under a root, in capture order. -/
def filedUnder (db : Database) (root : String) : List Channel :=
  db.liveChannels.filter fun channel => db.filedRoot channel.channelH = root

theorem captureTopology_eq (hresolvable : ∀ channel ∈ db.liveChannels,
    db.Resolvable channel.channelH) :
    db.captureTopology = .ok (db.workspaceRootIds.map (db.workspaceCap
      (db.liveChannels.map fun channel =>
        (db.filedRoot channel.channelH, db.channelCap channel)))) := by
  have hfiled : db.channelsWithRoots = .ok (db.liveChannels.map fun channel =>
      (db.filedRoot channel.channelH, db.channelCap channel)) := by
    refine mapM_eq_pure_map fun channel hchannel => ?_
    obtain ⟨root, hroot⟩ := rootForChannel_ok_iff.mpr (hresolvable channel hchannel)
    rw [hroot, filedRoot, hroot]
    rfl
  rw [captureTopology, hfiled]
  rfl

theorem workspaceCap_channels (root : String) :
    (db.workspaceCap (db.liveChannels.map fun channel =>
      (db.filedRoot channel.channelH, db.channelCap channel)) root).channels.Perm
        ((db.filedUnder root).map db.channelCap) := by
  refine (List.perm_insertionSort _ _).trans (List.Perm.of_eq ?_)
  rw [List.filter_map, List.map_map]
  rfl

theorem mem_filedUnder {root : String} {channel : Channel} :
    channel ∈ db.filedUnder root ↔
      channel ∈ db.liveChannels ∧ db.filedRoot channel.channelH = root := by
  rw [filedUnder, List.mem_filter, decide_eq_true_eq]

theorem nodup_liveChannels : (db.liveChannels.map Channel.channelH).Nodup := by
  have hsublist : (db.liveChannels.map Channel.channelH).Sublist
      (db.listChannels.map Channel.channelH) := List.filter_sublist.map Channel.channelH
  refine hsublist.nodup (((List.perm_insertionSort _ _).map Channel.channelH).nodup_iff.mpr ?_)
  exact db.channels.keysNodup

/-- What is known about a channel of the forest that is not too deep. -/
theorem filed_of_shallow (hforest : db.IsForest) {channelH root : String} {names : List String}
    (hpath : db.NamePath root channelH names) (hdepth : names.length < maxChannelParentDepth) :
    db.filedRoot channelH = root ∧
      db.fullChannelRef channelH = formatChannelRef root names := by
  have hne : channelH ≠ "" := by
    rintro rfl
    have hknown := hpath.rooted.known
    rw [parentLinks, hforest.rootMark] at hknown
    exact hknown rfl
  have hroot : db.rootChannelOf channelH = .ok (some root) :=
    rootChannelOf_eq_some_iff.mpr ⟨names.length, hdepth, hpath.rooted⟩
  constructor
  · rw [filedRoot, rootForChannel, if_neg hne, hroot]
    rfl
  · refine fullChannelRef_of_namePath hpath (Nat.lt_trans hdepth ?_)
    decide

theorem AllLive.mem {channelH : String} (hlive : db.AllLive channelH) :
    ∃ channel ∈ db.liveChannels, channel.channelH = channelH := by
  cases hlive with
  | root hget hlive _ | child hget hlive _ _ =>
      have hid := Table.key_of_find? hget
      exact ⟨_, mem_liveChannels.mpr ⟨by rw [hid]; exact hget, hlive⟩, hid⟩

theorem AllLive.up {channelH : String} {channel : Channel} (hlive : db.AllLive channelH)
    (hget : db.getChannel channelH = some channel) (hparent : channel.parent ≠ "") :
    db.AllLive channel.parent := by
  cases hlive with
  | root hget' _ hroot =>
      rw [hget, Option.some.injEq] at hget'
      subst hget'
      exact absurd hroot hparent
  | child hget' _ _ hup =>
      rw [hget, Option.some.injEq] at hget'
      subst hget'
      exact hup

/-- The root of such a channel has a workspace. -/
theorem AllLive.root_mem {channelH root : String} {names : List String}
    (hlive : db.AllLive channelH) (hpath : db.NamePath root channelH names) :
    root ∈ db.workspaceRootIds := by
  induction hpath with
  | root hget hroot =>
      obtain ⟨channel, hmem, hid⟩ := hlive.mem
      rw [workspaceRootIds, mem_sortDedup, List.mem_append]
      refine Or.inl (List.mem_map.mpr ⟨channel, List.mem_filter.mpr ⟨hmem, ?_⟩, hid⟩)
      have hsame := (mem_liveChannels.mp hmem).1
      rw [hid, hget, Option.some.injEq] at hsame
      rw [← hsame, decide_eq_true_eq]
      exact hroot
  | child hget hparent _ ih => exact ih (hlive.up hget hparent)

/-! ## When the tree is faithful -/

section Faithful

variable (hforest : db.IsForest)

include hforest

theorem exists_path {channel : Channel} (hchannel : channel ∈ db.liveChannels) :
    ∃ root names, db.NamePath root channel.channelH names := by
  obtain ⟨root, depth, hrooted⟩ := hforest.rooted channel hchannel
  obtain ⟨names, _, hpath⟩ := exists_namePath hrooted
  exact ⟨root, names, hpath⟩

/-- The topology is captured when no chain is too long. -/
theorem resolvable_iff_shallow : (∀ channel ∈ db.liveChannels, db.Resolvable channel.channelH) ↔
    ∀ channel ∈ db.liveChannels, ∀ root depth,
      Rooted db.parentLinks channel.channelH root depth → depth < maxChannelParentDepth := by
  refine forall₂_congr fun channel hchannel => ?_
  constructor
  · intro hresolvable root depth hrooted
    rcases hresolvable with hempty | ⟨other, below, hbelow, hother⟩ | ⟨_, _, _, hdangling⟩
    · have hknown := (mem_liveChannels.mp hchannel).1
      rw [hempty, hforest.rootMark] at hknown
      cases hknown
    · rwa [(hrooted.unique hother).2]
    · exact absurd hdangling hrooted.not_dangling
  · intro hshallow
    obtain ⟨root, depth, hrooted⟩ := hforest.rooted channel hchannel
    exact Or.inr (Or.inl ⟨root, depth, hshallow root depth hrooted, hrooted⟩)

variable (hshallow : ∀ channel ∈ db.liveChannels, ∀ root depth,
  Rooted db.parentLinks channel.channelH root depth → depth < maxChannelParentDepth)

include hshallow

theorem filed_of_mem {channel : Channel} (hchannel : channel ∈ db.liveChannels) {root : String}
    {names : List String} (hpath : db.NamePath root channel.channelH names) :
    db.filedRoot channel.channelH = root ∧
      db.fullChannelRef channel.channelH = formatChannelRef root names :=
  filed_of_shallow hforest hpath (hshallow channel hchannel root names.length hpath.rooted)

theorem filed_of_allLive {channelH root : String} {names : List String}
    (hlive : db.AllLive channelH) (hpath : db.NamePath root channelH names) :
    (∃ channel ∈ db.filedUnder root, channel.channelH = channelH) ∧
      db.fullChannelRef channelH = formatChannelRef root names := by
  obtain ⟨channel, hchannel, rfl⟩ := hlive.mem
  obtain ⟨hroot, hreference⟩ := filed_of_mem hforest hshallow hchannel hpath
  exact ⟨⟨channel, mem_filedUnder.mpr ⟨hchannel, hroot⟩, rfl⟩, hreference⟩

/-- The reference of a channel places it properly exactly when its shown name has no slash. -/
theorem placeOf_eq_properPlace_iff {channelH root : String} {names ids : List String}
    {channel : Channel} (hlive : db.AllLive channelH) (hpath : db.NamePath root channelH names)
    (hget : db.getChannel channelH = some channel)
    (hids : ∀ other ∈ db.filedUnder root, db.fullChannelRef other.channelH ∈ ids) :
    placeOf (formatChannelRef root []) ids (db.fullChannelRef channelH) =
        db.properPlace channelH ↔
      (channel.parent ≠ "" → '/' ∉ channel.shownName.toList) := by
  rw [(filed_of_allLive hforest hshallow hlive hpath).2, properPlace, hget]
  dsimp only
  cases hpath with
  | root hget' hroot =>
      rw [hget, Option.some.injEq] at hget'
      subst hget'
      rw [placeOf, if_pos rfl, if_pos hroot]
      exact iff_of_true rfl fun hparent => absurd hroot hparent
  | child hget' hparent hup =>
      rw [hget, Option.some.injEq] at hget'
      subst hget'
      obtain ⟨⟨above, habove, hid⟩, hreference⟩ :=
        filed_of_allLive hforest hshallow (hlive.up hget hparent) hup
      have hin := hids above habove
      rw [hid] at hin
      rw [placeOf, if_neg (formatChannelRef_concat_ne _ _ _), if_neg hparent, hreference]
      rw [hreference] at hin
      constructor
      · intro hplace _
        split at hplace
        · cases hplace
        · rename_i parent last hsplit
          split at hplace
          · cases hplace
            -- the reference is cut at the slash in front of the name
            obtain ⟨htext, hslash⟩ := rsplitOnce_eq_some_iff.mp hsplit
            rw [formatChannelRef_concat] at htext
            have hname : channel.shownName = last := by
              rw [← String.toList_inj] at htext ⊢
              simpa using htext
            rwa [hname]
          · cases hplace
      · intro hslash
        rw [rsplitOnce_eq_some_iff.mpr
          ⟨formatChannelRef_concat root _ channel.shownName, hslash hparent⟩]
        exact if_pos hin

end Faithful

theorem exists_workspaceRow (rowsOf : ChannelCap → BlockRows μ π) :
    ∃ view : WorkspaceCap → WorkspaceView μ π,
      (∀ workspaces, List.mapM (workspaceRow rowsOf) workspaces = some (workspaces.map view)) ∧
      ∀ workspace, (view workspace).name = workspace.summary.name ∧
        (view workspace).places.Perm
          ((sortDedup (workspace.channels.map ChannelCap.reference)).map fun id =>
            (placeOf (formatChannelRef workspace.summary.name [])
              (sortDedup (workspace.channels.map ChannelCap.reference)) id, id)) := by
  choose view hview hname hplaces using workspaceRow_places rowsOf
  exact ⟨view, fun workspaces => mapM_eq_pure_map fun workspace _ => hview workspace,
    fun workspace => ⟨hname workspace, hplaces workspace⟩⟩

/-- In the places of a workspace a reference stands where `placeOf` says. -/
theorem mem_places_iff {view : WorkspaceView μ π} {rootReference : String} {ids : List String}
    (hplaces : view.places.Perm (ids.map fun id => (placeOf rootReference ids id, id)))
    {place : Place} {id : String} :
    (place, id) ∈ view.places ↔ id ∈ ids ∧ placeOf rootReference ids id = place := by
  rw [hplaces.mem_iff, List.mem_map]
  constructor
  · rintro ⟨other, hother, heq⟩
    cases heq
    exact ⟨hother, rfl⟩
  · rintro ⟨hid, rfl⟩
    exact ⟨id, hid, rfl⟩

theorem filter_places {view : WorkspaceView μ π} {rootReference : String} {ids : List String}
    (hplaces : view.places.Perm (ids.map fun id => (placeOf rootReference ids id, id)))
    (hnodup : ids.Nodup) {id : String} (hid : id ∈ ids) :
    view.places.filter (fun entry => entry.2 = id) = [(placeOf rootReference ids id, id)] := by
  refine List.perm_singleton.mp ((hplaces.filter _).trans (List.Perm.of_eq ?_))
  rw [List.filter_map]
  show (ids.filter (fun other => other = id)).map _ = _
  rw [List.filter_eq id, List.count_eq_one_of_mem hnodup hid]
  rfl

/-- The references of a workspace are those of the channels filed under its root. -/
theorem mem_references {root reference : String} :
    reference ∈ sortDedup ((db.workspaceCap (db.liveChannels.map fun channel =>
        (db.filedRoot channel.channelH, db.channelCap channel)) root).channels.map
          ChannelCap.reference) ↔
      ∃ channel ∈ db.filedUnder root, db.fullChannelRef channel.channelH = reference := by
  rw [mem_sortDedup, ((workspaceCap_channels root).map ChannelCap.reference).mem_iff, List.map_map,
    List.mem_map]
  exact Iff.rfl

theorem pathsApart_of_showsTree (hforest : db.IsForest) {rowsOf : ChannelCap → BlockRows μ π}
    (hshows : db.ShowsTree rowsOf) : db.PathsApart := by
  obtain ⟨workspaces, views, hcapture, hviews, htree⟩ := hshows
  have hresolvable := captureTopology_ok_iff.mp ⟨workspaces, hcapture⟩
  have hshallow := (resolvable_iff_shallow hforest).mp hresolvable
  obtain ⟨view, hview, hplaces⟩ := exists_workspaceRow rowsOf
  rw [captureTopology_eq hresolvable, Except.ok.injEq] at hcapture
  rw [hview, Option.some.injEq] at hviews
  subst hcapture hviews
  refine ⟨hshallow, ?_, ?_, ?_⟩
  · intro channelH channel hlive hget hparent
    obtain ⟨live, hlive', rfl⟩ := hlive.mem
    obtain ⟨root, names, hpath⟩ := exists_path hforest hlive'
    obtain ⟨shown, hshown, hname, honce⟩ := htree.nested _ root names hlive hpath
    obtain ⟨workspace, hworkspace, rfl⟩ := List.mem_map.mp hshown
    obtain ⟨other, _, rfl⟩ := List.mem_map.mp hworkspace
    rw [(hplaces _).1] at hname
    have hroot : other = root := hname
    subst hroot
    -- the one place of the channel is the place that its reference names
    have hplace := List.mem_of_mem_filter (by rw [honce]; exact List.mem_singleton_self _)
    have hproper := ((mem_places_iff (hplaces _).2).mp hplace).2
    exact (placeOf_eq_properPlace_iff hforest hshallow hlive hpath hget
      (fun below hbelow => mem_references.mpr ⟨below, hbelow, rfl⟩)).mp hproper hparent
  · intro first second root other firstNames secondNames hne hfirst hsecond hpath hother hsame
    refine hne (htree.apart first second hfirst hsecond ?_)
    rw [(filed_of_allLive hforest hshallow hfirst hpath).2,
      (filed_of_allLive hforest hshallow hsecond hother).2, formatChannelRef_eq_iff]
    exact hsame
  · intro first hfirst second hsecond root firstNames secondNames hne hroot hpath hother hsame
    have hkept := htree.kept _ (List.mem_map_of_mem hroot)
    rw [((workspaceCap_channels root).map ChannelCap.reference).nodup_iff, List.map_map] at hkept
    obtain ⟨hfiled, hreference⟩ := filed_of_mem hforest hshallow hfirst hpath
    obtain ⟨hfiled', hreference'⟩ := filed_of_mem hforest hshallow hsecond hother
    have hequal := List.inj_on_of_nodup_map hkept (mem_filedUnder.mpr ⟨hfirst, hfiled⟩)
      (mem_filedUnder.mpr ⟨hsecond, hfiled'⟩) (by
        show db.fullChannelRef first.channelH = db.fullChannelRef second.channelH
        rw [hreference, hreference', formatChannelRef_eq_iff]
        exact hsame)
    exact hne (congrArg Channel.channelH hequal)

/-- Channels whose ancestors are all shown have different references. -/
theorem PathsApart.fullChannelRef_injOn (hapart : db.PathsApart) (hforest : db.IsForest)
    {first second : String} (hfirst : db.AllLive first) (hsecond : db.AllLive second)
    (hsame : db.fullChannelRef first = db.fullChannelRef second) : first = second := by
  obtain ⟨channel, hchannel, rfl⟩ := hfirst.mem
  obtain ⟨other, hother, rfl⟩ := hsecond.mem
  obtain ⟨root, names, hpath⟩ := exists_path hforest hchannel
  obtain ⟨root', others, hpath'⟩ := exists_path hforest hother
  by_contra hne
  refine hapart.acrossWorkspaces _ _ root root' names others hne hfirst hsecond hpath hpath'
    (formatChannelRef_eq_iff.mp ?_)
  rw [← (filed_of_mem hforest hapart.shallow hchannel hpath).2,
    ← (filed_of_mem hforest hapart.shallow hother hpath').2]
  exact hsame

/-- No two channels that are filed under one root have one reference. -/
theorem PathsApart.references_nodup (hapart : db.PathsApart) (hforest : db.IsForest)
    {root : String} (hroot : root ∈ db.workspaceRootIds) :
    ((db.workspaceCap (db.liveChannels.map fun channel =>
      (db.filedRoot channel.channelH, db.channelCap channel)) root).channels.map
        ChannelCap.reference).Nodup := by
  rw [((workspaceCap_channels root).map ChannelCap.reference).nodup_iff, List.map_map]
  have hnodup : ((db.filedUnder root).map Channel.channelH).Nodup :=
    (List.filter_sublist.map Channel.channelH).nodup nodup_liveChannels
  refine hnodup.of_map.map_on ?_
  intro first hfirst second hsecond hsame
  obtain ⟨hfirst, hfiled⟩ := mem_filedUnder.mp hfirst
  obtain ⟨hsecond, hfiled'⟩ := mem_filedUnder.mp hsecond
  obtain ⟨_, names, hpath⟩ := exists_path hforest hfirst
  obtain ⟨_, others, hother⟩ := exists_path hforest hsecond
  obtain ⟨rfl, hreference⟩ := filed_of_mem hforest hapart.shallow hfirst hpath
  obtain ⟨rfl, hreference'⟩ := filed_of_mem hforest hapart.shallow hsecond hother
  rw [hfiled] at hpath hreference
  rw [hfiled'] at hother hreference'
  by_contra hne
  have hids : first.channelH ≠ second.channelH :=
    fun heq => hne (List.inj_on_of_nodup_map nodup_liveChannels hfirst hsecond heq)
  refine hapart.withinWorkspace first hfirst second hsecond root names others hids hroot hpath
    hother (formatChannelRef_eq_iff.mp ?_)
  rw [← hreference, ← hreference']
  exact hsame

theorem showsTree_of_pathsApart (hforest : db.IsForest) (rowsOf : ChannelCap → BlockRows μ π)
    (hapart : db.PathsApart) : db.ShowsTree rowsOf := by
  have hshallow := hapart.shallow
  obtain ⟨view, hview, hplaces⟩ := exists_workspaceRow rowsOf
  refine ⟨_, _, captureTopology_eq ((resolvable_iff_shallow hforest).mpr hshallow), hview _, ?_⟩
  refine ⟨fun first second => hapart.fullChannelRef_injOn hforest, ?_, ?_, ?_, ?_, ?_⟩
  · intro workspace hworkspace
    obtain ⟨root, hroot, rfl⟩ := List.mem_map.mp hworkspace
    exact hapart.references_nodup hforest hroot
  · intro workspace hworkspace cap hcap root names hpath
    obtain ⟨other, _, rfl⟩ := List.mem_map.mp hworkspace
    obtain ⟨channel, hchannel, rfl⟩ :=
      List.mem_map.mp ((workspaceCap_channels other).mem_iff.mp hcap)
    obtain ⟨hlive, rfl⟩ := mem_filedUnder.mp hchannel
    exact (filed_of_mem hforest hshallow hlive hpath).1
  · rw [List.forall₂_map_right_iff, List.forall₂_same]
    intro workspace _
    refine ⟨(hplaces workspace).1, ((hplaces workspace).2.map Prod.snd).trans ?_⟩
    rw [List.map_map]
    exact List.Perm.of_eq (List.map_id _)
  · rw [List.map_map, List.map_map]
    have hnames : (WorkspaceView.name ∘ view) ∘ db.workspaceCap (db.liveChannels.map fun channel =>
        (db.filedRoot channel.channelH, db.channelCap channel)) = id := by
      funext root
      exact (hplaces _).1
    rw [hnames, List.map_id]
    exact nodup_sortDedup _
  · intro channelH root names hlive hpath
    obtain ⟨⟨channel, hchannel, rfl⟩, _⟩ := filed_of_allLive hforest hshallow hlive hpath
    have hget := (mem_liveChannels.mp (mem_filedUnder.mp hchannel).1).1
    refine ⟨_, List.mem_map_of_mem (List.mem_map_of_mem (hlive.root_mem hpath)), (hplaces _).1, ?_⟩
    have hproper := (placeOf_eq_properPlace_iff hforest hshallow hlive hpath hget
      (fun below hbelow => mem_references.mpr ⟨below, hbelow, rfl⟩)).mpr
        (hapart.noSlash _ channel hlive hget)
    rw [← hproper]
    exact filter_places (hplaces _).2 (nodup_sortDedup _)
      (mem_references.mpr ⟨channel, hchannel, rfl⟩)

/-- The full view is a faithful tree exactly when the printed paths keep the channels apart. -/
theorem showsTree_iff (hforest : db.IsForest) (rowsOf : ChannelCap → BlockRows μ π) :
    db.ShowsTree rowsOf ↔ db.PathsApart :=
  ⟨pathsApart_of_showsTree hforest, showsTree_of_pathsApart hforest rowsOf⟩

/-- Two siblings whose names differ by a blank. -/
def twinNotes : Database :=
  { Database.empty with
    channels := ⟨[⟨"w", "w", "", "", 1, 1⟩, ⟨"a", "notes", "", "w", 1, 1⟩,
      ⟨"b", " notes", "", "w", 1, 1⟩], by decide⟩ }

/-- Blocks without rows. -/
def noRows (_ : ChannelCap) : BlockRows Unit Unit :=
  ⟨none, none, [], [], [], 0⟩

theorem isForest_twinNotes : twinNotes.IsForest := by
  have hroot : Rooted twinNotes.parentLinks "w" "w" 0 := .root (by decide)
  refine ⟨by decide, ?_⟩
  rw [show twinNotes.liveChannels = [⟨"w", "w", "", "", 1, 1⟩, ⟨"a", "notes", "", "w", 1, 1⟩,
    ⟨"b", " notes", "", "w", 1, 1⟩] by decide +kernel]
  simp only [List.forall_mem_cons, List.not_mem_nil, false_implies, implies_true, and_true]
  exact ⟨⟨"w", 0, hroot⟩, ⟨"w", 1, .child (by decide) hroot⟩, ⟨"w", 1, .child (by decide) hroot⟩⟩

theorem not_showsTree_twinNotes : ¬ twinNotes.ShowsTree noRows := by
  rintro ⟨_, _, _, _, htree⟩
  have hw : twinNotes.getChannel "w" = some ⟨"w", "w", "", "", 1, 1⟩ := by decide
  have ha : twinNotes.getChannel "a" = some ⟨"a", "notes", "", "w", 1, 1⟩ := by decide
  have hb : twinNotes.getChannel "b" = some ⟨"b", " notes", "", "w", 1, 1⟩ := by decide
  have hroot : twinNotes.AllLive "w" := .root hw (by decide +kernel) rfl
  have hfirst : twinNotes.AllLive "a" := .child ha (by decide +kernel) (by decide) hroot
  have hsecond : twinNotes.AllLive "b" := .child hb (by decide +kernel) (by decide) hroot
  have hsame := htree.apart "a" "b" hfirst hsecond (by decide +kernel)
  exact absurd hsame (by decide)

theorem twinNotes_not_apart : ¬ twinNotes.PathsApart := by
  intro hapart
  exact not_showsTree_twinNotes ((showsTree_iff isForest_twinNotes noRows).mpr hapart)

/-- Of the two siblings only one has a block. -/
theorem sibling_block_lost :
    ¬ (∀ db : Database, db.IsForest → db.SiblingsDistinct → db.ShowsTree noRows) ∧
      ((workspaceRow noRows (twinNotes.workspaceCap (twinNotes.liveChannels.map fun channel =>
        (twinNotes.filedRoot channel.channelH, twinNotes.channelCap channel)) "w")).map
          WorkspaceView.places) = some [(.root, "/w"), (.below "/w", "/w/notes")] := by
  refine ⟨fun hall => ?_, by decide +kernel⟩
  have hdistinct : twinNotes.SiblingsDistinct := by
    unfold SiblingsDistinct
    decide +kernel
  exact not_showsTree_twinNotes (hall twinNotes isForest_twinNotes hdistinct)

end Database

end Mosaico
