import Mosaico.Fabric.ReferencePaths
import Mosaico.Forest.Walk
import Mathlib.Data.List.Destutter

/-!
# Resolving a channel reference

A reference is looked up below a root channel: its names are compared, from the last one
backwards, with the name paths of the channels below the root.  The candidates come from a walk
with a budget, and a candidate matches when its path merely ends with the requested names, also
when the reference was absolute.

`str::to_lowercase` is a parameter.
-/

namespace Mosaico

open Relational Forest

/-- Outcome of resolving a channel-relative channel reference. -/
inductive ChannelResolution where
  | unique (channelH : String)
  | ambiguous (references : List String)
  | notFound
  deriving DecidableEq, Repr

/-- Why a channel name is refused. -/
inductive ChannelNameError where
  | notOneSegment
  | alreadyRoot (name : String)
  deriving DecidableEq, Repr

def ChannelNameError.text : ChannelNameError → String
  | .notOneSegment => "channel names must be one non-empty path segment"
  | .alreadyRoot name =>
      name ++ " is already the workspace root channel and cannot also be a direct child"

/-- Check the name of a new channel; `workspaceRoot` is the root that it would be a direct child
of. -/
def validateChild (name : String) (workspaceRoot : Option String) :
    Except ChannelNameError Unit :=
  if Rust.isBlank name = true ∨ '.' ∈ name.toList ∨ '/' ∈ name.toList then .error .notOneSegment
  else if workspaceRoot.any (fun root => eqIgnoreAsciiCase name root) then
    .error (.alreadyRoot name)
  else .ok ()

/-- `segs` ends with `want`. -/
def pathEndsWith (segs want : List String) : Bool :=
  want.length ≤ segs.length && segs.drop (segs.length - want.length) == want

def maxSubtreeVisits : Nat := 10000

/-- Reduce raw hits to a resolution: sort, drop repeated ids, then unique, ambiguous or none. -/
def finishResolution (hits : List (String × List String)) (root : String) : ChannelResolution :=
  let sorted := hits.insertionSort fun left right =>
    left.1 < right.1 ∨ (left.1 = right.1 ∧ left.2 ≤ right.2)
  match sorted.destutter fun kept next => kept.1 ≠ next.1 with
  | [] => .notFound
  | [hit] => .unique hit.1
  | several => .ambiguous
      ((several.map fun hit => formatChannelRef root hit.2).insertionSort (· ≤ ·))

/-- The resolution of an `@` reference from the ids that start with its prefix. -/
def finishIds (ids : List String) : ChannelResolution :=
  match (ids.insertionSort (· ≤ ·)).destutter (· ≠ ·) with
  | [] => .notFound
  | [id] => .unique id
  | several => .ambiguous (several.map fun id => "@" ++ id)

namespace Database

/-- The named channels directly below a channel, with their paths.  An unnamed channel is
skipped. -/
def namedChildren (lower : String → String) (db : Database) (node : String × List String) :
    List (String × List String) :=
  (db.listChannels.filter fun channel => channel.parent = node.1).filterMap fun channel =>
    channel.humanName.map fun name => (channel.channelH, node.2 ++ [lower name])

/-- Every named channel below `root` with its name path.  The walk gives up after
`maxSubtreeVisits` channels. -/
def subtreePaths (lower : String → String) (db : Database) (root : String) :
    List (String × List String) :=
  stackWalk (db.namedChildren lower) maxSubtreeVisits [(root, [])] []

/-- Every channel below `root`, unnamed ones included, and `root` itself. -/
def subtreeIds (db : Database) (root : String) : List String :=
  stackWalk
    (fun id => (db.listChannels.filter fun channel => channel.parent = id).map Channel.channelH)
    maxSubtreeVisits [root] [root]

/-- Resolve a channel reference within the tree of `root`. -/
def resolveChannelRef (lower : String → String) (db : Database) (root reference : String) :
    ChannelResolution :=
  let reference := Rust.trim reference
  if reference = "" then .notFound
  else match canonicalSegments root reference with
    | none => .notFound
    | some segments =>
        let want := segments.map lower
        if want = [] then .unique root
        else match reference.toList with
          | '@' :: idStart =>
              if idStart = [] then .notFound
              else finishIds ((db.subtreeIds root).filter fun id => idStart.isPrefixOf id.toList)
          | _ =>
              finishResolution
                ((db.subtreePaths lower root).filter fun entry => pathEndsWith entry.2 want) root

/-! ## When a printed reference is read back -/

/-- The names of all channels below a root have been validated. -/
def ValidNames (db : Database) : Prop :=
  ∀ channel ∈ db.channels.rows, channel.parent ≠ "" → validateChild channel.name none = .ok ()

/-- The channel is a named child of one of the first channels, in depth-first order, of the tree
of named channels below `root`. -/
def Listed (lower : String → String) (db : Database) (root channelH : String)
    (path : List String) : Prop :=
  ∃ up ∈ (depthFirst (db.namedChildren lower) db.channels.rows.length (root, [])).take
    maxSubtreeVisits, (channelH, path) ∈ db.namedChildren lower up

/-- The root is a single segment, and a channel below it is listed with a path that no path of
another listed channel ends with. -/
structure ReadsBack (lower : String → String) (db : Database) (root channelH : String) :
    Prop where
  rootSegment : IsSegment root
  alone : channelH = root ∨ ∃ path, db.Listed lower root channelH path ∧
    ∀ other otherPath, db.Listed lower root other otherPath → path <:+ otherPath →
      other = channelH

end Database

/-! ## Matching and reducing -/

theorem pathEndsWith_iff {segs want : List String} :
    pathEndsWith segs want = true ↔ want <:+ segs := by
  rw [pathEndsWith, Bool.and_eq_true, decide_eq_true_eq, beq_iff_eq]
  constructor
  · rintro ⟨_, hdrop⟩
    rw [← hdrop]
    exact List.drop_suffix _ _
  · intro hsuffix
    refine ⟨hsuffix.length_le, ?_⟩
    exact (List.suffix_iff_eq_drop.mp hsuffix).symm

/-- Only the first entry is left when all others have its id. -/
theorem destutter'_eq_singleton_iff {entry : String × List String}
    {rest : List (String × List String)} :
    rest.destutter' (fun kept next => kept.1 ≠ next.1) entry = [entry] ↔
      ∀ other ∈ rest, other.1 = entry.1 := by
  induction rest with
  | nil => simp [List.destutter'_nil]
  | cons next rest ih =>
      by_cases hsame : entry.1 = next.1
      · rw [List.destutter'_cons_neg _ (by simpa using hsame), ih, List.forall_mem_cons]
        exact ⟨fun hrest => ⟨hsame.symm, hrest⟩, fun hall => hall.2⟩
      · rw [List.destutter'_cons_pos _ hsame]
        refine iff_of_false ?_ (fun hall => hsame (hall next List.mem_cons_self).symm)
        intro hsingle
        exact List.destutter'_ne_nil _ _ (List.cons.inj hsingle).2

/-- A resolution is unique when there are hits and all of them are one channel. -/
theorem finishResolution_eq_unique_iff {hits : List (String × List String)}
    {root channelH : String} :
    finishResolution hits root = .unique channelH ↔
      hits ≠ [] ∧ ∀ hit ∈ hits, hit.1 = channelH := by
  rw [finishResolution]
  generalize hsorted : hits.insertionSort (fun left right =>
    left.1 < right.1 ∨ (left.1 = right.1 ∧ left.2 ≤ right.2)) = sorted
  have hmem : ∀ hit, hit ∈ sorted ↔ hit ∈ hits := by
    intro hit
    rw [← hsorted, List.mem_insertionSort]
  cases sorted with
  | nil =>
      have hempty : hits = [] := by
        refine List.eq_nil_iff_forall_not_mem.mpr ?_
        intro hit hhit
        exact List.not_mem_nil ((hmem hit).mpr hhit)
      simp [hempty]
  | cons entry rest =>
      have hne : hits ≠ [] := List.ne_nil_of_mem ((hmem entry).mp List.mem_cons_self)
      have hall : (∀ hit ∈ hits, hit.1 = channelH) ↔
          entry.1 = channelH ∧ ∀ other ∈ rest, other.1 = entry.1 := by
        simp only [← hmem, List.forall_mem_cons]
        refine and_congr_right ?_
        rintro rfl
        exact Iff.rfl
      rw [List.destutter_cons', hall, ← destutter'_eq_singleton_iff]
      have hkept := List.mem_destutter' (R := fun kept next : String × List String =>
        kept.1 ≠ next.1) (l := rest) entry
      split
      · rename_i hnil
        exact absurd hnil (List.destutter'_ne_nil _ _)
      · rename_i hit hsingle
        rw [hsingle, List.mem_singleton] at hkept
        subst hkept
        simp [hsingle, hne]
      · rename_i several _ hmany
        refine iff_of_false (fun heq => by cases heq) ?_
        rintro ⟨_, _, hsingle⟩
        exact hmany entry hsingle

/-! ## The listed channels -/

theorem exists_name_of_humanName {channel : Channel} {name : String}
    (hname : channel.humanName = some name) :
    name = Rust.trim channel.name ∧ name ≠ "" ∧ channel.shownName = name := by
  refine ⟨?_, ?_, by rw [Channel.shownName, hname, Option.getD_some]⟩
  all_goals
    rw [Channel.humanName] at hname
    split at hname
    · cases hname
    · rename_i hne
      split at hname
      · cases hname
      · cases hname
        first
          | rfl
          | exact hne

theorem noDot_of_validateChild {name : String} (hvalid : validateChild name none = .ok ()) :
    '.' ∉ name.toList ∧ '/' ∉ name.toList := by
  rw [validateChild] at hvalid
  split at hvalid
  · cases hvalid
  · rename_i hwell
    exact ⟨fun hdot => hwell (Or.inr (Or.inl hdot)), fun hslash => hwell (Or.inr (Or.inr hslash))⟩

namespace Database

variable {lower : String → String} {db : Database} {root channelH : String} {path : List String}

theorem mem_namedChildren {node child : String × List String} :
    child ∈ db.namedChildren lower node ↔ ∃ channel name, db.getChannel child.1 = some channel ∧
      channel.parent = node.1 ∧ channel.humanName = some name ∧
      child.2 = node.2 ++ [lower name] := by
  rw [namedChildren, List.mem_filterMap]
  constructor
  · rintro ⟨channel, hchannel, hchild⟩
    rw [List.mem_filter, listChannels, List.mem_insertionSort, decide_eq_true_eq] at hchannel
    obtain ⟨name, hname, rfl⟩ := Option.map_eq_some_iff.mp hchild
    exact ⟨channel, name, Table.mem_rows_iff.mp hchannel.1, hchannel.2, hname, rfl⟩
  · rintro ⟨channel, name, hget, hparent, hname, hpath⟩
    have hid : channel.channelH = child.1 := Table.key_of_find? hget
    refine ⟨channel, ?_, ?_⟩
    · rw [List.mem_filter, listChannels, List.mem_insertionSort, decide_eq_true_eq]
      exact ⟨Table.mem_of_find? hget, hparent⟩
    · rw [hname, Option.map_some, hid, ← hpath]

/-- The path of a node holds the lowercased names down to it, all of them single segments. -/
def Spelled (lower : String → String) (db : Database) (root : String)
    (node : String × List String) : Prop :=
  ∃ names, db.NamePath root node.1 names ∧ node.2 = names.map lower ∧
    ∀ name ∈ names, IsSegment name

theorem spelled_child (hforest : db.getChannel "" = none) (hnames : db.ValidNames)
    {node child : String × List String} (hnode : db.Spelled lower root node)
    (hchild : child ∈ db.namedChildren lower node) : db.Spelled lower root child := by
  obtain ⟨names, hpath, hlower, hsegments⟩ := hnode
  obtain ⟨channel, name, hget, hparent, hname, heq⟩ := mem_namedChildren.mp hchild
  obtain ⟨htrim, hne, hshown⟩ := exists_name_of_humanName hname
  -- no channel has the empty id, so the child is not a root
  have hproper : channel.parent ≠ "" := by
    intro hroot
    rw [hparent] at hroot
    have hknown := hpath.rooted.known
    rw [hroot, parentLinks, hforest] at hknown
    exact hknown rfl
  refine ⟨names ++ [name], ?_, ?_, ?_⟩
  · rw [← hparent] at hpath
    rw [← hshown]
    exact .child hget hproper hpath
  · rw [heq, hlower, List.map_append, List.map_singleton]
  · intro other hother
    rcases List.mem_append.mp hother with hold | hnew
    · exact hsegments other hold
    · rw [List.mem_singleton] at hnew
      subst hnew
      have hvalid := noDot_of_validateChild (hnames channel (Table.mem_of_find? hget) hproper)
      refine ⟨hne, by rw [htrim, Rust.trim_trim], ?_, ?_⟩
      · intro hslash
        rw [htrim] at hslash
        exact hvalid.2 (mem_toList_trim hslash)
      · intro hdot
        rw [htrim] at hdot
        exact hvalid.1 (mem_toList_trim hdot)

/-- The tree of named channels is no higher than there are channels. -/
theorem within_namedChildren (hforest : db.getChannel "" = none) (hnames : db.ValidNames)
    (hroot : db.NamePath root root []) :
    Within (db.namedChildren lower) db.channels.rows.length (root, []) := by
  refine within_of_measure (P := db.Spelled lower root)
    (fun node => db.channels.rows.length - node.2.length) ?_ ?_ (Nat.sub_le _ _)
  · intro node hnode child hchild
    have hspelled := spelled_child hforest hnames hnode hchild
    refine ⟨hspelled, ?_⟩
    obtain ⟨names, hpath, hlower, _⟩ := hspelled
    obtain ⟨_, _, _, _, _, heq⟩ := mem_namedChildren.mp hchild
    have hdepth : names.length < db.channels.rows.length := by
      have hbound := hpath.rooted.depth_lt (db.channels.rows.map Channel.channelH) ?_
      · rwa [List.length_map] at hbound
      · intro known hknown
        obtain ⟨link, hlink⟩ := Option.ne_none_iff_exists'.mp hknown
        obtain ⟨channel, hget, _⟩ := Option.map_eq_some_iff.mp hlink
        exact List.mem_map.mpr
          ⟨channel, Table.mem_of_find? hget, Table.key_of_find? hget⟩
    have hlength : child.2.length = names.length := by rw [hlower, List.length_map]
    have hlonger : child.2.length = node.2.length + 1 := by
      rw [heq, List.length_append, List.length_singleton]
    omega
  · exact ⟨[], hroot, rfl, fun _ hname => absurd hname List.not_mem_nil⟩

theorem mem_subtreePaths (hforest : db.getChannel "" = none) (hnames : db.ValidNames)
    (hroot : db.NamePath root root []) :
    (channelH, path) ∈ db.subtreePaths lower root ↔ db.Listed lower root channelH path := by
  have hstack : ∀ node ∈ [(root, ([] : List String))],
      Within (db.namedChildren lower) db.channels.rows.length node := by
    intro node hnode
    rw [List.mem_singleton] at hnode
    rw [hnode]
    exact within_namedChildren hforest hnames hroot
  rw [subtreePaths, stackWalk_eq hstack, List.nil_append, List.flatMap_singleton,
    List.mem_flatMap]
  exact Iff.rfl

/-- Whatever lies below the root in the tree of named channels is spelled by its path. -/
theorem spelled_of_below (hforest : db.getChannel "" = none) (hnames : db.ValidNames)
    (hroot : db.NamePath root root []) {node : String × List String}
    (hbelow : Relation.ReflTransGen (fun up down => down ∈ db.namedChildren lower up) (root, [])
      node) : db.Spelled lower root node := by
  induction hbelow with
  | refl => exact ⟨[], hroot, rfl, fun _ hname => absurd hname List.not_mem_nil⟩
  | tail _ hchild ih => exact spelled_child hforest hnames ih hchild

theorem spelled_of_listed (hforest : db.getChannel "" = none) (hnames : db.ValidNames)
    (hroot : db.NamePath root root []) (hlisted : db.Listed lower root channelH path) :
    db.Spelled lower root (channelH, path) := by
  obtain ⟨up, hup, hchild⟩ := hlisted
  have hbelow := (mem_depthFirst (within_namedChildren hforest hnames hroot)).mp
    (List.mem_of_mem_take hup)
  exact spelled_child hforest hnames (spelled_of_below hforest hnames hroot hbelow) hchild

theorem path_ne_nil_of_listed (hlisted : db.Listed lower root channelH path) : path ≠ [] := by
  obtain ⟨up, _, hchild⟩ := hlisted
  obtain ⟨_, _, _, _, _, hlast⟩ := mem_namedChildren.mp hchild
  intro hempty
  rw [hempty] at hlast
  exact List.append_ne_nil_of_right_ne_nil _ (List.cons_ne_nil _ _) hlast.symm

/-! ## Reading a printed reference back -/

/-- A reference that starts with a slash is no `@` reference. -/
theorem resolveChannelRef_of_segments {reference : String} {segments : List String}
    (habsolute : (Rust.trim reference).toList.head? = some '/')
    (hread : canonicalSegments root reference = some segments) :
    db.resolveChannelRef lower root reference =
      if segments = [] then .unique root
      else finishResolution ((db.subtreePaths lower root).filter fun entry =>
        pathEndsWith entry.2 (segments.map lower)) root := by
  have hagain : canonicalSegments root (Rust.trim reference) = some segments := by
    rw [canonicalSegments, Rust.trim_trim]
    exact hread
  have hne : Rust.trim reference ≠ "" := by
    intro hempty
    rw [hempty] at habsolute
    cases habsolute
  rw [resolveChannelRef]
  dsimp only
  rw [if_neg hne, hagain]
  dsimp only
  refine if_congr List.map_eq_nil_iff rfl ?_
  split
  · rename_i idStart hat
    rw [hat, List.head?_cons, Option.some.injEq] at habsolute
    exact absurd habsolute (by decide)
  · rfl

theorem resolveChannelRef_of_none {reference : String}
    (hread : canonicalSegments root reference = none) :
    db.resolveChannelRef lower root reference = .notFound := by
  have hagain : canonicalSegments root (Rust.trim reference) = none := by
    rw [canonicalSegments, Rust.trim_trim]
    exact hread
  rw [resolveChannelRef]
  dsimp only
  rw [hagain]
  split
  · rfl
  · rfl

/-- The reader takes the reference of a listed channel apart into the names it was made of. -/
theorem ownSegments_of_listed (hforest : db.getChannel "" = none) (hnames : db.ValidNames)
    (hroot : db.NamePath root root []) {names : List String}
    (hpath : db.NamePath root channelH names) (hsegment : IsSegment root)
    (hlisted : db.Listed lower root channelH path) :
    path = names.map lower ∧
      canonicalSegments root (formatChannelRef root names) = some names := by
  obtain ⟨spelled, hspelledPath, hspelled, hsegments⟩ :=
    spelled_of_listed hforest hnames hroot hlisted
  obtain ⟨_, rfl⟩ := hpath.unique hspelledPath
  exact ⟨hspelled,
    canonicalSegments_formatChannelRef (List.forall_mem_cons.mpr ⟨hsegment, hsegments⟩)⟩

/-- The suffix search for the path of a listed channel finds that channel only. -/
theorem suffixSearch_eq_unique_iff (hforest : db.getChannel "" = none) (hnames : db.ValidNames)
    (hroot : db.NamePath root root []) (hlisted : db.Listed lower root channelH path) :
    finishResolution ((db.subtreePaths lower root).filter fun entry =>
        pathEndsWith entry.2 path) root = .unique channelH ↔
      ∀ other otherPath, db.Listed lower root other otherPath → path <:+ otherPath →
        other = channelH := by
  have hlist : ∀ other otherPath, (other, otherPath) ∈ db.subtreePaths lower root ↔
      db.Listed lower root other otherPath :=
    fun _ _ => mem_subtreePaths hforest hnames hroot
  rw [finishResolution_eq_unique_iff]
  constructor
  · rintro ⟨_, hall⟩ other otherPath hother hsuffix
    exact hall (other, otherPath) (List.mem_filter.mpr
      ⟨(hlist other otherPath).mpr hother, pathEndsWith_iff.mpr hsuffix⟩)
  · intro honly
    constructor
    · refine List.ne_nil_of_mem (a := (channelH, path)) (List.mem_filter.mpr ?_)
      exact ⟨(hlist channelH path).mpr hlisted, pathEndsWith_iff.mpr List.suffix_rfl⟩
    · rintro ⟨other, otherPath⟩ hhit
      obtain ⟨hother, hends⟩ := List.mem_filter.mp hhit
      exact honly other otherPath ((hlist other otherPath).mp hother)
        (pathEndsWith_iff.mp hends)

theorem exists_listed_of_unique (hforest : db.getChannel "" = none) (hnames : db.ValidNames)
    (hroot : db.NamePath root root []) {keep : String × List String → Bool}
    (hunique : finishResolution ((db.subtreePaths lower root).filter keep) root =
      .unique channelH) :
    ∃ path, db.Listed lower root channelH path := by
  obtain ⟨hne, hall⟩ := finishResolution_eq_unique_iff.mp hunique
  obtain ⟨⟨first, path⟩, hfirst⟩ := List.exists_mem_of_ne_nil _ hne
  have hsame : first = channelH := hall _ hfirst
  subst hsame
  exact ⟨path, (mem_subtreePaths hforest hnames hroot).mp (List.mem_of_mem_filter hfirst)⟩

/-- A printed reference is read back as its own channel exactly when the root is a single segment
and no other channel of the tree has a path that ends with the printed one. -/
theorem resolveChannelRef_fullChannelRef_iff (lower : String → String)
    (hforest : db.getChannel "" = none) (hnames : db.ValidNames) {depth : Nat}
    (hrooted : Rooted db.parentLinks channelH root depth) (hdepth : depth < maxChannelRefDepth) :
    db.resolveChannelRef lower root (db.fullChannelRef channelH) = .unique channelH ↔
      db.ReadsBack lower root channelH := by
  obtain ⟨names, hlength, hpath⟩ := exists_namePath hrooted
  obtain ⟨rootNames, hrootLength, hroot⟩ := exists_namePath (.root hrooted.root_isRoot)
  rw [List.length_eq_zero_iff] at hrootLength
  subst hrootLength
  rw [fullChannelRef_of_namePath hpath (by omega)]
  have habsolute := head?_trim_formatChannelRef root names
  constructor
  · intro hunique
    cases hread : canonicalSegments root (formatChannelRef root names) with
    | none =>
        rw [resolveChannelRef_of_none hread] at hunique
        cases hunique
    | some segments =>
        have hsegment := isSegment_of_canonicalSegments habsolute hread
        refine ⟨hsegment, ?_⟩
        rw [resolveChannelRef_of_segments habsolute hread] at hunique
        split at hunique
        · cases hunique
          exact Or.inl rfl
        -- The search answers with a listed channel, and that has to be this one.
        · obtain ⟨path, hlisted⟩ := exists_listed_of_unique hforest hnames hroot hunique
          obtain ⟨rfl, hown⟩ :=
            ownSegments_of_listed hforest hnames hroot hpath hsegment hlisted
          rw [hread, Option.some.injEq] at hown
          subst hown
          exact Or.inr ⟨_, hlisted,
            (suffixSearch_eq_unique_iff hforest hnames hroot hlisted).mp hunique⟩
  · rintro ⟨hsegment, hself | ⟨path, hlisted, honly⟩⟩
    -- The root is read back without a search.
    · subst hself
      obtain ⟨_, rfl⟩ := hpath.unique hroot
      have hread : canonicalSegments channelH (formatChannelRef channelH []) = some [] :=
        canonicalSegments_formatChannelRef (List.forall_mem_singleton.mpr hsegment)
      rw [resolveChannelRef_of_segments habsolute hread, if_pos rfl]
    · obtain ⟨rfl, hread⟩ := ownSegments_of_listed hforest hnames hroot hpath hsegment hlisted
      have hproper : names ≠ [] := by
        rintro rfl
        exact path_ne_nil_of_listed hlisted rfl
      rw [resolveChannelRef_of_segments habsolute hread, if_neg hproper]
      exact (suffixSearch_eq_unique_iff hforest hnames hroot hlisted).mpr honly

/-- What `str::to_lowercase` does to ASCII text. -/
def asciiLowercase (text : String) : String :=
  String.ofList (text.toList.map Char.toLower)

/-- Two channels named `planning`, one at the top and one below `epic999`. -/
def twoPlans : Database :=
  { Database.empty with
    channels := ⟨[⟨"h-root", "proj", "", "", 1, 1⟩, ⟨"h-plan", "planning", "", "h-root", 1, 1⟩,
      ⟨"h-epic", "epic999", "", "h-root", 1, 1⟩,
      ⟨"h-epic-plan", "planning", "", "h-epic", 1, 1⟩], by decide⟩ }

theorem validNames_twoPlans : twoPlans.ValidNames := by
  unfold ValidNames
  decide +kernel

theorem rooted_twoPlans : Rooted twoPlans.parentLinks "h-plan" "h-root" 1 ∧
    Rooted twoPlans.parentLinks "h-epic-plan" "h-root" 2 := by
  have hroot : Rooted twoPlans.parentLinks "h-root" "h-root" 0 := .root (by decide)
  have hepic : Rooted twoPlans.parentLinks "h-epic" "h-root" 1 := .child (by decide) hroot
  exact ⟨.child (by decide) hroot, .child (by decide) hepic⟩

theorem deeper_plan_reads_back : twoPlans.ReadsBack asciiLowercase "h-root" "h-epic-plan" :=
  (resolveChannelRef_fullChannelRef_iff asciiLowercase (by decide) validNames_twoPlans
    rooted_twoPlans.2 (by decide)).mp (by decide +kernel)

/-- The reference printed for the upper plan is ambiguous, and the candidates that the resolver
offers contain the reference itself. -/
theorem printed_reference_ambiguous :
    ¬ (∀ (db : Database) (root channelH : String) (depth : Nat), db.getChannel "" = none →
        db.ValidNames → db.SiblingsDistinct → Rooted db.parentLinks channelH root depth →
        depth < maxChannelRefDepth →
        db.resolveChannelRef asciiLowercase root (db.fullChannelRef channelH) =
          .unique channelH) ∧
      twoPlans.fullChannelRef "h-plan" = "/h-root/planning" ∧
      twoPlans.resolveChannelRef asciiLowercase "h-root" (twoPlans.fullChannelRef "h-plan") =
        .ambiguous ["/h-root/epic999/planning", "/h-root/planning"] := by
  have hdistinct : twoPlans.SiblingsDistinct := by
    unfold SiblingsDistinct
    decide +kernel
  have hambiguous : twoPlans.resolveChannelRef asciiLowercase "h-root"
      (twoPlans.fullChannelRef "h-plan") =
        .ambiguous ["/h-root/epic999/planning", "/h-root/planning"] := by
    decide +kernel
  refine ⟨?_, by decide +kernel, hambiguous⟩
  intro hall
  have hunique := hall twoPlans "h-root" "h-plan" 1 (by decide) validNames_twoPlans hdistinct
    rooted_twoPlans.1 (by decide)
  rw [hambiguous] at hunique
  cases hunique

end Database

end Mosaico
