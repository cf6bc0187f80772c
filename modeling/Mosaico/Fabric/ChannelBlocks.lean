import Mathlib.Data.List.Perm.Basic
import Mathlib.Data.List.Sort
import Mosaico.Fabric.ChannelRef
import Mosaico.Fabric.Messages
import Mosaico.Rust.Text

/-!
# Channel blocks and their arrangement

The view of a workspace is a tree of channel blocks.  The blocks are built one by one and
arranged afterwards: every block is attached to the block whose reference is its own reference
up to the last slash, the deepest first.  The main result says where each block of an
arrangement stands; in particular none is lost or doubled, and the two lookups that the code
expects to succeed do.

The rows of members and of presence are rendered elsewhere and stay opaque.
-/

namespace Mosaico

open Relational

/-! ## Blocks -/

/-- What a block shows of its channel. -/
structure BlockRows (μ π : Type) where
  memberCount : Option Nat
  lastActive : Option String
  members : List μ
  presence : List π
  messages : List MessageRow
  omitted : Nat

structure ChannelBlock (μ π : Type) where
  name : String
  id : String
  about : String
  rows : BlockRows μ π
  children : List (ChannelBlock μ π)

variable {μ π : Type}

/-- Rows that were given again replace the earlier ones. -/
def BlockRows.merge (existing incoming : BlockRows μ π) : BlockRows μ π where
  memberCount := incoming.memberCount <|> existing.memberCount
  lastActive := incoming.lastActive <|> existing.lastActive
  members := if incoming.members.isEmpty then existing.members else incoming.members
  presence := if incoming.presence.isEmpty then existing.presence else incoming.presence
  messages := if incoming.messages.isEmpty then existing.messages else incoming.messages
  omitted := max existing.omitted incoming.omitted

def ChannelBlock.merge (existing incoming : ChannelBlock μ π) : ChannelBlock μ π where
  name := if incoming.name = "" then existing.name else incoming.name
  id := existing.id
  about := if incoming.about = "" then existing.about else incoming.about
  rows := existing.rows.merge incoming.rows
  children := existing.children

def ChannelBlock.push (block child : ChannelBlock μ π) : ChannelBlock μ π :=
  { block with children := block.children ++ [child] }

theorem ChannelBlock.id_merge (incoming existing : ChannelBlock μ π) :
    (existing.merge incoming).id = existing.id := rfl

theorem ChannelBlock.id_push (child block : ChannelBlock μ π) :
    (block.push child).id = block.id := rfl

/-- The blocks that are not attached yet, under their references. -/
abbrev BlockNodes (μ π : Type) := Table (ChannelBlock.id (μ := μ) (π := π))

namespace ChannelTree

mutual

/-- File a block without its children, then the children. -/
def collect (nodes : BlockNodes μ π) : ChannelBlock μ π → BlockNodes μ π
  | ⟨name, id, about, rows, children⟩ =>
      let channel : ChannelBlock μ π := ⟨name, id, about, rows, []⟩
      collectEach (nodes.upsert channel (fun existing => existing.merge channel)
        (ChannelBlock.id_merge channel)) children

def collectEach (nodes : BlockNodes μ π) : List (ChannelBlock μ π) → BlockNodes μ π
  | [] => nodes
  | block :: rest => collectEach (collect nodes block) rest

end

mutual

def sortChildren : ChannelBlock μ π → ChannelBlock μ π
  | ⟨name, id, about, rows, children⟩ =>
      ⟨name, id, about, rows,
        (sortEach children).insertionSort (fun left right => left.id ≤ right.id)⟩

def sortEach : List (ChannelBlock μ π) → List (ChannelBlock μ π)
  | [] => []
  | block :: rest => sortChildren block :: sortEach rest

end

/-- The number of slashes. -/
def depth (reference : String) : Nat :=
  reference.toList.count '/'

/-- Attach one block to its parent, if it has one.  `none` is a failed `expect`. -/
def attachNode (rootReference : String) (nodes : BlockNodes μ π) (reference : String) :
    Option (BlockNodes μ π) :=
  if reference = rootReference then some nodes
  else match rsplitOnce reference with
    | none => some nodes
    | some (parent, _) =>
        if (nodes.find? parent).isNone then some nodes
        else do
          let child ← nodes.find? reference
          let removed := nodes.deleteWhere (fun block => block.id = reference)
          let _ ← removed.find? parent
          return removed.updateWhere (fun block => block.id = parent)
            (fun block => block.push child) (ChannelBlock.id_push child)

/-- Attach every block beneath the parent named by its reference: the root block and the blocks
whose parent is not there. -/
def arrange (workspace : String) (channels : List (ChannelBlock μ π)) :
    Option (Option (ChannelBlock μ π) × List (ChannelBlock μ π)) := do
  let nodes := collectEach Table.empty channels
  let references := ((nodes.rows.map ChannelBlock.id).insertionSort (· ≤ ·)).insertionSort
    (fun left right => depth right ≤ depth left)
  let rootReference := formatChannelRef workspace []
  let attached ← references.foldlM (attachNode rootReference) nodes
  let top := (attached.deleteWhere (fun block => block.id = rootReference)).rows
  return ((attached.find? rootReference).map sortChildren,
    (top.insertionSort (fun left right => left.id ≤ right.id)).map sortChildren)

/-! ## Where the blocks of a tree stand -/

/-- The place of a block: the root of its workspace, a top-level row, or directly below the block
with a reference. -/
inductive Place where
  | root
  | top
  | below (reference : String)
  deriving DecidableEq, Repr

mutual

/-- The references of a block and of all blocks below it, with their places. -/
def places (place : Place) : ChannelBlock μ π → List (Place × String)
  | ⟨_, id, _, _, children⟩ => (place, id) :: placesEach (.below id) children

def placesEach (place : Place) : List (ChannelBlock μ π) → List (Place × String)
  | [] => []
  | block :: rest => places place block ++ placesEach place rest

end

theorem placesEach_eq (place : Place) (blocks : List (ChannelBlock μ π)) :
    placesEach place blocks = blocks.flatMap (places place) := by
  induction blocks with
  | nil => rfl
  | cons block rest ih => rw [placesEach, ih, List.flatMap_cons]

theorem places_eq (place : Place) (block : ChannelBlock μ π) :
    places place block = (place, block.id) :: block.children.flatMap (places (.below block.id)) := by
  obtain ⟨name, id, about, rows, children⟩ := block
  rw [places, placesEach_eq]

theorem places_push (place : Place) (block child : ChannelBlock μ π) :
    places place (block.push child) = places place block ++ places (.below block.id) child := by
  rw [places_eq, places_eq]
  show (place, block.id) :: (block.children ++ [child]).flatMap (places (.below block.id)) = _
  rw [List.flatMap_append, List.flatMap_singleton, List.cons_append]

mutual

/-- Sorting the children moves no block to another place. -/
theorem places_sortChildren (place : Place) :
    ∀ block : ChannelBlock μ π, (places place (sortChildren block)).Perm (places place block)
  | ⟨_, id, _, _, children⟩ => by
      rw [sortChildren, places, places, placesEach_eq]
      refine List.Perm.cons _ ?_
      refine ((List.perm_insertionSort _ _).flatMap_right _).trans ?_
      rw [← placesEach_eq]
      exact placesEach_sortEach (.below id) children

theorem placesEach_sortEach (place : Place) :
    ∀ blocks : List (ChannelBlock μ π),
      (placesEach place (sortEach blocks)).Perm (placesEach place blocks)
  | [] => List.Perm.refl _
  | block :: rest => by
      rw [sortEach, placesEach, placesEach]
      exact (places_sortChildren place block).append (placesEach_sortEach place rest)

end

/-- The place that a reference names among the references `ids`. -/
def placeOf (rootReference : String) (ids : List String) (id : String) : Place :=
  if id = rootReference then .root
  else match rsplitOnce id with
    | none => .top
    | some (parent, _) => if parent ∈ ids then .below parent else .top

/-- The place of a block that has not been attached. -/
def standing (rootReference id : String) : Place :=
  if id = rootReference then .root else .top

/-! ## Attaching -/

theorem depth_of_rsplitOnce {reference parent last : String}
    (hsplit : rsplitOnce reference = some (parent, last)) : depth parent < depth reference := by
  obtain ⟨rfl, _⟩ := rsplitOnce_eq_some_iff.mp hsplit
  simp only [depth, String.toList_append, List.count_append]
  have hslash : ("/" : String).toList.count '/' = 1 := by decide
  omega

section Attach

variable (rootReference : String) (ids : List String)

/-- After the blocks `done` have been handled, each of them is at its place and the others stand
where they were. -/
structure Attached (done : List String) (nodes : BlockNodes μ π) : Prop where
  known : ∀ id, (nodes.find? id).isSome = true ↔
    id ∈ ids ∧ (id ∈ done → ∀ parent, placeOf rootReference ids id ≠ .below parent)
  placed : (nodes.rows.flatMap (fun block => places (standing rootReference block.id) block)).Perm
    (ids.map fun id =>
      (if id ∈ done then placeOf rootReference ids id else standing rootReference id, id))

variable {rootReference ids} {nodes : BlockNodes μ π}

theorem standing_ne_below (id parent : String) : standing rootReference id ≠ .below parent := by
  rw [standing]
  split
  · exact Place.noConfusion
  · exact Place.noConfusion

/-- A block that stays where it stands. -/
theorem Attached.stay {done : List String} {reference : String}
    (hattached : Attached rootReference ids done nodes)
    (hplace : placeOf rootReference ids reference = standing rootReference reference) :
    Attached rootReference ids (reference :: done) nodes := by
  constructor
  · intro id
    rw [hattached.known]
    refine and_congr_right fun _ => ?_
    rw [List.mem_cons]
    constructor
    · rintro hdone (rfl | hmem) parent
      · rw [hplace]
        exact standing_ne_below id parent
      · exact hdone hmem parent
    · intro hdone hmem
      exact hdone (Or.inr hmem)
  · refine hattached.placed.trans (List.Perm.of_eq (List.map_congr_left ?_))
    intro id _
    by_cases hsame : id = reference
    · subst hsame
      rw [if_pos List.mem_cons_self, hplace, ite_self]
    · simp [hsame]

/-- Attaching takes away the id of the child and no other. -/
theorem isSome_find?_attach (child up : ChannelBlock μ π) (id : String) :
    (((nodes.deleteWhere (fun block => block.id = child.id)).updateWhere
      (fun block => block.id = up.id) (fun block => block.push child)
        (ChannelBlock.id_push child)).find? id).isSome = true ↔
      (nodes.find? id).isSome = true ∧ id ≠ child.id := by
  rw [Table.find?_updateWhere, Option.isSome_map, Table.find?_deleteWhere]
  cases hblock : nodes.find? id with
  | none => simp
  | some block =>
      have hid : block.id = id := Table.key_of_find? hblock
      by_cases hsame : id = child.id
      · simp [hid, hsame]
      · simp [hid, hsame]

/-- Attaching takes away the row of the child and extends the row of its parent. -/
theorem rows_attach {child up : ChannelBlock μ π} (hchild : nodes.find? child.id = some child)
    (hup : (nodes.deleteWhere (fun block => block.id = child.id)).find? up.id = some up) :
    ∃ rest : List (ChannelBlock μ π), nodes.rows.Perm (child :: up :: rest) ∧
      ((nodes.deleteWhere (fun block => block.id = child.id)).updateWhere
        (fun block => block.id = up.id) (fun block => block.push child)
          (ChannelBlock.id_push child)).rows.Perm (up.push child :: rest) := by
  have hperm := Table.rows_perm_deleteWhere hup
  refine ⟨_, (Table.rows_perm_deleteWhere hchild).trans (List.Perm.cons child hperm),
    (hperm.map _).trans (List.Perm.of_eq ?_)⟩
  rw [List.map_cons, if_pos rfl]
  refine congrArg _ ((List.map_congr_left fun block hblock => ?_).trans (List.map_id _))
  have hother := (List.mem_filter.mp hblock).2
  exact if_neg (of_decide_eq_true hother)

/-- The places after one block has been attached to another. -/
theorem placed_attach {done : List String} {child up : ChannelBlock μ π} {next : BlockNodes μ π}
    {rest : List (ChannelBlock μ π)} (hids : ids.Nodup)
    (hattached : Attached rootReference ids done nodes) (hmem : child.id ∈ ids)
    (hfresh : child.id ∉ done) (hplace : placeOf rootReference ids child.id = .below up.id)
    (hrows : nodes.rows.Perm (child :: up :: rest)) (hnext : next.rows.Perm (up.push child :: rest)) :
    (next.rows.flatMap (fun block => places (standing rootReference block.id) block)).Perm
      (ids.map fun id => (if id ∈ child.id :: done then placeOf rootReference ids id
        else standing rootReference id, id)) := by
  have hidsPerm : ids.Perm (child.id :: ids.erase child.id) := List.perm_cons_erase hmem
  have hbelow : child.id ∉ ids.erase child.id := hids.not_mem_erase
  -- both sides agree on everything but the block itself
  have hbefore := (hrows.flatMap_right _).symm.trans (hattached.placed.trans (hidsPerm.map _))
  refine (hnext.flatMap_right _).trans (List.Perm.trans ?_ (hidsPerm.map _).symm)
  rw [List.flatMap_cons, List.flatMap_cons, places_eq, List.map_cons, if_neg hfresh,
    List.cons_append] at hbefore
  have hstay : (ids.erase child.id).map (fun id =>
        (if id ∈ child.id :: done then placeOf rootReference ids id
          else standing rootReference id, id)) =
      (ids.erase child.id).map (fun id =>
        (if id ∈ done then placeOf rootReference ids id else standing rootReference id, id)) := by
    refine List.map_congr_left fun id hid => ?_
    have hne : id ≠ child.id := by
      rintro rfl
      exact hbelow hid
    simp [hne]
  rw [List.flatMap_cons, List.map_cons, if_pos List.mem_cons_self, hplace, hstay, places_push,
    places_eq (.below up.id), List.append_assoc, List.cons_append]
  refine List.perm_middle.trans (List.Perm.cons _ ?_)
  refine List.Perm.trans ?_ hbefore.cons_inv
  exact List.perm_append_comm_assoc _ _ _

theorem Attached.step {done : List String} {reference : String} (hids : ids.Nodup)
    (hattached : Attached rootReference ids done nodes) (hmem : reference ∈ ids)
    (hfresh : reference ∉ done)
    (hparent : ∀ parent last, rsplitOnce reference = some (parent, last) → parent ∉ done) :
    ∃ next, attachNode rootReference nodes reference = some next ∧
      Attached rootReference ids (reference :: done) next := by
  by_cases hroot : reference = rootReference
  · refine ⟨nodes, by rw [attachNode, if_pos hroot], hattached.stay ?_⟩
    rw [placeOf, standing, if_pos hroot, if_pos hroot]
  · cases hsplit : rsplitOnce reference with
    | none =>
        refine ⟨nodes, by rw [attachNode, if_neg hroot, hsplit], hattached.stay ?_⟩
        rw [placeOf, standing, if_neg hroot, if_neg hroot, hsplit]
    | some cut =>
        obtain ⟨parent, last⟩ := cut
        have hopen := hparent parent last hsplit
        have hknown : (nodes.find? parent).isSome = true ↔ parent ∈ ids := by
          rw [hattached.known]
          exact and_iff_left fun hdone => absurd hdone hopen
        cases hup : nodes.find? parent with
        | none =>
            -- a path whose parent is no block stays at the top
            refine ⟨nodes, by simp [attachNode, hroot, hsplit, hup], hattached.stay ?_⟩
            have hmissing : parent ∉ ids := by
              intro hin
              rw [hup] at hknown
              cases hknown.mpr hin
            rw [placeOf, standing, if_neg hroot, if_neg hroot, hsplit]
            exact if_neg hmissing
        | some up =>
            have hin : parent ∈ ids := hknown.mp (by rw [hup]; rfl)
            have hplace : placeOf rootReference ids reference = .below parent := by
              rw [placeOf, if_neg hroot, hsplit]
              exact if_pos hin
            obtain ⟨child, hchild⟩ := Option.isSome_iff_exists.mp
              ((hattached.known reference).mpr ⟨hmem, fun hdone => absurd hdone hfresh⟩)
            -- a parent is less deep, so it is another block
            have hne : parent ≠ reference := by
              rintro rfl
              exact Nat.lt_irrefl _ (depth_of_rsplitOnce hsplit)
            have hupId : up.id = parent := Table.key_of_find? hup
            have hchildId : child.id = reference := Table.key_of_find? hchild
            subst hupId hchildId
            have hremoved : (nodes.deleteWhere (fun block => block.id = child.id)).find? up.id =
                some up := by
              rw [Table.find?_deleteWhere, hup, Option.filter_some_pos (by simpa using hne)]
            obtain ⟨rest, hrows, hnext⟩ := rows_attach hchild hremoved
            refine ⟨(nodes.deleteWhere (fun block => block.id = child.id)).updateWhere
              (fun block => block.id = up.id) (fun block => block.push child) (ChannelBlock.id_push child),
              by simp [attachNode, hroot, hsplit, hup, hchild, hremoved], ?_, ?_⟩
            · intro id
              rw [isSome_find?_attach, hattached.known, List.mem_cons]
              by_cases hsame : id = child.id
              · subst hsame
                refine iff_of_false (fun hheld => hheld.2 rfl) fun hkeeps => ?_
                exact hkeeps.2 (Or.inl rfl) up.id hplace
              · rw [or_iff_right hsame, and_iff_left hsame]
            · exact placed_attach hids hattached hmem hfresh hplace hrows hnext

theorem attachNode_foldlM {references done : List String} (hids : ids.Nodup)
    (hattached : Attached rootReference ids done nodes) (hsubset : ∀ id ∈ references, id ∈ ids)
    (hnodup : references.Nodup) (hfresh : ∀ id ∈ references, id ∉ done)
    (hdone : ∀ id ∈ references, ∀ earlier ∈ done, depth id ≤ depth earlier)
    (hsorted : references.Pairwise fun earlier later => depth later ≤ depth earlier) :
    ∃ next, references.foldlM (attachNode rootReference) nodes = some next ∧
      Attached rootReference ids (references.reverse ++ done) next := by
  induction references generalizing nodes done with
  | nil => exact ⟨nodes, rfl, hattached⟩
  | cons reference rest ih =>
      obtain ⟨hhead, hrest⟩ := List.pairwise_cons.mp hsorted
      obtain ⟨hnew, hnodup⟩ := List.nodup_cons.mp hnodup
      -- what has been handled is at least as deep, so no parent is among it
      have hparent : ∀ parent last, rsplitOnce reference = some (parent, last) →
          parent ∉ done := by
        intro parent last hsplit hmem
        have hless := depth_of_rsplitOnce hsplit
        have hle := hdone reference List.mem_cons_self parent hmem
        omega
      obtain ⟨next, hnext, hstep⟩ := hattached.step hids (hsubset reference List.mem_cons_self)
        (hfresh reference List.mem_cons_self) hparent
      obtain ⟨last, hlast, hall⟩ := ih hstep
        (fun id hid => hsubset id (List.mem_cons_of_mem reference hid)) hnodup
        (fun id hid => by
          rw [List.mem_cons, not_or]
          refine ⟨?_, hfresh id (List.mem_cons_of_mem reference hid)⟩
          rintro rfl
          exact hnew hid)
        (fun id hid earlier hearlier => by
          rcases List.mem_cons.mp hearlier with rfl | hold
          · exact hhead id hid
          · exact hdone id (List.mem_cons_of_mem reference hid) earlier hold)
        hrest
      refine ⟨last, by rw [List.foldlM_cons, hnext]; exact hlast, ?_⟩
      rw [List.reverse_cons, List.append_assoc, List.singleton_append]
      exact hall

end Attach

/-! ## The arrangement -/

/-- Blocks without children and with different references are filed as they are. -/
theorem collectEach_rows {nodes : BlockNodes μ π} {blocks : List (ChannelBlock μ π)}
    (hleaves : ∀ block ∈ blocks, block.children = [])
    (hnodup : ((nodes.rows ++ blocks).map ChannelBlock.id).Nodup) :
    (collectEach nodes blocks).rows = nodes.rows ++ blocks := by
  induction blocks generalizing nodes with
  | nil => rw [collectEach, List.append_nil]
  | cons block rest ih =>
      have hleaf := hleaves block List.mem_cons_self
      obtain ⟨name, id, about, rows, children⟩ := block
      dsimp only at hleaf
      subst hleaf
      have hfree : nodes.find? id = none := by
        rw [Table.find?_eq_none_iff]
        intro row hrow hid
        rw [List.map_append, List.nodup_append] at hnodup
        exact hnodup.2.2 row.id (List.mem_map_of_mem hrow) id
          (by rw [List.map_cons]; exact List.mem_cons_self) hid
      have hfiled : (collect nodes ⟨name, id, about, rows, []⟩).rows =
          nodes.rows ++ [⟨name, id, about, rows, []⟩] := by
        rw [collect, collectEach]
        exact Table.rows_upsert_of_none hfree
      rw [collectEach, ih (fun other hother => hleaves other (List.mem_cons_of_mem _ hother))]
      · rw [hfiled, List.append_assoc, List.singleton_append]
      · rw [hfiled, List.append_assoc, List.singleton_append]
        exact hnodup

/-- The places of an arrangement. -/
def arrangedPlaces (arranged : Option (ChannelBlock μ π) × List (ChannelBlock μ π)) :
    List (Place × String) :=
  arranged.1.toList.flatMap (places .root) ++ arranged.2.flatMap (places .top)

/-- The rows that have not been attached are the root and the top-level rows. -/
theorem places_rows (rootReference : String) (nodes : BlockNodes μ π) :
    (nodes.rows.flatMap fun block => places (standing rootReference block.id) block).Perm
      ((nodes.find? rootReference).toList.flatMap (places .root) ++
        (nodes.deleteWhere (fun block => block.id = rootReference)).rows.flatMap
          (places .top)) := by
  have htop : ((nodes.deleteWhere (fun block => block.id = rootReference)).rows.flatMap fun block =>
      places (standing rootReference block.id) block) =
      (nodes.deleteWhere (fun block => block.id = rootReference)).rows.flatMap (places .top) := by
    refine List.flatMap_congr fun block hblock => ?_
    have hother := of_decide_eq_true (List.mem_filter.mp hblock).2
    rw [standing, if_neg hother]
  rw [← htop]
  cases hroot : nodes.find? rootReference with
  | none =>
      have hrows : (nodes.deleteWhere (fun block => block.id = rootReference)).rows =
          nodes.rows := by
        refine List.filter_eq_self.mpr fun block hblock => decide_eq_true ?_
        exact Table.find?_eq_none_iff.mp hroot block hblock
      rw [hrows]
      exact List.Perm.refl _
  | some root =>
      refine ((Table.rows_perm_deleteWhere hroot).flatMap_right _).trans (List.Perm.of_eq ?_)
      have hid : root.id = rootReference := Table.key_of_find? hroot
      rw [List.flatMap_cons, standing, if_pos hid, Option.toList_some, List.flatMap_singleton]

theorem collectEach_rows_empty {blocks : List (ChannelBlock μ π)}
    (hleaves : ∀ block ∈ blocks, block.children = [])
    (hnodup : (blocks.map ChannelBlock.id).Nodup) :
    (collectEach Table.empty blocks).rows = blocks := by
  rw [collectEach_rows hleaves (by simpa [Table.empty] using hnodup)]
  rfl

/-- Before the first block is attached every block stands where its row does. -/
theorem attached_collectEach {rootReference : String} {blocks : List (ChannelBlock μ π)}
    (hleaves : ∀ block ∈ blocks, block.children = [])
    (hnodup : (blocks.map ChannelBlock.id).Nodup) :
    Attached rootReference (blocks.map ChannelBlock.id) [] (collectEach Table.empty blocks) := by
  have hrows := collectEach_rows_empty hleaves hnodup
  constructor
  · intro id
    rw [Option.isSome_iff_exists, List.mem_map]
    simp only [Table.find?_eq_some_iff, hrows, List.not_mem_nil, false_implies, and_true]
  · rw [hrows, List.map_map]
    refine List.Perm.of_eq ?_
    rw [← List.flatMap_singleton' (blocks.map _), List.flatMap_map]
    refine List.flatMap_congr fun block hblock => ?_
    rw [places_eq, hleaves block hblock]
    rfl

/-- Sorting moves nothing, and the root is the one row that stands at the root. -/
theorem arrangedPlaces_perm (rootReference : String) (nodes : BlockNodes μ π) :
    (arrangedPlaces ((nodes.find? rootReference).map sortChildren,
      ((nodes.deleteWhere (fun block => block.id = rootReference)).rows.insertionSort
        (fun left right => left.id ≤ right.id)).map sortChildren)).Perm
      (nodes.rows.flatMap fun block => places (standing rootReference block.id) block) := by
  refine List.Perm.trans ?_ (places_rows rootReference nodes).symm
  rw [arrangedPlaces]
  refine List.Perm.append ?_ ?_
  · cases nodes.find? rootReference with
    | none => exact List.Perm.refl _
    | some root =>
        simp only [Option.map_some, Option.toList_some, List.flatMap_singleton]
        exact places_sortChildren .root root
  · rw [List.flatMap_map]
    refine ((List.perm_insertionSort _ _).flatMap_right _).trans ?_
    exact List.Perm.flatMap_left _ fun block _ => places_sortChildren .top block

/-- An arrangement holds every block once, each at the place that its reference names. -/
theorem arrange_places (workspace : String) {blocks : List (ChannelBlock μ π)}
    (hleaves : ∀ block ∈ blocks, block.children = [])
    (hnodup : (blocks.map ChannelBlock.id).Nodup) :
    ∃ arranged, arrange workspace blocks = some arranged ∧
      (arrangedPlaces arranged).Perm ((blocks.map ChannelBlock.id).map fun id =>
        (placeOf (formatChannelRef workspace []) (blocks.map ChannelBlock.id) id, id)) := by
  have hrows := collectEach_rows_empty hleaves hnodup
  generalize hroot : formatChannelRef workspace [] = rootReference
  have hstart : Attached rootReference _ [] (collectEach Table.empty blocks) :=
    attached_collectEach hleaves hnodup
  generalize hids : blocks.map ChannelBlock.id = ids at hnodup hstart ⊢
  let references := (ids.insertionSort (· ≤ ·)).insertionSort
    (fun left right => depth right ≤ depth left)
  have hperm : references.Perm ids :=
    (List.perm_insertionSort _ _).trans (List.perm_insertionSort _ _)
  have hsorted : references.Pairwise fun earlier later => depth later ≤ depth earlier := by
    have : Std.Total fun left right : String => depth right ≤ depth left :=
      ⟨fun left right => Nat.le_total _ _⟩
    have : IsTrans String fun left right => depth right ≤ depth left :=
      ⟨fun _ _ _ hfirst hsecond => Nat.le_trans hsecond hfirst⟩
    exact List.pairwise_insertionSort _ _
  obtain ⟨attached, hattach, hdone⟩ := attachNode_foldlM hnodup hstart
    (fun id hid => hperm.mem_iff.mp hid) (hperm.nodup_iff.mpr hnodup)
    (fun _ _ => List.not_mem_nil) (fun _ _ _ hnone => absurd hnone List.not_mem_nil) hsorted
  have harrange : arrange workspace blocks = some ((attached.find? rootReference).map sortChildren,
      ((attached.deleteWhere (fun block => block.id = rootReference)).rows.insertionSort
        (fun left right => left.id ≤ right.id)).map sortChildren) := by
    rw [arrange, hroot, hrows, hids]
    show (references.foldlM _ _ >>= _) = _
    rw [hattach]
    rfl
  refine ⟨_, harrange, (arrangedPlaces_perm rootReference attached).trans
    (hdone.placed.trans (List.Perm.of_eq ?_))⟩
  refine List.map_congr_left fun id hid => ?_
  have hall : id ∈ references.reverse ++ [] := by
    rw [List.append_nil, List.mem_reverse]
    exact hperm.mem_iff.mpr hid
  rw [if_pos hall]

end ChannelTree

end Mosaico
