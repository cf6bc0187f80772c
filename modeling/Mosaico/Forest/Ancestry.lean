import Mathlib.Data.List.Nodup
import Mathlib.Data.List.Perm.Subperm

/-!
# Ancestry in a graph of parent links

A node is unknown, a root, or the child of another node, so a parent function has
the type `α → Option (Option α)`.  From any node exactly one chain of links leads
upwards: it ends in a root (`Rooted`), ends in an unknown node (`Dangling`), or
does not end.

`climb` follows the chain for a bounded number of steps and watches for repeated
nodes.  The main results say what its outcome is, in terms of the chain alone.
-/

namespace Forest

universe u

variable {α : Type u} {parent : α → Option (Option α)}

/-! ## Chains -/

/-- The chain from the node ends in `root` after `depth` links. -/
inductive Rooted (parent : α → Option (Option α)) : α → α → Nat → Prop
  | root {node : α} (hroot : parent node = some none) : Rooted parent node node 0
  | child {node up root : α} {depth : Nat} (hlink : parent node = some (some up))
      (hup : Rooted parent up root depth) : Rooted parent node root (depth + 1)

/-- The chain from the node ends in an unknown node after `depth` links. -/
inductive Dangling (parent : α → Option (Option α)) : α → Nat → Prop
  | unknown {node : α} (hunknown : parent node = none) : Dangling parent node 0
  | child {node up : α} {depth : Nat} (hlink : parent node = some (some up))
      (hup : Dangling parent up depth) : Dangling parent node (depth + 1)

variable {node root : α} {depth fuel : Nat} {seen : List α}

/-- The root and its distance are determined by the node. -/
theorem Rooted.unique {other : α} {otherDepth : Nat}
    (hroot : Rooted parent node root depth) (hother : Rooted parent node other otherDepth) :
    root = other ∧ depth = otherDepth := by
  induction hroot generalizing other otherDepth with
  | root hnode =>
      cases hother with
      | root _ => exact ⟨rfl, rfl⟩
      | child hlink _ =>
          rw [hnode] at hlink
          cases hlink
  | child hlink _ ih =>
      cases hother with
      | root hnode =>
          rw [hlink] at hnode
          cases hnode
      | child hlink' hup' =>
          rw [hlink] at hlink'
          cases hlink'
          obtain ⟨hsame, hdepth⟩ := ih hup'
          exact ⟨hsame, congrArg (· + 1) hdepth⟩

theorem Dangling.unique {otherDepth : Nat}
    (hdangling : Dangling parent node depth) (hother : Dangling parent node otherDepth) :
    depth = otherDepth := by
  induction hdangling generalizing otherDepth with
  | unknown hnode =>
      cases hother with
      | unknown _ => rfl
      | child hlink _ =>
          rw [hnode] at hlink
          cases hlink
  | child hlink _ ih =>
      cases hother with
      | unknown hnode =>
          rw [hlink] at hnode
          cases hnode
      | child hlink' hup' =>
          rw [hlink] at hlink'
          cases hlink'
          exact congrArg (· + 1) (ih hup')

/-- A chain that ends in a root meets no unknown node. -/
theorem Rooted.not_dangling {otherDepth : Nat}
    (hroot : Rooted parent node root depth) : ¬ Dangling parent node otherDepth := by
  intro hdangling
  induction hroot generalizing otherDepth with
  | root hnode =>
      cases hdangling with
      | unknown hunknown =>
          rw [hnode] at hunknown
          cases hunknown
      | child hlink _ =>
          rw [hnode] at hlink
          cases hlink
  | child hlink _ ih =>
      cases hdangling with
      | unknown hunknown =>
          rw [hlink] at hunknown
          cases hunknown
      | child hlink' hup' =>
          rw [hlink] at hlink'
          cases hlink'
          exact ih hup'

/-- A rooted node is known. -/
theorem Rooted.known (hroot : Rooted parent node root depth) :
    parent node ≠ none := by
  cases hroot with
  | root hnode => rw [hnode]; exact Option.some_ne_none _
  | child hlink _ => rw [hlink]; exact Option.some_ne_none _

/-- The end of a chain is a root. -/
theorem Rooted.root_isRoot (hroot : Rooted parent node root depth) :
    parent root = some none := by
  induction hroot with
  | root hnode => exact hnode
  | child _ _ ih => exact ih

/-- A chain is shorter than any list of all known nodes. -/
theorem Rooted.depth_lt (hroot : Rooted parent node root depth)
    (nodes : List α) (hnodes : ∀ node, parent node ≠ none → node ∈ nodes) :
    depth < nodes.length := by
  -- the nodes of the chain differ because their distances to the root do
  have hchain : ∃ chain : List α, chain.length = depth + 1 ∧ chain.Nodup ∧
      ∀ passed ∈ chain, ∃ above ≤ depth, Rooted parent passed root above := by
    induction hroot with
    | root hnode =>
        rename_i node
        refine ⟨[node], rfl, List.nodup_singleton node, ?_⟩
        intro passed hpassed
        rw [List.mem_singleton] at hpassed
        subst hpassed
        exact ⟨0, Nat.le_refl 0, .root hnode⟩
    | child hlink hup ih =>
        rename_i node up root depth
        obtain ⟨chain, hlength, hnodup, hbelow⟩ := ih
        refine ⟨node :: chain, by rw [List.length_cons, hlength],
          List.nodup_cons.mpr ⟨?_, hnodup⟩, ?_⟩
        · intro hmem
          obtain ⟨above, hle, habove⟩ := hbelow node hmem
          have hsame := (habove.unique (.child hlink hup)).2
          omega
        · intro passed hpassed
          rcases List.mem_cons.mp hpassed with rfl | hmem
          · exact ⟨depth + 1, Nat.le_refl _, .child hlink hup⟩
          · obtain ⟨above, hle, habove⟩ := hbelow passed hmem
            exact ⟨above, Nat.le_succ_of_le hle, habove⟩
  obtain ⟨chain, hlength, hnodup, hmem⟩ := hchain
  have hsubset : chain ⊆ nodes := by
    intro passed hpassed
    obtain ⟨_, _, habove⟩ := hmem passed hpassed
    exact hnodes passed habove.known
  have hle := (List.subperm_of_subset hnodup hsubset).length_le
  omega

/-! ## The bounded walk -/

/-- How a bounded walk ends. -/
inductive Climb (α : Type u) where
  | root (root : α)
  | unknown
  | cycle (node : α)
  | deep
  deriving DecidableEq

/-- Follow at most `fuel` links from `node`, having passed the nodes `seen`. -/
def climb [DecidableEq α] (parent : α → Option (Option α)) : Nat → List α → α → Climb α
  | 0, _, _ => .deep
  | fuel + 1, seen, node =>
      if node ∈ seen then .cycle node
      else match parent node with
        | none => .unknown
        | some none => .root node
        | some (some up) =>
            if parent up = none then .unknown else climb parent fuel (node :: seen) up

variable [DecidableEq α]

theorem rooted_of_climb (hclimb : climb parent fuel seen node = .root root) :
    ∃ depth, depth < fuel ∧ Rooted parent node root depth := by
  induction fuel generalizing seen node with
  | zero => cases hclimb
  | succ fuel ih =>
      rw [climb] at hclimb
      split at hclimb
      · cases hclimb
      · split at hclimb
        · cases hclimb
        · rename_i hnode
          cases hclimb
          exact ⟨0, Nat.zero_lt_succ fuel, .root hnode⟩
        · rename_i up hlink
          split at hclimb
          · cases hclimb
          · obtain ⟨depth, hdepth, hup⟩ := ih hclimb
            exact ⟨depth + 1, Nat.succ_lt_succ hdepth, .child hlink hup⟩

/-- The nodes passed so far lie deeper than the rest of the chain, so the walk
meets none of them again. -/
theorem climb_of_rooted (hroot : Rooted parent node root depth) (hdepth : depth < fuel)
    (hseen : ∀ passed ∈ seen, ∀ top above, Rooted parent passed top above → depth < above) :
    climb parent fuel seen node = .root root := by
  induction hroot generalizing fuel seen with
  | root hnode =>
      obtain ⟨fuel, rfl⟩ : ∃ rest, fuel = rest + 1 := ⟨fuel - 1, by omega⟩
      rename_i node
      have hfresh : node ∉ seen := by
        intro hmem
        exact Nat.lt_irrefl 0 (hseen node hmem node 0 (.root hnode))
      rw [climb, if_neg hfresh, hnode]
  | child hlink hup ih =>
      obtain ⟨fuel, rfl⟩ : ∃ rest, fuel = rest + 1 := ⟨fuel - 1, by omega⟩
      rename_i node up root depth
      have hwhole : Rooted parent node root (depth + 1) := .child hlink hup
      have hfresh : node ∉ seen := by
        intro hmem
        exact Nat.lt_irrefl _ (hseen node hmem root (depth + 1) hwhole)
      rw [climb, if_neg hfresh, hlink]
      dsimp only
      rw [if_neg hup.known]
      apply ih (by omega)
      intro passed hpassed top above habove
      rcases List.mem_cons.mp hpassed with rfl | hearlier
      · have := (hwhole.unique habove).2
        omega
      · have := hseen passed hearlier top above habove
        omega

theorem dangling_of_climb (hclimb : climb parent fuel seen node = .unknown) :
    ∃ depth, depth ≤ fuel ∧ Dangling parent node depth := by
  induction fuel generalizing seen node with
  | zero => cases hclimb
  | succ fuel ih =>
      rw [climb] at hclimb
      split at hclimb
      · cases hclimb
      · split at hclimb
        · rename_i hnode
          exact ⟨0, Nat.zero_le _, .unknown hnode⟩
        · cases hclimb
        · rename_i up hlink
          split at hclimb
          · rename_i hup
            exact ⟨1, by omega, .child hlink (.unknown hup)⟩
          · obtain ⟨depth, hdepth, hup⟩ := ih hclimb
            exact ⟨depth + 1, Nat.succ_le_succ hdepth, .child hlink hup⟩

theorem climb_of_dangling
    (hdangling : Dangling parent node depth) (hfuel : 0 < fuel) (hdepth : depth ≤ fuel)
    (hseen : ∀ passed ∈ seen, ∀ above, Dangling parent passed above → depth < above) :
    climb parent fuel seen node = .unknown := by
  induction hdangling generalizing fuel seen with
  | unknown hnode =>
      obtain ⟨fuel, rfl⟩ : ∃ rest, fuel = rest + 1 := ⟨fuel - 1, by omega⟩
      rename_i node
      have hfresh : node ∉ seen := by
        intro hmem
        exact Nat.lt_irrefl 0 (hseen node hmem 0 (.unknown hnode))
      rw [climb, if_neg hfresh, hnode]
  | child hlink hup ih =>
      obtain ⟨fuel, rfl⟩ : ∃ rest, fuel = rest + 1 := ⟨fuel - 1, by omega⟩
      rename_i node up depth
      have hwhole : Dangling parent node (depth + 1) := .child hlink hup
      have hfresh : node ∉ seen := by
        intro hmem
        exact Nat.lt_irrefl _ (hseen node hmem (depth + 1) hwhole)
      rw [climb, if_neg hfresh, hlink]
      dsimp only
      by_cases hunknown : parent up = none
      · rw [if_pos hunknown]
      · rw [if_neg hunknown]
        have hpositive : 0 < depth := by
          cases hup with
          | unknown hnone => exact absurd hnone hunknown
          | child _ _ => exact Nat.succ_pos _
        apply ih (by omega) (by omega)
        intro passed hpassed above habove
        rcases List.mem_cons.mp hpassed with rfl | hearlier
        · have := hwhole.unique habove
          omega
        · have := hseen passed hearlier above habove
          omega

/-- The walk finds exactly the roots less than `fuel` links away. -/
theorem climb_eq_root_iff :
    climb parent fuel [] node = .root root ↔
      ∃ depth, depth < fuel ∧ Rooted parent node root depth := by
  constructor
  · exact rooted_of_climb
  · rintro ⟨depth, hdepth, hroot⟩
    exact climb_of_rooted hroot hdepth (fun _ hmem => absurd hmem List.not_mem_nil)

/-- The walk notices exactly the unknown ancestors at most `fuel` links away. -/
theorem climb_eq_unknown_iff (hfuel : 0 < fuel) :
    climb parent fuel [] node = .unknown ↔
      ∃ depth, depth ≤ fuel ∧ Dangling parent node depth := by
  constructor
  · exact dangling_of_climb
  · rintro ⟨depth, hdepth, hdangling⟩
    exact climb_of_dangling hdangling hfuel hdepth (fun _ hmem => absurd hmem List.not_mem_nil)

end Forest
