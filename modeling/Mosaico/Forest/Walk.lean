import Mathlib.Data.List.Basic
import Mathlib.Logic.Relation

/-!
# Walking a tree with a stack

A walk keeps the nodes it has still to visit on a stack.  It writes the children of the node
on top to its output and pushes them, so that the last child is visited next, and it has a
budget of visits.  Over a tree of bounded height the visited nodes are the first ones of the
depth-first order, which is defined without a stack.
-/

namespace Forest

universe u

variable {β : Type u} (children : β → List β)

/-- The output of a walk.  The top of the stack comes first. -/
def stackWalk : Nat → List β → List β → List β
  | 0, _, out => out
  | _ + 1, [], out => out
  | budget + 1, node :: rest, out =>
      stackWalk budget ((children node).reverse ++ rest) (out ++ children node)

/-- No chain of children below the node is longer than the height. -/
def Within : Nat → β → Prop
  | 0, node => children node = []
  | height + 1, node => ∀ child ∈ children node, Within height child

/-- The tree below a node in depth-first order, the last child first. -/
def depthFirst : Nat → β → List β
  | 0, node => [node]
  | height + 1, node => node :: (children node).reverse.flatMap (depthFirst height)

variable {children}

theorem within_succ {height : Nat} {node : β} (hnode : Within children height node) :
    Within children (height + 1) node := by
  induction height generalizing node with
  | zero =>
      intro child hchild
      have hleaf : children node = [] := hnode
      rw [hleaf] at hchild
      cases hchild
  | succ height ih =>
      intro child hchild
      exact ih (hnode child hchild)

/-- A measure that children make smaller bounds the height. -/
theorem within_of_measure {P : β → Prop} (measure : β → Nat)
    (hstep : ∀ node, P node → ∀ child ∈ children node, P child ∧ measure child < measure node)
    {node : β} (hnode : P node) {height : Nat} (hheight : measure node ≤ height) :
    Within children height node := by
  induction height generalizing node with
  | zero =>
      refine List.eq_nil_iff_forall_not_mem.mpr ?_
      intro child hchild
      have hless := (hstep node hnode child hchild).2
      omega
  | succ height ih =>
      intro child hchild
      obtain ⟨hbelow, hless⟩ := hstep node hnode child hchild
      exact ih hbelow (by omega)

/-- A height that bounds the tree may be kept one level below. -/
theorem depthFirst_eq {height : Nat} {node : β} (hnode : Within children height node) :
    depthFirst children height node =
      node :: (children node).reverse.flatMap (depthFirst children height) := by
  induction height generalizing node with
  | zero =>
      have hleaf : children node = [] := hnode
      rw [hleaf]
      rfl
  | succ height ih =>
      have hbelow : ∀ child ∈ (children node).reverse,
          depthFirst children height child = depthFirst children (height + 1) child := by
        intro child hchild
        exact ih (hnode child (List.mem_reverse.mp hchild))
      rw [depthFirst, List.flatMap_congr hbelow]

/-- The visited nodes are the first ones of the depth-first order of the stack. -/
theorem stackWalk_eq {height budget : Nat} {stack out : List β}
    (hstack : ∀ node ∈ stack, Within children height node) :
    stackWalk children budget stack out =
      out ++ ((stack.flatMap (depthFirst children height)).take budget).flatMap children := by
  induction budget generalizing stack out with
  | zero => simp [stackWalk]
  | succ budget ih =>
      cases stack with
      | nil => simp [stackWalk]
      | cons node rest =>
          have hnode := hstack node List.mem_cons_self
          have hnext : ∀ other ∈ (children node).reverse ++ rest,
              Within children height other := by
            intro other hother
            rcases List.mem_append.mp hother with hchild | hrest
            · cases height with
              | zero =>
                  have hleaf : children node = [] := hnode
                  rw [hleaf] at hchild
                  cases hchild
              | succ height => exact within_succ (hnode other (List.mem_reverse.mp hchild))
            · exact hstack other (List.mem_cons_of_mem node hrest)
          -- the popped node heads the order, and its subtree comes before the rest of the stack
          rw [stackWalk, ih hnext, List.flatMap_cons, depthFirst_eq hnode, List.cons_append,
            List.take_succ_cons, List.flatMap_cons, List.append_assoc, List.flatMap_append]

/-- The depth-first order lists the node and everything below it. -/
theorem mem_depthFirst {height : Nat} {node other : β} (hnode : Within children height node) :
    other ∈ depthFirst children height node ↔
      Relation.ReflTransGen (fun up down => down ∈ children up) node other := by
  induction height generalizing node with
  | zero =>
      have hleaf : children node = [] := hnode
      rw [depthFirst, List.mem_singleton, Relation.ReflTransGen.cases_head_iff, hleaf]
      simp [eq_comm]
  | succ height ih =>
      rw [depthFirst, List.mem_cons, Relation.ReflTransGen.cases_head_iff]
      refine or_congr eq_comm ?_
      simp only [List.mem_flatMap, List.mem_reverse]
      refine exists_congr fun child => and_congr_right fun hchild => ?_
      exact ih (hnode child hchild)

end Forest
