import Mathlib.Data.List.Nodup
import Mathlib.Logic.Relation

/-!
# Depth-first listing of a graph

A listing follows the links of a graph from a node, writes every row that it reaches for the
first time with its depth, and goes on below that row before it takes the next one.  The
graph may have cycles and shared children; a set of seen keys cuts them.

The recursion is bounded by fuel.  With more fuel than there are unseen keys the fuel plays
no part, and the listing is the outline of a tree of links that holds every reachable key
once.
-/

namespace Forest

universe u v

variable {α : Type u} {ρ : Type v}

/-- The keys seen so far and the rows written so far. -/
structure Traversal (α : Type u) (ρ : Type v) where
  seen : List α
  out : List (ρ × Nat)

def preorder [DecidableEq α] (kids : α → List ρ) (key : ρ → α) :
    Nat → α → Nat → Traversal α ρ → Traversal α ρ
  | 0, _, _, traversal => traversal
  | fuel + 1, node, depth, traversal =>
      (kids node).foldl (fun current row =>
        if key row ∈ current.seen then current
        else preorder kids key fuel (key row) (depth + 1)
          ⟨key row :: current.seen, current.out ++ [(row, depth)]⟩) traversal

variable {kids : α → List ρ} {key : ρ → α}

/-! ## Outlines -/

/-- `out` is an outline over `rows` at a depth: each row is left out, or written and followed
by an outline of the rows below it. -/
inductive Outlined (kids : α → List ρ) (key : ρ → α) : List ρ → Nat → List (ρ × Nat) → Prop
  | nil {depth : Nat} : Outlined kids key [] depth []
  | skip {row : ρ} {rest : List ρ} {depth : Nat} {out : List (ρ × Nat)}
      (hrest : Outlined kids key rest depth out) : Outlined kids key (row :: rest) depth out
  | visit {row : ρ} {rest : List ρ} {depth : Nat} {below later : List (ρ × Nat)}
      (hbelow : Outlined kids key (kids (key row)) (depth + 1) below)
      (hlater : Outlined kids key rest depth later) :
      Outlined kids key (row :: rest) depth ((row, depth) :: (below ++ later))

def keysOf (key : ρ → α) (out : List (ρ × Nat)) : List α := out.map fun entry => key entry.1

@[simp] theorem keysOf_nil : keysOf key [] = [] := rfl

@[simp] theorem keysOf_cons (entry : ρ × Nat) (out : List (ρ × Nat)) :
    keysOf key (entry :: out) = key entry.1 :: keysOf key out := rfl

@[simp] theorem keysOf_append (first second : List (ρ × Nat)) :
    keysOf key (first ++ second) = keysOf key first ++ keysOf key second :=
  List.map_append

/-- A property that links hand down holds of whatever is written. -/
theorem Outlined.forall_key {P : α → Prop} {rows : List ρ} {depth : Nat}
    {out : List (ρ × Nat)} (houtlined : Outlined kids key rows depth out)
    (hkids : ∀ node, P node → ∀ row ∈ kids node, P (key row))
    (hrows : ∀ row ∈ rows, P (key row)) : ∀ node ∈ keysOf key out, P node := by
  induction houtlined with
  | nil => simp
  | skip hrest ih => exact ih fun row hrow => hrows row (List.mem_cons_of_mem _ hrow)
  | visit hbelow hlater ihBelow ihLater =>
      intro node hnode
      have hfirst := hrows _ List.mem_cons_self
      simp only [keysOf_cons, keysOf_append, List.mem_cons, List.mem_append] at hnode
      rcases hnode with rfl | hnode | hnode
      · exact hfirst
      · exact ihBelow (hkids _ hfirst) node hnode
      · exact ihLater (fun row hrow => hrows row (List.mem_cons_of_mem _ hrow)) node hnode

/-! ## What a traversal writes -/

/-- What is written over `rows` while `seen` is seen already. -/
structure Listing (kids : α → List ρ) (key : ρ → α) (rows : List ρ) (depth : Nat)
    (seen : List α) (out : List (ρ × Nat)) : Prop where
  outlined : Outlined kids key rows depth out
  fresh : ∀ node ∈ keysOf key out, node ∉ seen
  nodup : (keysOf key out).Nodup
  covers : ∀ row ∈ rows, key row ∈ seen ∨ key row ∈ keysOf key out
  closed : ∀ node ∈ keysOf key out, ∀ row ∈ kids node,
    key row ∈ seen ∨ key row ∈ keysOf key out

theorem Listing.nil (depth : Nat) (seen : List α) : Listing kids key [] depth seen [] where
  outlined := .nil
  fresh := by simp
  nodup := List.nodup_nil
  covers := by simp
  closed := by simp

theorem Listing.skip {row : ρ} {rest : List ρ} {depth : Nat} {seen : List α}
    {out : List (ρ × Nat)} (hseen : key row ∈ seen)
    (hrest : Listing kids key rest depth seen out) :
    Listing kids key (row :: rest) depth seen out where
  outlined := .skip hrest.outlined
  fresh := hrest.fresh
  nodup := hrest.nodup
  covers := by
    intro other hother
    rcases List.mem_cons.mp hother with rfl | hother
    · exact .inl hseen
    · exact hrest.covers other hother
  closed := hrest.closed

theorem Listing.visit {row : ρ} {rest : List ρ} {depth : Nat} {seen : List α}
    {below later : List (ρ × Nat)} (hfresh : key row ∉ seen)
    (hbelow : Listing kids key (kids (key row)) (depth + 1) (key row :: seen) below)
    (hlater : Listing kids key rest depth
      ((keysOf key below).reverse ++ key row :: seen) later) :
    Listing kids key (row :: rest) depth seen ((row, depth) :: (below ++ later)) where
  outlined := .visit hbelow.outlined hlater.outlined
  fresh := by
    intro node hnode
    simp only [keysOf_cons, keysOf_append, List.mem_cons, List.mem_append] at hnode
    rcases hnode with rfl | hnode | hnode
    · exact hfresh
    · exact fun hseen => hbelow.fresh node hnode (List.mem_cons_of_mem _ hseen)
    · exact fun hseen => hlater.fresh node hnode
        (List.mem_append_right _ (List.mem_cons_of_mem _ hseen))
  nodup := by
    simp only [keysOf_cons, keysOf_append, List.nodup_cons, List.mem_append, not_or]
    refine ⟨⟨fun hmem => ?_, fun hmem => ?_⟩, ?_⟩
    · exact hbelow.fresh _ hmem List.mem_cons_self
    · exact hlater.fresh _ hmem (List.mem_append_right _ List.mem_cons_self)
    · refine List.nodup_append.mpr ⟨hbelow.nodup, hlater.nodup, fun node hnode other hother heq => ?_⟩
      subst heq
      exact hlater.fresh node hother (List.mem_append_left _ (List.mem_reverse.mpr hnode))
  covers := by
    intro other hother
    simp only [keysOf_cons, keysOf_append, List.mem_cons, List.mem_append]
    rcases List.mem_cons.mp hother with rfl | hother
    · exact .inr (.inl rfl)
    · have hcovered := hlater.covers other hother
      simp only [List.mem_append, List.mem_reverse, List.mem_cons] at hcovered
      tauto
  closed := by
    intro node hnode other hother
    simp only [keysOf_cons, keysOf_append, List.mem_cons, List.mem_append] at hnode ⊢
    rcases hnode with rfl | hnode | hnode
    · have hcovered := hbelow.covers other hother
      simp only [List.mem_cons] at hcovered
      tauto
    · have hcovered := hbelow.closed node hnode other hother
      simp only [List.mem_cons] at hcovered
      tauto
    · have hcovered := hlater.closed node hnode other hother
      simp only [List.mem_append, List.mem_reverse, List.mem_cons] at hcovered
      tauto

/-! ## Enough fuel -/

section Fuel

variable [DecidableEq α]

/-- The keys that are still to be seen. -/
def unseen (nodes seen : List α) : Nat := (nodes.filter fun node => node ∉ seen).length

theorem unseen_mono {nodes seen later : List α} (hsub : seen ⊆ later) :
    unseen nodes later ≤ unseen nodes seen := by
  refine (List.monotone_filter_right nodes ?_).length_le
  intro node hnode
  simp only [decide_eq_true_eq] at hnode ⊢
  exact fun hseen => hnode (hsub hseen)

theorem unseen_cons_lt {nodes seen : List α} {node : α} (hnode : node ∈ nodes)
    (hfresh : node ∉ seen) : unseen nodes (node :: seen) < unseen nodes seen := by
  have hfilter : nodes.filter (fun other => other ∉ node :: seen) =
      (nodes.filter (fun other => other ∉ seen)).filter (fun other => other ≠ node) := by
    rw [List.filter_filter]
    refine List.filter_congr fun other _ => ?_
    simp [not_or]
  rw [unseen, hfilter]
  refine List.length_filter_lt_length_iff_exists.mpr ⟨node, ?_, by simp⟩
  exact List.mem_filter.mpr ⟨hnode, by simpa using hfresh⟩

/-- The traversal after `out` has been written. -/
def Traversal.write (key : ρ → α) (traversal : Traversal α ρ) (out : List (ρ × Nat)) :
    Traversal α ρ :=
  ⟨(keysOf key out).reverse ++ traversal.seen, traversal.out ++ out⟩

/-- One level: if the recursion below lists what it is given, the loop over `rows` does. -/
theorem foldl_lists {nodes : List α} {fuel depth : Nat} {rows : List ρ}
    (below : α → Traversal α ρ → Traversal α ρ)
    (hbelow : ∀ node traversal, unseen nodes traversal.seen < fuel →
      ∃ out, below node traversal = traversal.write key out ∧
        Listing kids key (kids node) (depth + 1) traversal.seen out)
    (hrows : ∀ row ∈ rows, key row ∈ nodes) (traversal : Traversal α ρ)
    (hfuel : unseen nodes traversal.seen < fuel + 1) :
    ∃ out, rows.foldl (fun current row =>
        if key row ∈ current.seen then current
        else below (key row) ⟨key row :: current.seen, current.out ++ [(row, depth)]⟩) traversal =
          traversal.write key out ∧
      Listing kids key rows depth traversal.seen out := by
  induction rows generalizing traversal with
  | nil => exact ⟨[], by simp [Traversal.write], .nil depth _⟩
  | cons row rest ih =>
      have hrest : ∀ other ∈ rest, key other ∈ nodes :=
        fun other hother => hrows other (List.mem_cons_of_mem row hother)
      rw [List.foldl_cons]
      by_cases hseen : key row ∈ traversal.seen
      · rw [if_pos hseen]
        obtain ⟨out, hfold, hlisting⟩ := ih hrest traversal hfuel
        exact ⟨out, hfold, hlisting.skip hseen⟩
      · rw [if_neg hseen]
        have hless := unseen_cons_lt (hrows row List.mem_cons_self) hseen
        obtain ⟨inner, hinner, hinnerListing⟩ := hbelow (key row)
          ⟨key row :: traversal.seen, traversal.out ++ [(row, depth)]⟩ (by dsimp only; omega)
        rw [hinner]
        obtain ⟨later, hlater, hlaterListing⟩ := ih hrest (Traversal.write key
          ⟨key row :: traversal.seen, traversal.out ++ [(row, depth)]⟩ inner) (by
            refine Nat.lt_of_le_of_lt (unseen_mono ?_) hfuel
            intro node hnode
            exact List.mem_append_right _ (List.mem_cons_of_mem _ hnode))
        refine ⟨(row, depth) :: (inner ++ later), ?_, Listing.visit hseen hinnerListing hlaterListing⟩
        rw [hlater]
        simp [Traversal.write]

/-- With enough fuel a traversal lists the rows below its node. -/
theorem preorder_lists {nodes : List α} (hnodes : ∀ node, ∀ row ∈ kids node, key row ∈ nodes)
    {fuel : Nat} (node : α) (depth : Nat) (traversal : Traversal α ρ)
    (hfuel : unseen nodes traversal.seen < fuel) :
    ∃ out, preorder kids key fuel node depth traversal = traversal.write key out ∧
      Listing kids key (kids node) depth traversal.seen out := by
  induction fuel generalizing node depth traversal with
  | zero => exact absurd hfuel (Nat.not_lt_zero _)
  | succ fuel ih =>
      exact foldl_lists (fun node => preorder kids key fuel node (depth + 1))
        (fun node traversal => ih node (depth + 1) traversal) (hnodes node) traversal hfuel

/-- Two recursions that agree where there is enough fuel give the same loop. -/
theorem foldl_below_congr {nodes : List α} {fuel depth : Nat} {rows : List ρ}
    {first second : α → Traversal α ρ → Traversal α ρ}
    (hagree : ∀ node traversal, unseen nodes traversal.seen < fuel →
      first node traversal = second node traversal)
    (hbelow : ∀ node traversal, unseen nodes traversal.seen < fuel →
      ∃ out, second node traversal = traversal.write key out)
    (hrows : ∀ row ∈ rows, key row ∈ nodes) (traversal : Traversal α ρ)
    (hfuel : unseen nodes traversal.seen < fuel + 1) :
    rows.foldl (fun current row =>
        if key row ∈ current.seen then current
        else first (key row) ⟨key row :: current.seen, current.out ++ [(row, depth)]⟩) traversal =
      rows.foldl (fun current row =>
        if key row ∈ current.seen then current
        else second (key row) ⟨key row :: current.seen, current.out ++ [(row, depth)]⟩)
          traversal := by
  induction rows generalizing traversal with
  | nil => rfl
  | cons row rest ih =>
      have hrest : ∀ other ∈ rest, key other ∈ nodes :=
        fun other hother => hrows other (List.mem_cons_of_mem row hother)
      rw [List.foldl_cons, List.foldl_cons]
      by_cases hseen : key row ∈ traversal.seen
      · rw [if_pos hseen, if_pos hseen]
        exact ih hrest traversal hfuel
      · have hless := unseen_cons_lt (hrows row List.mem_cons_self) hseen
        rw [if_neg hseen, if_neg hseen, hagree _ _ (by dsimp only; omega)]
        obtain ⟨inner, hinner⟩ := hbelow (key row)
          ⟨key row :: traversal.seen, traversal.out ++ [(row, depth)]⟩ (by dsimp only; omega)
        rw [hinner]
        refine ih hrest _ (Nat.lt_of_le_of_lt (unseen_mono fun node hnode => ?_) hfuel)
        exact List.mem_append_right _ (List.mem_cons_of_mem _ hnode)

/-- More fuel changes nothing. -/
theorem preorder_succ {nodes : List α} (hnodes : ∀ node, ∀ row ∈ kids node, key row ∈ nodes)
    {fuel : Nat} (node : α) (depth : Nat) (traversal : Traversal α ρ)
    (hfuel : unseen nodes traversal.seen < fuel) :
    preorder kids key (fuel + 1) node depth traversal =
      preorder kids key fuel node depth traversal := by
  induction fuel generalizing node depth traversal with
  | zero => exact absurd hfuel (Nat.not_lt_zero _)
  | succ fuel ih =>
      refine foldl_below_congr (fun node traversal => ih node (depth + 1) traversal) ?_
        (hnodes node) traversal hfuel
      intro node traversal hless
      obtain ⟨out, hout, -⟩ := preorder_lists hnodes node (depth + 1) traversal hless
      exact ⟨out, hout⟩

theorem preorder_add {nodes : List α} (hnodes : ∀ node, ∀ row ∈ kids node, key row ∈ nodes)
    {fuel : Nat} (node : α) (depth : Nat) (traversal : Traversal α ρ)
    (hfuel : unseen nodes traversal.seen < fuel) (more : Nat) :
    preorder kids key (fuel + more) node depth traversal =
      preorder kids key fuel node depth traversal := by
  induction more with
  | zero => rfl
  | succ more ih =>
      rw [← ih]
      exact preorder_succ hnodes node depth traversal
        (Nat.lt_of_lt_of_le hfuel (Nat.le_add_right fuel more))

/-! ## From the root -/

/-- One link of the graph. -/
def Link (kids : α → List ρ) (key : ρ → α) (node below : α) : Prop :=
  ∃ row ∈ kids node, key row = below

/-- The listing from a node holds every other key that links lead to, once, as the outline of
the rows below the node. -/
theorem preorder_root {nodes : List α} (hnodes : ∀ node, ∀ row ∈ kids node, key row ∈ nodes)
    {fuel : Nat} (hfuel : nodes.length < fuel) (root : α) :
    Outlined kids key (kids root) 0 (preorder kids key fuel root 0 ⟨[root], []⟩).out ∧
      (keysOf key (preorder kids key fuel root 0 ⟨[root], []⟩).out).Nodup ∧
      ∀ node, node ∈ keysOf key (preorder kids key fuel root 0 ⟨[root], []⟩).out ↔
        node ≠ root ∧ Relation.TransGen (Link kids key) root node := by
  obtain ⟨out, hout, hlisting⟩ := preorder_lists hnodes root 0 (⟨[root], []⟩ : Traversal α ρ)
    (Nat.lt_of_le_of_lt (List.length_filter_le _ _) hfuel)
  have hwritten : (preorder kids key fuel root 0 ⟨[root], []⟩).out = out := by
    rw [hout]
    rfl
  rw [hwritten]
  refine ⟨hlisting.outlined, hlisting.nodup, fun node => ⟨fun hnode => ⟨?_, ?_⟩, ?_⟩⟩
  · exact fun heq => hlisting.fresh node hnode (heq ▸ List.mem_singleton_self root)
  · refine hlisting.outlined.forall_key (P := Relation.TransGen (Link kids key) root) ?_ ?_
      node hnode
    · exact fun parent hparent row hrow => hparent.tail ⟨row, hrow, rfl⟩
    · exact fun row hrow => .single ⟨row, hrow, rfl⟩
  · rintro ⟨hne, hreach⟩
    have hclosed : node ∈ [root] ∨ node ∈ keysOf key out := by
      clear hne
      induction hreach with
      | single hlink =>
          obtain ⟨row, hrow, rfl⟩ := hlink
          exact hlisting.covers row hrow
      | tail _ hlink ih =>
          obtain ⟨row, hrow, rfl⟩ := hlink
          rcases ih with hroot | hlisted
          · rw [List.mem_singleton] at hroot
            subst hroot
            exact hlisting.covers row hrow
          · exact hlisting.closed _ hlisted row hrow
    exact hclosed.resolve_left fun hroot => hne (List.mem_singleton.mp hroot)

end Fuel

end Forest
