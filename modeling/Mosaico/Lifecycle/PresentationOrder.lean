import Mathlib.Data.List.Sort
import Mosaico.State.SessionLifecycle
import Mosaico.Transition.Reordering

/-!
# Presentation edges in any order

Edges of one generation reach the store from independent sockets.  The attachment epoch of
the row fences them: of two edges the one with the higher epoch wins, whichever arrives
first.  So the edges may arrive in any order, any of them repeatedly, and the session ends
as after its highest edge.
-/

namespace Mosaico

open Relational Transition

/-- A presentation edge as a supervisor reports it. -/
structure PresentationEdge where
  attachmentEpoch : Nat
  presentation : PresentationState
  instant : Nat
  deriving DecidableEq, Repr

/-- The numbers of the edge fit the parameters of its statement. -/
def PresentationEdge.Fits (generation : Nat) (edge : PresentationEdge) : Prop :=
  let idleSince := if edge.presentation = .headless then edge.instant else 0
  ∀ param ∈ [generation, edge.attachmentEpoch, idleSince,
    Rust.saturatingAdd idleSince headlessIdleTimeoutSecs], param ≤ Rust.i64Max

instance (generation : Nat) (edge : PresentationEdge) : Decidable (edge.Fits generation) :=
  inferInstanceAs (Decidable (∀ param ∈ [_, _, _, _], param ≤ Rust.i64Max))

/-! ## One row -/

namespace Session

variable {pubkey : String} {generation : Nat} {row : Session} {first second : PresentationEdge}

/-- The row after an edge, which it may fence off. -/
def presented (pubkey : String) (generation : Nat) (row : Session) (edge : PresentationEdge) :
    Session :=
  if Store.presentationEdgeApplies pubkey generation edge.attachmentEpoch row then
    row.presentationEdge edge.attachmentEpoch edge.presentation edge.instant
  else row

/-- A later edge overwrites an earlier one. -/
theorem presented_presented_of_lt (hlt : first.attachmentEpoch < second.attachmentEpoch) :
    (row.presented pubkey generation first).presented pubkey generation second =
      row.presented pubkey generation second := by
  by_cases hfirst : Store.presentationEdgeApplies pubkey generation first.attachmentEpoch row
  · have hsecond : Store.presentationEdgeApplies pubkey generation second.attachmentEpoch row := by
      refine ⟨hfirst.1, Or.inl ?_⟩
      have hepoch := hfirst.2
      omega
    have hthen : Store.presentationEdgeApplies pubkey generation second.attachmentEpoch
        (row.presentationEdge first.attachmentEpoch first.presentation first.instant) :=
      ⟨hfirst.1, Or.inl hlt⟩
    rw [presented, presented, presented, if_pos hfirst, if_pos hthen, if_pos hsecond]
    rfl
  · have hkept : row.presented pubkey generation first = row := if_neg hfirst
    rw [hkept]

/-- A later edge fences off an earlier one. -/
theorem presented_presented_of_gt (hlt : first.attachmentEpoch < second.attachmentEpoch) :
    (row.presented pubkey generation second).presented pubkey generation first =
      row.presented pubkey generation second := by
  have hfenced : ¬ Store.presentationEdgeApplies pubkey generation first.attachmentEpoch
      (row.presented pubkey generation second) := by
    rintro ⟨hrunning, hepoch⟩
    by_cases hsecond : Store.presentationEdgeApplies pubkey generation second.attachmentEpoch row
    · rw [presented, if_pos hsecond] at hepoch
      simp only [Session.presentationEdge] at hepoch
      omega
    · rw [presented, if_neg hsecond] at hrunning hepoch
      exact hsecond ⟨hrunning, Or.inl (by omega)⟩
  rw [presented, if_neg hfenced]

theorem presented_comm (hne : first.attachmentEpoch ≠ second.attachmentEpoch) :
    (row.presented pubkey generation first).presented pubkey generation second =
      (row.presented pubkey generation second).presented pubkey generation first := by
  rcases Nat.lt_or_gt_of_ne hne with hlt | hgt
  · rw [presented_presented_of_lt hlt, presented_presented_of_gt hlt]
  · rw [presented_presented_of_lt hgt, presented_presented_of_gt hgt]

/-- An edge that an unavailable row takes twice says the same the second time. -/
theorem presented_self (edge : PresentationEdge) :
    (row.presented pubkey generation edge).presented pubkey generation edge =
      row.presented pubkey generation edge := by
  by_cases happlies : Store.presentationEdgeApplies pubkey generation edge.attachmentEpoch row
  · have hrow : row.presented pubkey generation edge =
        row.presentationEdge edge.attachmentEpoch edge.presentation edge.instant :=
      if_pos happlies
    rw [hrow, presented]
    split
    · rfl
    · rfl
  · have hrow : row.presented pubkey generation edge = row := if_neg happlies
    rw [hrow, hrow]

end Session

/-! ## The store -/

namespace Store

variable {pubkey : String} {generation : Nat} {first second : PresentationEdge}

/-- What an edge leaves in the store. -/
def presentEdge (pubkey : String) (generation : Nat) (store : Store) (edge : PresentationEdge) :
    Store :=
  commit (store.applySessionPresentationEdge pubkey generation edge.attachmentEpoch
    edge.presentation edge.instant) store

/-- Every row of the sessions as the edge leaves it. -/
def withPresented (pubkey : String) (generation : Nat) (store : Store)
    (edge : PresentationEdge) : Store :=
  { store with
    sessions := store.sessions.updateWhere
      (presentationEdgeApplies pubkey generation edge.attachmentEpoch)
      (fun row => row.presentationEdge edge.attachmentEpoch edge.presentation edge.instant) }

theorem rows_withPresented (store : Store) (edge : PresentationEdge) :
    (store.withPresented pubkey generation edge).sessions.rows =
      store.sessions.rows.map (fun row => row.presented pubkey generation edge) := rfl

theorem presentEdge_eq (store : Store) (edge : PresentationEdge) :
    store.presentEdge pubkey generation edge =
      if edge.Fits generation then store.withPresented pubkey generation edge else store := by
  unfold presentEdge applySessionPresentationEdge
  dsimp only
  by_cases hfits : edge.Fits generation
  · rw [if_pos hfits, show bindParams _ = .ok () from bindParams_eq_ok.mpr hfits]
    rfl
  · rw [if_neg hfits, bindParams_eq_error hfits]
    rfl

theorem withPresented_absorb (store : Store)
    (hrow : ∀ row : Session, (row.presented pubkey generation first).presented pubkey generation
      second = row.presented pubkey generation second) :
    (store.withPresented pubkey generation first).withPresented pubkey generation second =
      store.withPresented pubkey generation second := by
  have hrows : ((store.withPresented pubkey generation first).withPresented pubkey generation
      second).sessions.rows = (store.withPresented pubkey generation second).sessions.rows := by
    rw [rows_withPresented, rows_withPresented, rows_withPresented, List.map_map]
    exact List.map_congr_left fun row _ => hrow row
  exact congrArg (fun sessions => { store with sessions := sessions }) (Table.ext hrows)

theorem withPresented_comm (store : Store)
    (hne : first.attachmentEpoch ≠ second.attachmentEpoch) :
    (store.withPresented pubkey generation first).withPresented pubkey generation second =
      (store.withPresented pubkey generation second).withPresented pubkey generation first := by
  have hrows : ((store.withPresented pubkey generation first).withPresented pubkey generation
      second).sessions.rows = ((store.withPresented pubkey generation second).withPresented pubkey
        generation first).sessions.rows := by
    rw [rows_withPresented, rows_withPresented, rows_withPresented, rows_withPresented,
      List.map_map, List.map_map]
    exact List.map_congr_left fun row _ => Session.presented_comm hne
  exact congrArg (fun sessions => { store with sessions := sessions }) (Table.ext hrows)

/-- The edges commute and absorb their repetitions when their epochs differ. -/
theorem presentEdge_commuting {edges : List PresentationEdge}
    (hepochs : (edges.map PresentationEdge.attachmentEpoch).Nodup) :
    Commuting (presentEdge pubkey generation) edges := by
  intro first hfirst second hsecond store
  by_cases heq : first = second
  · rw [heq]
  · have hne : first.attachmentEpoch ≠ second.attachmentEpoch :=
      fun hsame => heq (List.inj_on_of_nodup_map hepochs hfirst hsecond hsame)
    simp only [presentEdge_eq]
    split_ifs
    · exact withPresented_comm store hne
    · rfl
    · rfl
    · rfl

theorem presentEdge_idempotent (edges : List PresentationEdge) :
    Idempotent (presentEdge pubkey generation) edges := by
  intro edge _ store
  simp only [presentEdge_eq]
  split_ifs
  · exact withPresented_absorb store fun row => Session.presented_self edge
  · rfl

/-- An edge absorbs the ones below it. -/
theorem presentEdge_absorbing {edge highest : PresentationEdge}
    (hfits : highest.Fits generation)
    (hbelow : edge.Fits generation → edge.attachmentEpoch < highest.attachmentEpoch)
    (store : Store) :
    (store.presentEdge pubkey generation edge).presentEdge pubkey generation highest =
      store.presentEdge pubkey generation highest := by
  simp only [presentEdge_eq, if_pos hfits]
  split_ifs with hedge
  · exact withPresented_absorb store
      fun row => Session.presented_presented_of_lt (hbelow hedge)
  · rfl

/-- A running row takes an edge above its epoch. -/
theorem getSession_presentEdge {store : Store} {row : Session} {edge : PresentationEdge}
    (hfits : edge.Fits generation) (hrow : store.getSession pubkey = some row)
    (hrunning : isRunningGeneration pubkey generation row)
    (hepoch : row.attachmentEpoch < edge.attachmentEpoch) :
    (store.presentEdge pubkey generation edge).getSession pubkey =
      some (row.presentationEdge edge.attachmentEpoch edge.presentation edge.instant) := by
  have happlies : presentationEdgeApplies pubkey generation edge.attachmentEpoch row :=
    ⟨hrunning, Or.inl hepoch⟩
  unfold getSession at hrow ⊢
  rw [presentEdge_eq, if_pos hfits]
  unfold withPresented
  rw [Table.find?_updateWhere, hrow, Option.map_some, if_pos happlies]

/-- However the edges are delivered, the store ends as after the edges in the order of their
epochs, and as after the highest edge alone. -/
theorem presentEdges_delivered (store : Store) (pubkey : String) (generation : Nat)
    {edges deliveries : List PresentationEdge}
    (hepochs : (edges.map PresentationEdge.attachmentEpoch).Nodup)
    (hdelivered : ∀ edge, edge ∈ deliveries ↔ edge ∈ edges) :
    run (presentEdge pubkey generation) store deliveries =
        run (presentEdge pubkey generation) store
          (edges.insertionSort fun first second =>
            first.attachmentEpoch ≤ second.attachmentEpoch) ∧
      ∀ highest ∈ edges, highest.Fits generation →
        (∀ edge ∈ edges, edge.Fits generation →
          edge.attachmentEpoch ≤ highest.attachmentEpoch) →
        run (presentEdge pubkey generation) store deliveries =
            store.presentEdge pubkey generation highest ∧
          ∀ row, store.getSession pubkey = some row → isRunningGeneration pubkey generation row →
            row.attachmentEpoch < highest.attachmentEpoch →
            (run (presentEdge pubkey generation) store deliveries).getSession pubkey =
              some (row.presentationEdge highest.attachmentEpoch highest.presentation
                highest.instant) := by
  have hcommuting : Commuting (presentEdge pubkey generation) edges :=
    presentEdge_commuting hepochs
  have hidempotent : Idempotent (presentEdge pubkey generation) edges :=
    presentEdge_idempotent edges
  have hdeliveries := run_eq_of_mem_iff hcommuting hidempotent hdelivered store
  constructor
  · rw [hdeliveries]
    exact run_eq_of_perm hcommuting (List.perm_insertionSort _ edges).symm store
  · intro highest hhighest hfits hmax
    -- The highest edge makes every edge before it invisible.
    have habsorbing : ∀ edge ∈ edges, ∀ state : Store,
        (state.presentEdge pubkey generation edge).presentEdge pubkey generation highest =
          state.presentEdge pubkey generation highest := by
      intro edge hedge state
      by_cases heq : edge = highest
      · rw [heq]
        exact hidempotent highest hhighest state
      · refine presentEdge_absorbing hfits ?_ state
        intro hedgeFits
        have hne : edge.attachmentEpoch ≠ highest.attachmentEpoch :=
          fun hsame => heq (List.inj_on_of_nodup_map hepochs hedge hhighest hsame)
        exact Nat.lt_of_le_of_ne (hmax edge hedge hedgeFits) hne
    have hhighestLast : run (presentEdge pubkey generation) store deliveries =
        store.presentEdge pubkey generation highest := by
      rw [hdeliveries, ← run_concat_of_mem hcommuting hidempotent hhighest store]
      exact run_concat_of_absorbing habsorbing store
    refine ⟨hhighestLast, ?_⟩
    intro row hrow hrunning hepoch
    rw [hhighestLast]
    exact getSession_presentEdge hfits hrow hrunning hepoch

/-- One session, as it was registered. -/
def startedSession : Store :=
  { Store.empty with sessions := Table.empty.insertOrIgnore (Session.defaults "pk" 1 5) }

/-- The detach of epoch 3 comes before the attach of epoch 2, and once more after it. -/
theorem presentEdges_delivered_detached :
    (run (presentEdge "pk" 1) startedSession
        [⟨3, .headless, 20⟩, ⟨2, .headed, 10⟩, ⟨3, .headless, 20⟩]).getSession "pk" =
      some ((Session.defaults "pk" 1 5).presentationEdge 3 .headless 20) := by
  have hdelivered : ∀ edge : PresentationEdge,
      edge ∈ [⟨3, .headless, 20⟩, ⟨2, .headed, 10⟩, ⟨3, .headless, 20⟩] ↔
        edge ∈ [(⟨2, .headed, 10⟩ : PresentationEdge), ⟨3, .headless, 20⟩] := by
    intro edge
    simp only [List.mem_cons, List.not_mem_nil, or_false]
    tauto
  have hlast := (presentEdges_delivered startedSession "pk" 1 (by decide) hdelivered).2
    ⟨3, .headless, 20⟩ (by decide) (by decide) (by decide)
  exact hlast.2 (Session.defaults "pk" 1 5) rfl (by decide) (by decide)

end Store

end Mosaico
