import Mosaico.State.SessionFrames

/-!
# Columns that context and locator operations write

`Session.SameLifecycle` says which columns these operations keep.  Here the
question is asked the other way round: `AnnotatedAs` lists every column they may
write, so that all others, the accumulated working time among them, are known to
be the same.  The awareness cursor is on the list because of one operation only,
and no other one moves it.
-/

namespace Mosaico

open Relational Transition

/-- The row differs at most in what context and locator operations write. -/
def Session.AnnotatedAs (row next : Session) : Prop :=
  next = { row with
    channelH := next.channelH
    workRoot := next.workRoot
    readinessParent := next.readinessParent
    claimedHarness := next.claimedHarness
    childPid := next.childPid
    recoveryState := next.recoveryState
    lastSeen := next.lastSeen
    seenCursor := next.seenCursor
    title := next.title
    stateChangedAt := next.stateChangedAt }

/-- The row differs at most in what these operations write next to the cursor. -/
def Session.MarkedAs (row next : Session) : Prop :=
  row.AnnotatedAs next ∧ next.seenCursor = row.seenCursor

theorem Session.AnnotatedAs.refl (row : Session) : row.AnnotatedAs row := rfl

theorem Session.MarkedAs.refl (row : Session) : row.MarkedAs row := ⟨.refl row, rfl⟩

namespace Store

/-- Every session row is kept or annotated. -/
def SessionsAnnotated (before after : Store) : Prop :=
  before.sessions.RelatedBy Session.AnnotatedAs after.sessions

/-- Every session row is kept or annotated, and no cursor moves. -/
def SessionsMarked (before after : Store) : Prop :=
  before.sessions.RelatedBy Session.MarkedAs after.sessions

theorem annotated_updateWhere {applies : Session → Prop} [DecidablePred applies]
    {assign : Session → Session} (table : Table Session.pubkey)
    (hkey : ∀ row, (assign row).pubkey = row.pubkey)
    (hassign : ∀ row : Session, row.AnnotatedAs (assign row)) :
    table.RelatedBy Session.AnnotatedAs (table.updateWhere applies assign hkey) :=
  Table.RelatedBy.updateWhere Session.AnnotatedAs.refl (fun row _ _ => hassign row)

theorem SessionsMarked.annotated {before after : Store} (hmarked : SessionsMarked before after) :
    SessionsAnnotated before after :=
  Table.RelatedBy.mono (fun _ _ => And.left) hmarked

theorem SessionsMarked.of_eq {before after : Store}
    (heq : after.sessions = before.sessions) : SessionsMarked before after := by
  rw [SessionsMarked, heq]
  exact Table.RelatedBy.refl Session.MarkedAs.refl before.sessions

theorem marked_updateWhere {applies : Session → Prop} [DecidablePred applies]
    {assign : Session → Session} (table : Table Session.pubkey)
    (hkey : ∀ row, (assign row).pubkey = row.pubkey)
    (hassign : ∀ row : Session, row.AnnotatedAs (assign row))
    (hcursor : ∀ row, (assign row).seenCursor = row.seenCursor) :
    table.RelatedBy Session.MarkedAs (table.updateWhere applies assign hkey) :=
  Table.RelatedBy.updateWhere Session.MarkedAs.refl (fun row _ _ => ⟨hassign row, hcursor row⟩)

theorem SessionsMarked.commit {α : Type} {store : Store}
    {outcome : Except StoreError (α × Store)}
    (hok : ∀ value after, outcome = .ok (value, after) → SessionsMarked store after) :
    SessionsMarked store (Transition.commit outcome store) :=
  commit_invariant (I := SessionsMarked store) (.of_eq rfl) hok

/-! ## Context operations -/

theorem contextStep_marked (store : Store) (op : ContextOp)
    (hop : ∀ pubkey expected seenCursor, op ≠ .advanceCursorIfCurrent pubkey expected seenCursor) :
    SessionsMarked store (store.contextStep op) := by
  cases op with
  | recordClaimedHarness pubkey claimedHarness =>
      refine SessionsMarked.commit (fun value after hok => ?_)
      unfold recordClaimedHarness at hok
      split at hok
      · simp only [pure_eq_ok, Prod.mk.injEq] at hok
        exact .of_eq (hok.2 ▸ rfl)
      · simp only [pure_eq_ok, Prod.mk.injEq] at hok
        obtain ⟨_, rfl⟩ := hok
        refine marked_updateWhere store.sessions ?_ ?_ ?_ <;> exact fun _ => rfl
  | touchSession pubkey lastSeen =>
      refine SessionsMarked.commit (fun value after hok => ?_)
      simp only [touchSession, bind_eq_ok, pure_eq_ok, Prod.mk.injEq] at hok
      obtain ⟨_, _, _, rfl⟩ := hok
      refine marked_updateWhere store.sessions ?_ ?_ ?_ <;> exact fun _ => rfl
  | bindRuntimeProcess pubkey runtimeGeneration childPid now =>
      refine SessionsMarked.commit (fun value after hok => ?_)
      simp only [bindRuntimeProcess, bind_eq_ok, pure_eq_ok, Prod.mk.injEq] at hok
      obtain ⟨_, _, _, rfl⟩ := hok
      refine marked_updateWhere store.sessions ?_ ?_ ?_ <;> exact fun _ => rfl
  | setSessionTitle pubkey title =>
      refine SessionsMarked.commit (fun value after hok => ?_)
      simp only [setSessionTitle, pure_eq_ok, Prod.mk.injEq] at hok
      obtain ⟨_, rfl⟩ := hok
      refine marked_updateWhere store.sessions ?_ ?_ ?_ <;> exact fun _ => rfl
  | setSessionChannel pubkey channelH now
  | setSessionContext pubkey channelH workRoot readinessParent now =>
      refine SessionsMarked.commit (fun value after hok => ?_)
      have hsessions := (grantSessionRoute_same hok).sessions
      rw [SessionsMarked, hsessions]
      refine marked_updateWhere store.sessions ?_ ?_ ?_ <;> exact fun _ => rfl
  | advanceCursorIfCurrent pubkey expected seenCursor => exact absurd rfl (hop _ _ _)
  | bindMcpActor actorKey actorKind pubkey now =>
      apply SessionsMarked.of_eq
      simp only [contextStep, bindMcpActor]
      split
      · rfl
      · split
        · split <;> rfl
        · split
          · rfl
          · split <;> rfl

theorem contextStep_annotated (store : Store) (op : ContextOp) :
    SessionsAnnotated store (store.contextStep op) := by
  by_cases hadvance : ∃ pubkey expected seenCursor,
      op = .advanceCursorIfCurrent pubkey expected seenCursor
  · obtain ⟨pubkey, expected, seenCursor, rfl⟩ := hadvance
    refine commit_invariant (I := SessionsAnnotated store) (SessionsMarked.of_eq rfl).annotated ?_
    intro value after hok
    simp only [advanceCursorIfCurrent, bind_eq_ok, pure_eq_ok, updateSessions,
      Prod.mk.injEq] at hok
    obtain ⟨_, _, _, rfl⟩ := hok
    refine annotated_updateWhere store.sessions ?_ ?_ <;> exact fun _ => rfl
  · refine (contextStep_marked store op ?_).annotated
    intro pubkey expected seenCursor heq
    exact hadvance ⟨pubkey, expected, seenCursor, heq⟩

/-! ## Locator operations -/

theorem locatorStep_marked (store : Store) (op : LocatorOp) :
    SessionsMarked store (store.locatorStep op) := by
  have hwrite := locatorStep_write store op
  generalize store.locatorStep op = after at hwrite ⊢
  cases hwrite with
  | locators => exact .of_eq rfl
  | readied | touched | unreadied =>
      refine marked_updateWhere store.sessions ?_ ?_ ?_ <;> exact fun _ => rfl

theorem locatorStep_annotated (store : Store) (op : LocatorOp) :
    SessionsAnnotated store (store.locatorStep op) :=
  (locatorStep_marked store op).annotated

/-! ## The awareness cursor -/

/-- The cursor of a known session. -/
def seenCursorOf (store : Store) (pubkey : String) : Option Nat :=
  (store.getSession pubkey).map Session.seenCursor

theorem LifecycleOp.rewrites_seenCursor {store : Store} {row next : Session} {op : LifecycleOp}
    (hop : op.Rewrites store row next) : next.seenCursor = row.seenCursor := by
  cases op with
  | reserveSessionWithFacts | finalizeSessionRecoveryRevocation | activateMcpActor =>
      rw [hop.2.2.2]; rfl
  | applySessionPresentationEdge | applySessionTurnStarted | cancelSessionIdleDeadlineForDelivery
  | reserveDueIdleEviction | cancelIdleEvictionOnPresentationChange
  | markRuntimeStoppedIfGeneration => rw [hop.2]; rfl
  | markSessionPresentationUnavailable | applySessionTurnEnded => rw [hop.2.2]; rfl
  | finalizeRuntimeStoppedIfEpoch => rw [hop.2.2.2.2]; rfl
  | revokeSessionRecoveryIfGeneration => rw [hop.2.2]
  | reserveMcpActorSession => exact hop.elim

theorem InboxOp.rewrites_seenCursor {store : Store} {row next : Session} {op : InboxOp}
    (hop : op.Rewrites store row next) : next.seenCursor = row.seenCursor := by
  cases op with
  | enqueueInbox => rw [hop.2.2.2]; rfl
  | _ => exact hop.elim

/-- The compare-and-set writes the row of one session. -/
theorem seenCursorOf_advance_of_ne {store : Store} {owner pubkey : String} (hother : owner ≠ pubkey)
    (expected seenCursor : Nat) :
    (store.contextStep (.advanceCursorIfCurrent owner expected seenCursor)).seenCursorOf pubkey =
      store.seenCursorOf pubkey := by
  refine commit_invariant (I := fun after : Store =>
    after.seenCursorOf pubkey = store.seenCursorOf pubkey) rfl ?_
  intro value after hok
  simp only [advanceCursorIfCurrent, bind_eq_ok, pure_eq_ok, updateSessions,
    Prod.mk.injEq] at hok
  obtain ⟨_, _, _, rfl⟩ := hok
  rw [seenCursorOf, getSession, Table.find?_updateWhere, seenCursorOf, getSession]
  cases hfind : store.sessions.find? pubkey with
  | none => rfl
  | some row =>
      have hkey : row.pubkey = pubkey := Table.key_of_find? hfind
      have hskip : ¬ (row.pubkey = owner ∧ row.seenCursor = expected) :=
        fun happlies => hother (happlies.1.symm.trans hkey)
      rw [Option.map_some, if_neg hskip]

/-- No operation but the compare-and-set moves the cursor of a session. -/
theorem seenCursorOf_step {store : Store} {op : StoreOp} {pubkey : String}
    (hop : ∀ expected seenCursor,
      op ≠ .context (.advanceCursorIfCurrent pubkey expected seenCursor))
    {cursor : Nat} (hcursor : store.seenCursorOf pubkey = some cursor) :
    (store.step op).seenCursorOf pubkey = some cursor := by
  have hmarked : SessionsMarked store (store.step op) →
      (store.step op).seenCursorOf pubkey = some cursor := by
    intro hmarked
    have hrelated := hmarked pubkey
    rw [seenCursorOf, getSession] at hcursor ⊢
    generalize store.sessions.find? pubkey = before at hrelated hcursor
    generalize (store.step op).sessions.find? pubkey = after at hrelated
    cases hrelated with
    | none => cases hcursor
    | some hmark =>
        rw [Option.map_some, hmark.2, ← Option.map_some]
        exact hcursor
  have hrewritten : (∀ row next, op.Rewrites store row next →
      next.seenCursor = row.seenCursor) →
      (store.step op).seenCursorOf pubkey = some cursor := by
    intro hkept
    have hchange := step_sessionChange store op pubkey
    rw [seenCursorOf, getSession] at hcursor ⊢
    generalize (store.step op).sessions.find? pubkey = after at hchange
    cases hchange with
    | kept => exact hcursor
    | rewritten row next hfind hrewrites =>
        rw [hfind, Option.map_some] at hcursor
        rw [Option.map_some, hkept row next hrewrites]
        exact hcursor
    | created next hfree hkey hcreates =>
        rw [hfree] at hcursor
        cases hcursor
  cases op with
  | lifecycle op => exact hrewritten (fun _ _ => LifecycleOp.rewrites_seenCursor)
  | inbox op => exact hrewritten (fun _ _ => InboxOp.rewrites_seenCursor)
  | locator op => exact hmarked (locatorStep_marked store op)
  | standing op => exact hmarked (.of_eq (standingStep_same store op).sessions)
  | context op =>
      by_cases hadvance : ∃ owner expected seenCursor,
          op = .advanceCursorIfCurrent owner expected seenCursor
      · obtain ⟨owner, expected, seenCursor, rfl⟩ := hadvance
        have hother : owner ≠ pubkey := by
          rintro rfl
          exact hop expected seenCursor rfl
        exact hcursor ▸ seenCursorOf_advance_of_ne hother expected seenCursor
      · refine hmarked (contextStep_marked store op ?_)
        intro owner expected seenCursor heq
        exact hadvance ⟨owner, expected, seenCursor, heq⟩

end Store

end Mosaico
