import Mosaico.Standing.Admission
import Mosaico.State.StopEdges

/-!
# One standing row through a store operation

A relay membership is accounted for by the standing row of its pubkey and
channel, so this module follows a single row.  Apart from the operations of the
standing lane, an operation keeps the row, opens an `absent` one, retains a
`member` row at a stop, or expires it when the recovery of its session is
revoked for good.  A stop leaves no `member` row of its pubkey behind.
-/

namespace Mosaico

open Relational Transition

namespace StoreOp

/-- The operations that follow a relay round trip, and the two standing writes
that the daemon never calls. -/
def inLane : StoreOp → Bool
  | .standing (.commitConfirmedSessionAdmission _ _ _ _ _) => true
  | .standing (.scheduleConfirmedAdmissionCleanup _ _ _ _ _) => true
  | .standing (.revokeRouteAndMarkAbsent _ _ _) => true
  | .standing (.markSessionStandingAbsentIfEpoch _ _ _ _ _ _) => true
  | .standing (.markSessionStandingMemberIfRunning _ _ _ _) => true
  | .standing (.retainStoppedSessionRoutes _ _ _ _) => true
  | _ => false

/-- The deadline under which a stop retains the `member` rows. -/
def deadline : StoreOp → Option Nat
  | .lifecycle (.finalizeRuntimeStoppedIfEpoch _ _ _ _ stoppedAt) =>
      some (Rust.saturatingAdd stoppedAt stoppedStandingRetentionSecs)
  | .lifecycle (.markRuntimeStoppedIfGeneration _ _ reason stoppedAt) =>
      some (Store.retainUntil reason stoppedAt)
  | _ => none

/-- The time at which a finalized revocation makes the standing due. -/
def expiry : StoreOp → Option Nat
  | .lifecycle (.finalizeSessionRecoveryRevocation _ _ now) => some now
  | _ => none

end StoreOp

namespace Store

/-- What an operation outside the lane does to the row of one key. -/
inductive RowChange (op : StoreOp) : Option SessionStanding → Option SessionStanding → Prop
  | kept (row : Option SessionStanding) : RowChange op row row
  | absent (before : Option SessionStanding) (next : SessionStanding)
      (hbefore : ∀ row, before = some row → row.state = .absent)
      (hnext : next.state = .absent) : RowChange op before (some next)
  | retained (row : SessionStanding) (retainUntil lifecycleEpoch now : Nat)
      (hmember : row.state = .member) (hop : op.deadline = some retainUntil) :
      RowChange op (some row) (some (row.rewrite .retained retainUntil lifecycleEpoch now))
  | expired (row : SessionStanding) (lifecycleEpoch now : Nat) (hop : op.expiry = some now) :
      RowChange op (some row) (some (row.rewrite .retained now lifecycleEpoch now))

/-! ## The statements of a stop -/

theorem find?_initializeStanding (store : Store) (pubkey : String) (lifecycleEpoch now : Nat)
    (k : String × String) :
    (store.initializeStanding pubkey lifecycleEpoch now).sessionStanding.find? k =
        store.sessionStanding.find? k ∨
      (store.sessionStanding.find? k = none ∧ ∃ row,
        (store.initializeStanding pubkey lifecycleEpoch now).sessionStanding.find? k = some row ∧
          row.state = .absent) := by
  dsimp only [initializeStanding]
  cases hfind : store.sessionStanding.find? k with
  | some row => exact Or.inl (Table.find?_insertAllOrIgnore_of_some hfind)
  | none =>
      generalize hrows : (store.routesOf pubkey).map (fun route =>
        SessionStanding.absentRow route.pubkey route.channelH lifecycleEpoch now) = rows
      cases hnext : (store.sessionStanding.insertAllOrIgnore rows).find? k with
      | none => exact Or.inl rfl
      | some row =>
          have hrow : row ∈ rows := Table.find?_insertAllOrIgnore_of_none hfind hnext
          rw [← hrows] at hrow
          obtain ⟨route, _, rfl⟩ := List.mem_map.mp hrow
          exact Or.inr ⟨rfl, _, rfl, rfl⟩

variable {store : Store} {pubkey : String} {lifecycleEpoch now : Nat} {op : StoreOp}
  {k : String × String}

theorem retainInTransaction_change {after : Store}
    {retainUntil : Nat} (hop : op.deadline = some retainUntil)
    (hok : store.retainInTransaction pubkey lifecycleEpoch retainUntil now = .ok after)
    (k : String × String) :
    RowChange op (store.sessionStanding.find? k) (after.sessionStanding.find? k) := by
  simp only [retainInTransaction, bind_eq_ok, pure_eq_ok] at hok
  obtain ⟨_, _, rfl⟩ := hok
  dsimp only [retainMembers]
  rw [Table.find?_updateWhere]
  rcases store.find?_initializeStanding pubkey lifecycleEpoch now k with hsame | ⟨hnone, row, hrow, habsent⟩
  · rw [hsame]
    cases hfind : store.sessionStanding.find? k with
    | none => exact .kept none
    | some row =>
        rw [Option.map_some]
        split
        · rename_i hmember
          exact .retained row retainUntil lifecycleEpoch now hmember.2 hop
        · exact .kept (some row)
  · have hother : ¬ (row.pubkey = pubkey ∧ row.state = .member) := by simp [habsent]
    rw [hnone, hrow, Option.map_some, if_neg hother]
    exact .absent none row (by simp) habsent

theorem retainInTransaction_not_member {after : Store} {retainUntil : Nat}
    (hok : store.retainInTransaction pubkey lifecycleEpoch retainUntil now = .ok after)
    {row : SessionStanding}
    (hfind : after.sessionStanding.find? k = some row) (hpubkey : row.pubkey = pubkey) :
    row.state ≠ .member := by
  simp only [retainInTransaction, bind_eq_ok, pure_eq_ok] at hok
  obtain ⟨_, _, rfl⟩ := hok
  dsimp only [retainMembers] at hfind
  rw [Table.find?_updateWhere, Option.map_eq_some_iff] at hfind
  obtain ⟨old, _, hrow⟩ := hfind
  split at hrow
  · rw [← hrow]
    exact (by decide : StandingState.retained ≠ .member)
  · rename_i hkept
    rw [← hrow] at hpubkey ⊢
    exact fun hmember => hkept ⟨hpubkey, hmember⟩

/-! ## The statements of a revocation -/

theorem expireStanding_change (hop : op.expiry = some now) (k : String × String) :
    RowChange op (store.sessionStanding.find? k)
      (((store.initializeStanding pubkey lifecycleEpoch now).expireStanding pubkey
        lifecycleEpoch now).sessionStanding.find? k) := by
  dsimp only [expireStanding]
  rw [Table.find?_updateWhere]
  rcases store.find?_initializeStanding pubkey lifecycleEpoch now k with hsame | ⟨hnone, row, hrow, habsent⟩
  · rw [hsame]
    cases hfind : store.sessionStanding.find? k with
    | none => exact .kept none
    | some row =>
        rw [Option.map_some]
        split
        · by_cases habsent : row.state = .absent
          · simp only [habsent, if_true]
            exact .absent _ _ (fun old hold => by cases hold; exact habsent) rfl
          · simp only [habsent, if_false]
            exact .expired row lifecycleEpoch now hop
        · exact .kept (some row)
  · rw [hnone, hrow, Option.map_some]
    by_cases hpubkey : row.pubkey = pubkey
    · simp only [hpubkey, habsent, if_true]
      exact .absent none _ (by simp) rfl
    · rw [if_neg hpubkey]
      exact .absent none row (by simp) habsent

theorem expireStanding_not_member {row : SessionStanding}
    (hfind : (store.expireStanding pubkey lifecycleEpoch now).sessionStanding.find? k = some row)
    (hpubkey : row.pubkey = pubkey) : row.state ≠ .member := by
  dsimp only [expireStanding] at hfind
  rw [Table.find?_updateWhere, Option.map_eq_some_iff] at hfind
  obtain ⟨old, _, hrow⟩ := hfind
  split at hrow
  · rw [← hrow]
    show (if old.state = .absent then StandingState.absent else .retained) ≠ .member
    split <;> decide
  · rename_i hkept
    rw [← hrow] at hpubkey
    exact absurd hpubkey hkept

/-! ## Every operation outside the lane -/

theorem RowChange.of_eq {before after : Store}
    (hstanding : after.sessionStanding = before.sessionStanding) :
    RowChange op (before.sessionStanding.find? k) (after.sessionStanding.find? k) := by
  rw [hstanding]
  exact .kept _

theorem lifecycleStep_rowChange (store : Store) (op : LifecycleOp) (k : String × String) :
    RowChange (.lifecycle op) (store.sessionStanding.find? k)
      ((store.lifecycleStep op).sessionStanding.find? k) := by
  cases hop : updatesSessionsOnly op with
  | true => exact .of_eq (lifecycleStep_sameOutsideSessions store hop).sessionStanding
  | false =>
      let changes := fun after : Store => RowChange (.lifecycle op)
        (store.sessionStanding.find? k) (after.sessionStanding.find? k)
      have hrefl : changes store := .kept _
      cases op with
      | reserveSessionWithFacts r facts =>
          apply commit_invariant (I := changes) hrefl
          intro generation after hok
          obtain ⟨_, rfl⟩ := reserveSessionWithFacts_ok hok
          unfold changes admitRuntime grantRouteAndInitializeStanding
          dsimp only
          split
          · exact hrefl
          · split
            · exact hrefl
            · dsimp only [markHandleLive]
              rw [Table.find?_insertOrIgnore]
              split
              · cases hfind : store.sessionStanding.find? k with
                | none => exact .absent none _ (by simp) rfl
                | some row => exact .kept _
              · exact .kept _
      | applySessionTurnEnded pubkey generation instant =>
          apply commit_invariant (I := changes) hrefl
          intro changed after hok
          simp only [applySessionTurnEnded, bind_eq_ok, updateSessions, decide_eq_true_eq] at hok
          obtain ⟨_, _, hok⟩ := hok
          split at hok
          · simp only [pure_eq_ok, Prod.mk.injEq] at hok
            exact hok.2 ▸ hrefl
          · simp only [pure_eq_ok, Prod.mk.injEq] at hok
            exact hok.2 ▸ hrefl
      | finalizeRuntimeStoppedIfEpoch pubkey generation stoppingLifecycleEpoch reason stoppedAt =>
          apply commit_invariant (I := changes) hrefl
          intro stopped after hok
          simp only [finalizeRuntimeStoppedIfEpoch, bind_eq_ok, updateSessions,
            decide_eq_true_eq] at hok
          obtain ⟨_, _, hok⟩ := hok
          split at hok
          · split at hok
            · cases hok
            · simp only [bind_eq_ok, pure_eq_ok, Prod.mk.injEq] at hok
              obtain ⟨_, hretained, _, rfl⟩ := hok
              exact retainInTransaction_change rfl hretained k
          · simp only [pure_eq_ok, Prod.mk.injEq] at hok
            exact hok.2 ▸ hrefl
      | markRuntimeStoppedIfGeneration pubkey generation reason stoppedAt =>
          apply commit_invariant (I := changes) hrefl
          intro changed after hok
          simp only [markRuntimeStoppedIfGeneration, bind_eq_ok, updateSessions,
            decide_eq_true_eq] at hok
          obtain ⟨_, _, hok⟩ := hok
          split at hok
          · split at hok
            · cases hok
            · simp only [bind_eq_ok, pure_eq_ok, Prod.mk.injEq] at hok
              obtain ⟨_, hretained, _, rfl⟩ := hok
              exact retainInTransaction_change rfl hretained k
          · simp only [pure_eq_ok, Prod.mk.injEq] at hok
            exact hok.2 ▸ hrefl
      | finalizeSessionRecoveryRevocation pubkey runtimeGeneration now =>
          apply commit_invariant (I := changes) hrefl
          intro changed after hok
          simp only [finalizeSessionRecoveryRevocation, bind_eq_ok, updateSessions,
            decide_eq_true_eq] at hok
          obtain ⟨_, _, hok⟩ := hok
          split at hok
          · split at hok
            · cases hok
            · simp only [pure_eq_ok, Prod.mk.injEq] at hok
              obtain ⟨_, rfl⟩ := hok
              exact expireStanding_change rfl k
          · simp only [pure_eq_ok, Prod.mk.injEq] at hok
            exact hok.2 ▸ hrefl
      | reserveMcpActorSession pubkey agentSlug channel now =>
          apply commit_invariant (I := changes) hrefl
          intro value after hok
          exact .of_eq (reserveMcpActorSession_same hok).2.2
      | _ => cases hop

theorem step_rowChange (store : Store) (hop : op.inLane = false) (k : String × String) :
    RowChange op (store.sessionStanding.find? k) ((store.step op).sessionStanding.find? k) := by
  cases op with
  | lifecycle op => exact lifecycleStep_rowChange store op k
  | inbox op => exact .of_eq (inboxStep_same store op).1.sessionStanding
  | locator op => exact .of_eq (locatorStep_effect store op).sessionStanding
  | standing op =>
      cases op with
      | grantSessionRoute pubkey channelH grantedAt =>
          let changes := fun after : Store =>
            RowChange (.standing (.grantSessionRoute pubkey channelH grantedAt))
              (store.sessionStanding.find? k) (after.sessionStanding.find? k)
          apply commit_invariant (I := changes) (.kept _)
          intro value after hok
          exact .of_eq (grantSessionRoute_sessionStanding hok)
      | revokeSessionRoute pubkey channelH => exact .kept _
      | _ => cases hop
  | context op => exact .of_eq (contextStep_effect store op).sessionStanding

/-! ## A stop leaves no member row -/

theorem stopped_not_member {row next : Session}
    (hfind : store.sessions.find? pubkey = some row) (hlive : row.runtimeState ≠ .stopped)
    (hnext : (store.step op).sessions.find? pubkey = some next)
    (hstopped : next.runtimeState = .stopped) {standing : SessionStanding}
    (hstanding : (store.step op).sessionStanding.find? k = some standing)
    (hpubkey : standing.pubkey = pubkey) : standing.state ≠ .member := by
  have hkey : row.pubkey = pubkey := Table.key_of_find? hfind
  -- what the operation must have done, since it stopped the session
  have hchanged : (store.step op).sessions.find? pubkey ≠ store.sessions.find? pubkey := by
    rw [hnext, hfind]
    rintro heq
    cases heq
    exact hlive hstopped
  obtain ⟨found, hfound, hrewrites⟩ := step_session op hfind
  rw [hnext, Option.some.injEq] at hfound
  subst hfound
  rcases hrewrites with rfl | hrewrites
  · exact absurd hstopped hlive
  have hends := StoreOp.rewrites_stopped hrewrites hlive hstopped
  rw [hkey] at hends
  let law := fun after : Store => after.sessions.find? pubkey ≠ store.sessions.find? pubkey →
    after.sessionStanding.find? k = some standing → standing.state ≠ .member
  have hrefl : law store := fun hne => absurd rfl hne
  suffices hlaw : law (store.step op) from hlaw hchanged hstanding
  cases hends with
  | stop generation reason stoppedAt =>
      apply commit_invariant (I := law) hrefl
      intro changed after hok hne hafter
      rcases markRuntimeStoppedIfGeneration_spec hok with ⟨rfl, _⟩ | ⟨_, _, hsame⟩
      · simp only [markRuntimeStoppedIfGeneration, bind_eq_ok, updateSessions,
          decide_eq_true_eq] at hok
        obtain ⟨_, _, hok⟩ := hok
        split at hok
        · split at hok
          · cases hok
          · simp only [bind_eq_ok, pure_eq_ok, Prod.mk.injEq] at hok
            obtain ⟨_, hretained, _, rfl⟩ := hok
            exact retainInTransaction_not_member hretained hafter hpubkey
        · simp only [pure_eq_ok, Prod.mk.injEq, reduceCtorEq, false_and] at hok
      · exact absurd (hsame pubkey) hne
  | evict generation stoppingLifecycleEpoch reason stoppedAt =>
      apply commit_invariant (I := law) hrefl
      intro stopped after hok hne hafter
      simp only [finalizeRuntimeStoppedIfEpoch, bind_eq_ok, updateSessions,
        decide_eq_true_eq] at hok
      obtain ⟨_, _, hok⟩ := hok
      split at hok
      · split at hok
        · cases hok
        · simp only [bind_eq_ok, pure_eq_ok, Prod.mk.injEq] at hok
          obtain ⟨_, hretained, _, rfl⟩ := hok
          exact retainInTransaction_not_member hretained hafter hpubkey
      · simp only [pure_eq_ok, Prod.mk.injEq] at hok
        exact absurd (hok.2 ▸ rfl) hne
  | revoke runtimeGeneration now =>
      apply commit_invariant (I := law) hrefl
      intro changed after hok hne hafter
      simp only [finalizeSessionRecoveryRevocation, bind_eq_ok, updateSessions,
        decide_eq_true_eq] at hok
      obtain ⟨_, _, hok⟩ := hok
      split at hok
      · split at hok
        · cases hok
        · simp only [pure_eq_ok, Prod.mk.injEq] at hok
          obtain ⟨_, rfl⟩ := hok
          exact expireStanding_not_member hafter hpubkey
      · simp only [pure_eq_ok, Prod.mk.injEq] at hok
        exact absurd (hok.2 ▸ rfl) hne

end Store

end Mosaico
