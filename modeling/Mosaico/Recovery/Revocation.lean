import Mosaico.Recovery.Readiness
import Mosaico.Standing.Rows

/-!
# Revocation is final

Recovery authority is checked in four places: the reservation of a generation,
the commit of a relay admission, the write of a native resume locator and the
activation of a remote actor.  Together they make the revoked state absorbing:
whatever operation follows, the session stays revoked at its generation and
nothing new is granted to its pubkey.

The second half is about repetition.  A finalized revocation has removed what it
removes, so that doing it again moves only epochs and timestamps.
-/

namespace Mosaico

open Relational Transition

/-- The row is a membership of the pubkey. -/
def SessionStanding.isMemberOf (pubkey : String) (row : SessionStanding) : Prop :=
  row.pubkey = pubkey ∧ row.state = .member

namespace Store

/-- The session of the pubkey is revoked, and this is its last generation. -/
def RevokedAt (store : Store) (pubkey : String) (generation : Nat) : Prop :=
  ∃ row, store.sessions.find? pubkey = some row ∧ row.recoveryState = .revoked ∧
    row.runtimeGeneration = generation

/-- Nothing new is granted to the pubkey. -/
structure GrantsNothing (pubkey : String) (before after : Store) : Prop where
  members : Table.AddsNo (SessionStanding.isMemberOf pubkey) before.sessionStanding
    after.sessionStanding
  natives : Table.AddsNo (SessionLocator.isNativeOf pubkey) before.sessionLocators
    after.sessionLocators

variable {store : Store} {pubkey other : String} {generation : Nat}

theorem RevokedAt.recoveryOf
    (hrevoked : store.RevokedAt pubkey generation) : store.recoveryOf pubkey = some .revoked := by
  obtain ⟨row, hfind, hrow, _⟩ := hrevoked
  rw [Store.recoveryOf, hfind, Option.map_some, hrow]

theorem RevokedAt.not_unrevoked
    (hrevoked : store.RevokedAt pubkey generation) : ¬ store.Unrevoked pubkey :=
  fun hunrevoked => hunrevoked.2 hrevoked.recoveryOf

/-- A session row that is not revoked belongs to another pubkey. -/
theorem RevokedAt.ne_of_not_revoked {row : Session} (hrevoked : store.RevokedAt pubkey generation)
    (hfind : store.sessions.find? other = some row) (hrow : row.recoveryState ≠ .revoked) :
    other ≠ pubkey := by
  rintro rfl
  obtain ⟨found, hfound, hstate, _⟩ := hrevoked
  rw [hfind] at hfound
  cases hfound
  exact hrow hstate

/-! ## The session row -/

theorem locatorStep_recoveryOf (hrevoked : store.RevokedAt pubkey generation) (op : LocatorOp) :
    (store.locatorStep op).recoveryOf pubkey = some .revoked := by
  have hput : ∀ harness locatorKind locatorValue taker createdAt,
      (commit (store.putSessionLocator harness locatorKind locatorValue taker createdAt)
        store).recoveryOf pubkey = some .revoked := by
    intro harness locatorKind locatorValue taker createdAt
    by_cases hkind : locatorKind = locatorNativeResume
    · rw [hkind, commit_putNative]
      split
      · rename_i hunrevoked
        have htaker : taker ≠ pubkey := by
          rintro rfl
          exact hrevoked.not_unrevoked hunrevoked.1
        rw [recoveryOf_markReady, recoveryOf_writeLocator, hrevoked.recoveryOf]
        simp [htaker]
      · exact hrevoked.recoveryOf
    · rw [(putOther_kept store hkind harness locatorValue taker createdAt pubkey).1]
      exact hrevoked.recoveryOf
  let kept := fun after : Store => after.recoveryOf pubkey = some .revoked
  cases op with
  | putSessionLocator harness locatorKind locatorValue taker createdAt => exact hput _ _ _ _ _
  | setNativeResumeLocator taker harness nativeResume now =>
      rw [locatorStep, commit_setNativeResumeLocator]
      exact hput _ _ _ _ _
  | claimNativeResumeLocator taker harness nativeResume now =>
      apply commit_invariant (I := kept) hrevoked.recoveryOf
      intro owner after hok
      obtain ⟨session, hsession, hstate, ⟨_, _, _, rfl⟩ | ⟨_, _, _, _, rfl⟩⟩ :=
        claimNativeResumeLocator_ok hok
      · exact hrevoked.recoveryOf
      · have htaker : taker ≠ pubkey := hrevoked.ne_of_not_revoked hsession hstate
        have hkept := hrevoked.recoveryOf
        show (Store.markReady _ taker).recoveryOf pubkey = some .revoked
        rw [recoveryOf_markReady]
        simp only [htaker, if_false, Option.map_id']
        exact hkept
  | clearLocatorKind owner locatorKind =>
      apply commit_invariant (I := kept) hrevoked.recoveryOf
      intro value after hok
      simp only [clearLocatorKind, bind_eq_ok] at hok
      obtain ⟨_, _, hok⟩ := hok
      split at hok
      · simp only [pure_eq_ok, Prod.mk.injEq] at hok
        obtain ⟨_, rfl⟩ := hok
        obtain ⟨row, hfind, hrow, _⟩ := hrevoked
        have hkept : (store.sessions.updateWhere
            (fun row => row.pubkey = owner ∧ row.recoveryState = .ready)
            (fun row => { row with recoveryState := .pending })).find? pubkey = some row := by
          rw [Table.find?_updateWhere, hfind, Option.map_some, if_neg]
          rintro ⟨_, hready⟩
          rw [hrow] at hready
          cases hready
        show ((Table.find? _ pubkey).map Session.recoveryState) = some .revoked
        rw [hkept, Option.map_some, hrow]
      · simp only [pure_eq_ok, Prod.mk.injEq] at hok
        obtain ⟨_, rfl⟩ := hok
        exact hrevoked.recoveryOf
  | clearRuntimeLocatorIfGeneration owner locatorKind runtimeGeneration now =>
      apply commit_invariant (I := kept) hrevoked.recoveryOf
      intro removed after hok
      simp only [clearRuntimeLocatorIfGeneration, bind_eq_ok] at hok
      obtain ⟨_, _, _, _, hok⟩ := hok
      split at hok
      · simp only [bind_eq_ok, pure_eq_ok, Prod.mk.injEq] at hok
        obtain ⟨_, _, _, rfl⟩ := hok
        show (touchIdleRunning _ _ _ _).recoveryOf pubkey = some .revoked
        rw [recoveryOf_touchIdleRunning]
        exact hrevoked.recoveryOf
      · simp only [pure_eq_ok, Prod.mk.injEq] at hok
        obtain ⟨_, rfl⟩ := hok
        exact hrevoked.recoveryOf
  | clearSessionLocatorKind owner harness locatorKind =>
      apply commit_invariant (I := kept) hrevoked.recoveryOf
      intro value after hok
      simp only [clearSessionLocatorKind, bind_eq_ok, pure_eq_ok, Prod.mk.injEq] at hok
      obtain ⟨_, _, _, rfl⟩ := hok
      exact hrevoked.recoveryOf

/-- A revoked row keeps its generation under every rewrite. -/
theorem revoked_runtimeGeneration {row next : Session} {op : StoreOp}
    (hrevoked : row.recoveryState = .revoked) (hop : op.Rewrites store row next) :
    next.runtimeGeneration = row.runtimeGeneration := by
  by_contra hnew
  obtain ⟨_, ⟨r, facts, rfl, _⟩ | ⟨actorKey, now, rfl⟩⟩ :=
    StoreOp.rewrites_runtimeGeneration hop hnew
  · exact hop.2.2.1 hrevoked
  · exact hop.2.2.1 hrevoked

/-- A revoked session stays revoked, at the same generation. -/
theorem step_revokedAt (hrevoked : store.RevokedAt pubkey generation) (op : StoreOp) :
    (store.step op).RevokedAt pubkey generation := by
  have hkept := hrevoked
  obtain ⟨row, hfind, hrow, hgeneration⟩ := hrevoked
  have hchange := step_sessionChange store op pubkey
  generalize hresult : (store.step op).sessions.find? pubkey = result at hchange
  cases hchange with
  | kept => exact ⟨row, hresult.trans hfind, hrow, hgeneration⟩
  | rewritten old next hold hrewrites =>
      rw [hfind] at hold
      cases hold
      refine ⟨next, hresult, ?_, ?_⟩
      · by_cases hlocator : ∃ change, op = .locator change
        · obtain ⟨change, rfl⟩ := hlocator
          have hstate := locatorStep_recoveryOf hkept change
          have hnext : ((store.locatorStep change).sessions.find? pubkey).map
              Session.recoveryState = some .revoked := hstate
          have hsame : (store.locatorStep change).sessions.find? pubkey = some next := hresult
          rw [hsame, Option.map_some, Option.some.injEq] at hnext
          exact hnext
        · rcases rewrites_recoveryState (fun change heq => hlocator ⟨change, heq⟩) hrewrites with
            hsame | hstate
          · exact hsame.trans hrow
          · exact hstate
      · exact (revoked_runtimeGeneration hrow hrewrites).trans hgeneration
  | created next hfree hkey hcreates =>
      rw [hfind] at hfree
      cases hfree

/-! ## Memberships -/

theorem addsNo_of_rowChange {before after : Store} {op : StoreOp} (pubkey : String)
    (hchange : ∀ k, RowChange op (before.sessionStanding.find? k)
      (after.sessionStanding.find? k)) :
    Table.AddsNo (SessionStanding.isMemberOf pubkey) before.sessionStanding
      after.sessionStanding := by
  intro row hrow hmember
  have hkey := hchange row.key
  rw [Table.mem_rows_iff.mp hrow] at hkey
  generalize hfind : before.sessionStanding.find? row.key = found at hkey
  cases hkey with
  | kept => exact Table.mem_of_find? hfind
  | absent before next hbefore hnext =>
      have hstate := hmember.2
      rw [hnext] at hstate
      cases hstate
  | retained | expired => cases hmember.2

theorem upsertMember_addsNo (hother : other ≠ pubkey)
    (channelH : String) (lifecycleEpoch now : Nat) :
    Table.AddsNo (SessionStanding.isMemberOf pubkey) store.sessionStanding
      (store.upsertMember other channelH lifecycleEpoch now).sessionStanding := by
  apply Table.AddsNo.upsert (.refl _ _)
  · exact fun hmember => hother hmember.1
  · rintro old hold hmember
    simp only [SessionStanding.key, Prod.mk.injEq] at hold
    exact hother (hold.1.symm.trans hmember.1)

theorem scheduleCleanup_addsNo {after : Store} {channelH : String}
    {lifecycleEpoch now : Nat} {outcome : PendingAdmissionOutcome} (pubkey : String)
    (hok : store.scheduleCleanupInTransaction other channelH lifecycleEpoch now =
      .ok (outcome, after)) :
    Table.AddsNo (SessionStanding.isMemberOf pubkey) store.sessionStanding
      after.sessionStanding := by
  unfold scheduleCleanupInTransaction at hok
  split at hok
  · simp only [pure_eq_ok, Prod.mk.injEq] at hok
    exact hok.2 ▸ .refl _ _
  · simp only [bind_eq_ok, pure_eq_ok, Prod.mk.injEq] at hok
    obtain ⟨_, _, _, rfl⟩ := hok
    apply Table.AddsNo.upsert (.refl _ _)
    · intro hmember
      cases hmember.2
    · intro old _ hmember
      cases hmember.2

theorem retainInTransaction_addsNo {after : Store}
    {lifecycleEpoch retainUntil now : Nat} (pubkey : String)
    (hok : store.retainInTransaction other lifecycleEpoch retainUntil now = .ok after) :
    Table.AddsNo (SessionStanding.isMemberOf pubkey) store.sessionStanding
      after.sessionStanding := by
  simp only [retainInTransaction, bind_eq_ok, pure_eq_ok] at hok
  obtain ⟨_, _, rfl⟩ := hok
  have hinitialized : Table.AddsNo (SessionStanding.isMemberOf pubkey) store.sessionStanding
      (store.initializeStanding other lifecycleEpoch now).sessionStanding := by
    apply Table.AddsNo.insertAllOrIgnore (.refl _ _)
    intro row hrow hmember
    obtain ⟨route, _, rfl⟩ := List.mem_map.mp hrow
    cases hmember.2
  apply hinitialized.updateWhere
  · intro row _ hmember
    cases hmember.2
  · exact fun _ => rfl

/-- No operation writes a membership of a revoked pubkey. -/
theorem step_addsNoMember (hrevoked : store.RevokedAt pubkey generation) (op : StoreOp) :
    Table.AddsNo (SessionStanding.isMemberOf pubkey) store.sessionStanding
      (store.step op).sessionStanding := by
  -- Outside the lane a step writes no member row; inside it the guards name the running session.
  by_cases hlane : op.inLane = false
  · exact addsNo_of_rowChange pubkey (store.step_rowChange hlane)
  let kept := fun after : Store => Table.AddsNo (SessionStanding.isMemberOf pubkey)
    store.sessionStanding after.sessionStanding
  have hrefl : kept store := .refl _ _
  cases op with
  | standing op =>
      cases op with
      | revokeRouteAndMarkAbsent other channelH now =>
          apply commit_invariant (I := kept) hrefl
          intro removed after hok
          simp only [revokeRouteAndMarkAbsent, revokeSessionRoute, bind_eq_ok, pure_eq_ok] at hok
          obtain ⟨_, _, _, rfl, hok⟩ := hok
          split at hok
          · simp only [pure_eq_ok, Prod.mk.injEq] at hok
            exact hok.2 ▸ hrefl
          · simp only [pure_eq_ok, Prod.mk.injEq] at hok
            obtain ⟨_, rfl⟩ := hok
            apply Table.AddsNo.upsert hrefl
            · intro hmember
              cases hmember.2
            · intro old _ hmember
              cases hmember.2
      | commitConfirmedSessionAdmission other channelH runtimeGeneration lifecycleEpoch now =>
          apply commit_invariant (I := kept) hrefl
          intro answer after hok
          simp only [commitConfirmedSessionAdmission, bind_eq_ok] at hok
          obtain ⟨_, _, hok⟩ := hok
          split at hok
          · rename_i howns
            obtain ⟨session, hfind, _, _, _, hstate⟩ := Table.any_key_iff.mp howns
            -- the guard wants a session that is not revoked
            have hother : other ≠ pubkey := hrevoked.ne_of_not_revoked hfind hstate
            simp only [bind_eq_ok, pure_eq_ok, Prod.mk.injEq] at hok
            obtain ⟨_, _, _, rfl⟩ := hok
            exact upsertMember_addsNo hother channelH lifecycleEpoch now
          · simp only [bind_eq_ok] at hok
            obtain ⟨_, hcleanup, hfinish⟩ := hok
            rw [finishAdmissionOutcome_store hfinish]
            exact scheduleCleanup_addsNo pubkey hcleanup
      | scheduleConfirmedAdmissionCleanup other channelH runtimeGeneration lifecycleEpoch now =>
          apply commit_invariant (I := kept) hrefl
          intro answer after hok
          simp only [scheduleConfirmedAdmissionCleanup, bind_eq_ok] at hok
          obtain ⟨_, _, hok⟩ := hok
          split at hok
          · simp only [pure_eq_ok, Prod.mk.injEq] at hok
            exact hok.2 ▸ hrefl
          · simp only [bind_eq_ok] at hok
            obtain ⟨_, hcleanup, hfinish⟩ := hok
            rw [finishAdmissionOutcome_store hfinish]
            exact scheduleCleanup_addsNo pubkey hcleanup
      | markSessionStandingMemberIfRunning other channelH expectedLifecycleEpoch now =>
          apply commit_invariant (I := kept) hrefl
          intro epoch after hok
          simp only [markSessionStandingMemberIfRunning, bind_eq_ok] at hok
          obtain ⟨_, _, hok⟩ := hok
          split at hok
          · rename_i hrunning
            obtain ⟨session, hfind, _, _, hstate⟩ := Table.any_key_iff.mp hrunning
            have hother : other ≠ pubkey := hrevoked.ne_of_not_revoked hfind hstate
            split at hok
            · simp only [pure_eq_ok, Prod.mk.injEq] at hok
              obtain ⟨_, rfl⟩ := hok
              exact upsertMember_addsNo hother channelH expectedLifecycleEpoch now
            · cases hok
          · simp only [pure_eq_ok, Prod.mk.injEq] at hok
            exact hok.2 ▸ hrefl
      | retainStoppedSessionRoutes other expectedLifecycleEpoch retainUntil now =>
          apply commit_invariant (I := kept) hrefl
          intro rows after hok
          simp only [retainStoppedSessionRoutes, bind_eq_ok] at hok
          obtain ⟨_, _, hok⟩ := hok
          split at hok
          · simp only [bind_eq_ok, pure_eq_ok, Prod.mk.injEq] at hok
            obtain ⟨_, hretained, _, rfl⟩ := hok
            exact retainInTransaction_addsNo pubkey hretained
          · simp only [pure_eq_ok, Prod.mk.injEq] at hok
            exact hok.2 ▸ hrefl
      | markSessionStandingAbsentIfEpoch other channelH expectedState standingEpoch
          sessionLifecycleEpoch now =>
          apply commit_invariant (I := kept) hrefl
          intro changed after hok
          simp only [markSessionStandingAbsentIfEpoch, bind_eq_ok, pure_eq_ok,
            Prod.mk.injEq] at hok
          obtain ⟨_, _, _, rfl⟩ := hok
          apply Table.AddsNo.updateWhere hrefl
          · intro row _ hmember
            cases hmember.2
          · exact fun _ => rfl
      | grantSessionRoute | revokeSessionRoute => exact absurd rfl hlane
  | lifecycle op | inbox op | locator op | context op => exact absurd rfl hlane

/-! ## Native resume locators -/

theorem writeLocator_addsNo {taker locatorKind : String}
    (hother : locatorKind ≠ locatorNativeResume ∨ taker ≠ pubkey)
    (harness locatorValue : String) (locatorGeneration createdAt : Nat) :
    Table.AddsNo (SessionLocator.isNativeOf pubkey) store.sessionLocators
      (store.writeLocator harness locatorKind locatorValue taker locatorGeneration
        createdAt).sessionLocators := by
  intro row hrow hnative
  rcases mem_writeLocator.mp hrow with rfl | ⟨hold, _, _⟩
  · rcases hother with hkind | htaker
    · exact absurd hnative.2 hkind
    · exact absurd hnative.1 htaker
  · exact hold

theorem putSessionLocator_addsNo (hrevoked : store.RevokedAt pubkey generation)
    (harness locatorKind locatorValue taker : String) (createdAt : Nat) :
    Table.AddsNo (SessionLocator.isNativeOf pubkey) store.sessionLocators
      (commit (store.putSessionLocator harness locatorKind locatorValue taker createdAt)
        store).sessionLocators := by
  by_cases hkind : locatorKind = locatorNativeResume
  · rw [hkind, commit_putNative]
    split
    · rename_i hunrevoked
      have htaker : taker ≠ pubkey := by
        rintro rfl
        exact hrevoked.not_unrevoked hunrevoked.1
      exact writeLocator_addsNo (Or.inr htaker) harness locatorValue 0 createdAt
    · exact .refl _ _
  · let kept := fun after : Store => Table.AddsNo (SessionLocator.isNativeOf pubkey)
      store.sessionLocators after.sessionLocators
    have hwritten : ∀ locatorGeneration, kept
        (store.writeLocator harness locatorKind locatorValue taker locatorGeneration createdAt) :=
      fun locatorGeneration =>
        writeLocator_addsNo (Or.inl hkind) harness locatorValue locatorGeneration createdAt
    apply commit_invariant (I := kept) (.refl _ _)
    intro value after hok
    obtain ⟨session, _, _, ⟨hnative, _⟩ | ⟨_, rfl | rfl⟩⟩ := putSessionLocator_ok hok
    · exact absurd hnative hkind
    · exact hwritten session.runtimeGeneration
    · exact hwritten session.runtimeGeneration

/-- No operation creates a native resume locator of a revoked pubkey. -/
theorem step_addsNoNative (hrevoked : store.RevokedAt pubkey generation) (op : StoreOp) :
    Table.AddsNo (SessionLocator.isNativeOf pubkey) store.sessionLocators
      (store.step op).sessionLocators := by
  by_cases hlocator : ∃ change, op = .locator change
  · obtain ⟨change, rfl⟩ := hlocator
    let kept := fun after : Store => Table.AddsNo (SessionLocator.isNativeOf pubkey)
      store.sessionLocators after.sessionLocators
    have hrefl : kept store := .refl _ _
    cases change with
    | putSessionLocator harness locatorKind locatorValue taker createdAt =>
        exact putSessionLocator_addsNo hrevoked _ _ _ _ _
    | setNativeResumeLocator taker harness nativeResume now =>
        show kept (commit (store.setNativeResumeLocator taker harness nativeResume now) store)
        rw [commit_setNativeResumeLocator]
        exact putSessionLocator_addsNo hrevoked _ _ _ _ _
    | claimNativeResumeLocator taker harness nativeResume now =>
        apply commit_invariant (I := kept) hrefl
        intro owner after hok
        obtain ⟨session, hsession, hstate, ⟨_, _, _, rfl⟩ | ⟨_, _, _, _, rfl⟩⟩ :=
          claimNativeResumeLocator_ok hok
        · exact hrefl
        · have htaker : taker ≠ pubkey := hrevoked.ne_of_not_revoked hsession hstate
          exact hrefl.insertOrIgnore (fun hnative => htaker hnative.1)
    | clearLocatorKind owner locatorKind =>
        exact commit_invariant (I := kept) hrefl
          (fun _ _ hok => .of_subset (clearLocatorKind_subset hok))
    | clearRuntimeLocatorIfGeneration owner locatorKind runtimeGeneration now =>
        exact commit_invariant (I := kept) hrefl
          (fun _ _ hok => .of_subset (clearRuntimeLocatorIfGeneration_subset hok))
    | clearSessionLocatorKind owner harness locatorKind =>
        exact commit_invariant (I := kept) hrefl
          (fun _ _ hok => .of_subset (clearSessionLocatorKind_subset hok))
  · rcases step_sessionLocators store (fun change heq => hlocator ⟨change, heq⟩) with
      heq | ⟨owner, _, hdeleted⟩
    · exact .of_eq heq
    · rw [hdeleted]
      exact .of_subset (fun _ hrow => Table.mem_of_mem_deleteWhere hrow)

theorem step_grantsNothing (hrevoked : store.RevokedAt pubkey generation) (op : StoreOp) :
    GrantsNothing pubkey store (store.step op) where
  members := step_addsNoMember hrevoked op
  natives := step_addsNoNative hrevoked op

theorem run_revokedAt (hrevoked : store.RevokedAt pubkey generation) (ops : List StoreOp) :
    (run Store.step store ops).RevokedAt pubkey generation :=
  run_invariant (I := fun state : Store => state.RevokedAt pubkey generation) hrevoked
    (fun _ op hstate => step_revokedAt hstate op) ops

end Store

/-! ## Repetition -/

/-- The rows differ at most in the lifecycle epoch and in timestamps. -/
def Session.SameButClocks (row next : Session) : Prop :=
  next = { row with
    lifecycleEpoch := next.lifecycleEpoch
    stoppedAt := next.stoppedAt
    stateChangedAt := next.stateChangedAt }

/-- The rows differ at most in epochs and timestamps; a retention deadline is a
timestamp. -/
def SessionStanding.SameButClocks (row next : SessionStanding) : Prop :=
  next = { row with
    retainUntil := next.retainUntil
    standingEpoch := next.standingEpoch
    sessionLifecycleEpoch := next.sessionLifecycleEpoch
    updatedAt := next.updatedAt }

def HandleLease.SameButClocks (row next : HandleLease) : Prop :=
  next = { row with lastActiveAt := next.lastActiveAt }

theorem Session.SameButClocks.refl (row : Session) : row.SameButClocks row := rfl

theorem SessionStanding.SameButClocks.refl (row : SessionStanding) : row.SameButClocks row := rfl

theorem HandleLease.SameButClocks.refl (lease : HandleLease) : lease.SameButClocks lease := rfl

/-- The two phases of a revocation of the pubkey, with any generation and time. -/
def StoreOp.RepeatsRevocation (pubkey : String) (op : StoreOp) : Prop :=
  (∃ generation, op = .lifecycle (.revokeSessionRecoveryIfGeneration pubkey generation)) ∨
    ∃ generation now, op = .lifecycle (.finalizeSessionRecoveryRevocation pubkey generation now)

namespace Store

/-- The stores agree up to lifecycle and standing epochs and timestamps. -/
structure SameButClocks (before after : Store) : Prop where
  sessions : before.sessions.RelatedBy Session.SameButClocks after.sessions
  sessionStanding : before.sessionStanding.RelatedBy SessionStanding.SameButClocks
    after.sessionStanding
  handleLeases : before.handleLeases.RelatedBy HandleLease.SameButClocks after.handleLeases
  sessionChannels : after.sessionChannels = before.sessionChannels
  sessionLocators : after.sessionLocators = before.sessionLocators
  sessionSigners : after.sessionSigners = before.sessionSigners
  mcpActorAliases : after.mcpActorAliases = before.mcpActorAliases
  inbox : after.inbox = before.inbox
  eventClaims : after.eventClaims = before.eventClaims

theorem SameButClocks.refl (store : Store) : SameButClocks store store where
  sessions := Table.RelatedBy.refl Session.SameButClocks.refl _
  sessionStanding := Table.RelatedBy.refl SessionStanding.SameButClocks.refl _
  handleLeases := Table.RelatedBy.refl HandleLease.SameButClocks.refl _
  sessionChannels := rfl
  sessionLocators := rfl
  sessionSigners := rfl
  mcpActorAliases := rfl
  inbox := rfl
  eventClaims := rfl

theorem SameButClocks.trans {first second third : Store} (hfirst : SameButClocks first second)
    (hsecond : SameButClocks second third) : SameButClocks first third where
  sessions := by
    refine Table.RelatedBy.trans ?_ hfirst.sessions hsecond.sessions
    rintro row middle next hleft hright
    rw [Session.SameButClocks, hright, hleft]
  sessionStanding := by
    refine Table.RelatedBy.trans ?_ hfirst.sessionStanding hsecond.sessionStanding
    rintro row middle next hleft hright
    rw [SessionStanding.SameButClocks, hright, hleft]
  handleLeases := by
    refine Table.RelatedBy.trans ?_ hfirst.handleLeases hsecond.handleLeases
    rintro row middle next hleft hright
    rw [HandleLease.SameButClocks, hright, hleft]
  sessionChannels := hsecond.sessionChannels.trans hfirst.sessionChannels
  sessionLocators := hsecond.sessionLocators.trans hfirst.sessionLocators
  sessionSigners := hsecond.sessionSigners.trans hfirst.sessionSigners
  mcpActorAliases := hsecond.mcpActorAliases.trans hfirst.mcpActorAliases
  inbox := hsecond.inbox.trans hfirst.inbox
  eventClaims := hsecond.eventClaims.trans hfirst.eventClaims

/-- What a finalized revocation has made of the pubkey. -/
structure RevocationFinalized (store : Store) (pubkey : String) : Prop where
  session : ∃ row, store.sessions.find? pubkey = some row ∧ row.recoveryState = .revoked ∧
    ∃ old stoppedAt, row = Session.stopped old .revoked stoppedAt
  standing : ∀ row ∈ store.sessionStanding.rows, row.pubkey = pubkey → row.state ≠ .member
  leases : ∀ lease ∈ store.handleLeases.rows, lease.pubkey = pubkey → lease.live = false
  channels : ¬ store.sessionChannels.Any (fun row => row.pubkey = pubkey)
  locators : ¬ store.sessionLocators.Any (fun row => row.pubkey = pubkey)
  signers : ¬ store.sessionSigners.Any (fun row => row.pubkey = pubkey)

variable {store : Store} {pubkey : String} {generation : Nat}

/-- The first phase does nothing to a session that is revoked. -/
theorem revoke_of_revokedAt (hrevoked : store.RevokedAt pubkey generation) (named : Nat) :
    store.step (.lifecycle (.revokeSessionRecoveryIfGeneration pubkey named)) = store := by
  obtain ⟨row, hfind, hrow, _⟩ := hrevoked
  show commit (store.revokeSessionRecoveryIfGeneration pubkey named) store = store
  cases hok : store.revokeSessionRecoveryIfGeneration pubkey named with
  | error error => rfl
  | ok result =>
      simp only [revokeSessionRecoveryIfGeneration, bind_eq_ok, pure_eq_ok, updateSessions] at hok
      obtain ⟨_, _, rfl⟩ := hok
      have hsame : store.sessions.updateWhere
          (fun row => row.pubkey = pubkey ∧ row.runtimeGeneration = named)
          (fun row => { row with recoveryState := .revoked }) = store.sessions := by
        apply Table.updateWhere_of_fixed
        rintro other hother ⟨hkey, _⟩
        have hsome : store.sessions.find? pubkey = some other :=
          Table.find?_eq_some_iff.mpr ⟨hother, hkey⟩
        rw [hfind] at hsome
        cases hsome
        rw [← hrow]
      rw [commit_ok, hsame]

theorem finalize_finalized {after : Store} {now : Nat}
    (hok : store.finalizeSessionRecoveryRevocation pubkey generation now = .ok (true, after)) :
    after.RevocationFinalized pubkey := by
  rcases finalize_cases hok with ⟨hchanged, _⟩ |
    ⟨row, lifecycleEpoch, _, hfind, hrevoked, rfl, hgeneration⟩
  · cases hchanged
  have hkey : row.pubkey = pubkey := Table.key_of_find? hfind
  constructor
  · refine ⟨row.stopped .revoked now, ?_, hrevoked, row, now, rfl⟩
    dsimp only [forgetPubkey, expireStanding, initializeStanding, markHandleStoppedAt]
    rw [Table.find?_updateWhere, hfind, Option.map_some]
    exact congrArg some (if_pos ⟨hkey, hgeneration, hrevoked⟩)
  · intro standing hstanding hpubkey
    exact expireStanding_not_member (Table.mem_rows_iff.mp hstanding) hpubkey
  · intro lease hlease hpubkey
    dsimp only [forgetPubkey, expireStanding, initializeStanding, markHandleStoppedAt] at hlease
    simp only [Table.updateWhere, List.mem_map] at hlease
    obtain ⟨old, _, rfl⟩ := hlease
    split
    · rfl
    · rename_i hother
      rw [if_neg hother] at hpubkey
      exact absurd hpubkey hother
  · exact Table.not_any_deleteWhere
  · exact Table.not_any_deleteWhere
  · exact Table.not_any_deleteWhere

/-- Stopping a row that a revocation stopped moves its epoch and timestamps only. -/
theorem stopped_sameButClocks (old : Session) (first second : Nat) :
    (old.stopped .revoked first).SameButClocks
      ((old.stopped .revoked first).stopped .revoked second) := by
  simp [Session.SameButClocks, Session.stopped, Session.interruptedSeconds]

theorem initializeStanding_of_no_routes
    (hroutes : store.routesOf pubkey = []) (lifecycleEpoch now : Nat) :
    store.initializeStanding pubkey lifecycleEpoch now = store := by
  rw [initializeStanding, hroutes]
  rfl

/-- Finalizing again moves epochs and timestamps only. -/
theorem finalize_sameButClocks {after : Store} {now : Nat}
    {changed : Bool} (hfinalized : store.RevocationFinalized pubkey)
    (hok : store.finalizeSessionRecoveryRevocation pubkey generation now = .ok (changed, after)) :
    store.SameButClocks after := by
  rcases finalize_cases hok with ⟨_, rfl⟩ | ⟨row, lifecycleEpoch, _, hfind, _, rfl, _⟩
  · exact .refl _
  obtain ⟨found, hfound, _, old, stoppedAt, hstopped⟩ := hfinalized.session
  rw [hfind, Option.some.injEq] at hfound
  subst hfound
  have hroutes : store.routesOf pubkey = [] := by
    apply List.eq_nil_iff_forall_not_mem.mpr
    intro route hroute
    obtain ⟨hmem, hkey⟩ := Table.mem_select.mp hroute
    exact hfinalized.channels ⟨route, hmem, hkey⟩
  refine ⟨?_, ?_, ?_, ?_, ?_, ?_, rfl, rfl, rfl⟩
  · dsimp only [forgetPubkey, expireStanding, initializeStanding, markHandleStoppedAt]
    apply Table.RelatedBy.updateWhere Session.SameButClocks.refl
    rintro other hother ⟨hkey, _⟩
    have hsame : store.sessions.find? pubkey = some other :=
      Table.find?_eq_some_iff.mpr ⟨hother, hkey⟩
    rw [hfind, Option.some.injEq] at hsame
    subst hsame
    rw [hstopped]
    exact stopped_sameButClocks old stoppedAt now
  · rw [initializeStanding_of_no_routes]
    · dsimp only [forgetPubkey, expireStanding, markHandleStoppedAt]
      apply Table.RelatedBy.updateWhere SessionStanding.SameButClocks.refl
      intro standing hstanding hkey
      have hstate := hfinalized.standing standing hstanding hkey
      cases hcase : standing.state with
      | member => exact absurd hcase hstate
      | absent | retained => simp [SessionStanding.SameButClocks, SessionStanding.rewrite, hcase]
    · exact hroutes
  · dsimp only [forgetPubkey, expireStanding, initializeStanding, markHandleStoppedAt]
    apply Table.RelatedBy.updateWhere HandleLease.SameButClocks.refl
    intro lease hlease hkey
    simp [HandleLease.SameButClocks, hfinalized.leases lease hlease hkey]
  · exact Table.deleteWhere_of_not_any hfinalized.channels
  · exact Table.deleteWhere_of_not_any hfinalized.locators
  · exact Table.deleteWhere_of_not_any hfinalized.signers

theorem RevocationFinalized.revokedAt (hfinalized : store.RevocationFinalized pubkey) :
    ∃ generation, store.RevokedAt pubkey generation := by
  obtain ⟨row, hfind, hrevoked, _⟩ := hfinalized.session
  exact ⟨row.runtimeGeneration, row, hfind, hrevoked, rfl⟩

/-- One repetition keeps a finalized revocation and the store up to its clocks. -/
theorem step_repeats {op : StoreOp}
    (hfinalized : store.RevocationFinalized pubkey) (hop : op.RepeatsRevocation pubkey) :
    (store.step op).RevocationFinalized pubkey ∧ store.SameButClocks (store.step op) := by
  rcases hop with ⟨named, rfl⟩ | ⟨named, now, rfl⟩
  · obtain ⟨generation, hrevoked⟩ := hfinalized.revokedAt
    rw [revoke_of_revokedAt hrevoked named]
    exact ⟨hfinalized, .refl store⟩
  · show (commit (store.finalizeSessionRecoveryRevocation pubkey named now)
      store).RevocationFinalized pubkey ∧ store.SameButClocks (commit
      (store.finalizeSessionRecoveryRevocation pubkey named now) store)
    cases hok : store.finalizeSessionRecoveryRevocation pubkey named now with
    | error error => exact ⟨hfinalized, .refl store⟩
    | ok result =>
        obtain ⟨changed, after⟩ := result
        refine ⟨?_, finalize_sameButClocks hfinalized hok⟩
        cases changed with
        | true => exact finalize_finalized hok
        | false =>
            rcases finalize_cases hok with ⟨_, rfl⟩ | ⟨_, _, htrue, _⟩
            · exact hfinalized
            · cases htrue

theorem run_repeats {repeats : List StoreOp} (hfinalized : store.RevocationFinalized pubkey)
    (hrepeats : ∀ op ∈ repeats, op.RepeatsRevocation pubkey) :
    store.SameButClocks (run Store.step store repeats) := by
  induction repeats generalizing store with
  | nil => exact .refl store
  | cons op rest ih =>
      obtain ⟨hnext, hsame⟩ := step_repeats hfinalized (hrepeats op List.mem_cons_self)
      have hrest := ih hnext (fun later hlater => hrepeats later (List.mem_cons_of_mem op hlater))
      exact hsame.trans hrest

theorem run_revokes {repeats : List StoreOp} (hrevoked : store.RevokedAt pubkey generation)
    (hrepeats : ∀ op ∈ repeats, ∃ named,
      op = .lifecycle (.revokeSessionRecoveryIfGeneration pubkey named)) :
    run Store.step store repeats = store := by
  induction repeats with
  | nil => rfl
  | cons op rest ih =>
      obtain ⟨named, rfl⟩ := hrepeats op List.mem_cons_self
      rw [run_cons, revoke_of_revokedAt hrevoked named]
      exact ih (fun later hlater => hrepeats later (List.mem_cons_of_mem _ hlater))

end Store

/-- In every run, once the session of a pubkey is revoked it stays revoked at its
generation, and no later operation writes a membership or a native resume locator
of the pubkey.  Repeating the revocation changes nothing, and repeating either
phase after the finalization changes only epochs and timestamps. -/
theorem revocation_absorbing (ops later : List StoreOp) (op : StoreOp) {pubkey : String}
    {generation : Nat} (hrevoked : (run Store.step Store.empty ops).RevokedAt pubkey generation) :
    let revoked := run Store.step Store.empty ops
    let before := run Store.step revoked later
    before.RevokedAt pubkey generation ∧
      before.GrantsNothing pubkey (before.step op) ∧
      (∀ repeats : List StoreOp,
        (∀ again ∈ repeats, ∃ named,
          again = .lifecycle (.revokeSessionRecoveryIfGeneration pubkey named)) →
        run Store.step revoked repeats = revoked) ∧
      ∀ named now after,
        revoked.finalizeSessionRecoveryRevocation pubkey named now = .ok (true, after) →
        ∀ repeats : List StoreOp, (∀ again ∈ repeats, again.RepeatsRevocation pubkey) →
          after.SameButClocks (run Store.step after repeats) := by
  intro revoked before
  have hbefore : before.RevokedAt pubkey generation := Store.run_revokedAt hrevoked later
  refine ⟨hbefore, Store.step_grantsNothing hbefore op, ?_, ?_⟩
  · intro repeats hrepeats
    exact Store.run_revokes hrevoked hrepeats
  · intro named now after hok repeats hrepeats
    exact Store.run_repeats (Store.finalize_finalized hok) hrepeats

/-- A session is revoked while an admission of its channel is in flight: the admission
finds nothing to grant. -/
theorem revocation_absorbing_in_flight :
    (run Store.step Store.empty [launchOf "agent" 1,
        .lifecycle (.revokeSessionRecoveryIfGeneration "agent" 1),
        .lifecycle (.finalizeSessionRecoveryRevocation "agent" 1 3)]).RevokedAt "agent" 1 ∧
      Store.GrantsNothing "agent"
        (run Store.step Store.empty [launchOf "agent" 1,
          .lifecycle (.revokeSessionRecoveryIfGeneration "agent" 1),
          .lifecycle (.finalizeSessionRecoveryRevocation "agent" 1 3)])
        (run Store.step Store.empty [launchOf "agent" 1,
          .lifecycle (.revokeSessionRecoveryIfGeneration "agent" 1),
          .lifecycle (.finalizeSessionRecoveryRevocation "agent" 1 3),
          .standing (.commitConfirmedSessionAdmission "agent" "root" 1 1 4)]) := by
  have hrevoked : (run Store.step Store.empty [launchOf "agent" 1,
      .lifecycle (.revokeSessionRecoveryIfGeneration "agent" 1)]).RevokedAt "agent" 1 := by
    refine ⟨_, rfl, ?_, ?_⟩
    · decide
    · decide
  have habsorbed := revocation_absorbing _
    [.lifecycle (.finalizeSessionRecoveryRevocation "agent" 1 3)]
    (.standing (.commitConfirmedSessionAdmission "agent" "root" 1 1 4)) hrevoked
  exact ⟨habsorbed.1, habsorbed.2.1⟩

end Mosaico
