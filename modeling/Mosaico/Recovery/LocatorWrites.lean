import Mosaico.Recovery.Authority

/-!
# How each locator operation moves the recovery authority

`LocatorOp.Detaches` names the native locators that an operation takes from
their pubkey without rewriting its session: a put of a value that another pubkey
holds, and two of the three clears.  Every other write moves the two readings of
the authority together.
-/

namespace Mosaico

open Relational Transition

namespace Store

/-- The pubkey has a session that is not revoked. -/
def Unrevoked (store : Store) (pubkey : String) : Prop :=
  store.recoveryOf pubkey ≠ none ∧ store.recoveryOf pubkey ≠ some .revoked

instance (store : Store) (pubkey : String) : Decidable (store.Unrevoked pubkey) :=
  inferInstanceAs (Decidable (_ ∧ _))

/-- A native put by `taker` succeeds and takes the value of `row`. -/
def takesNative (store : Store) (harness locatorValue taker : String) (createdAt : Nat)
    (row : SessionLocator) : Prop :=
  row.key = (harness, locatorNativeResume, locatorValue) ∧ taker ≠ row.pubkey ∧
    store.Unrevoked taker ∧ createdAt ≤ Rust.i64Max

end Store

/-- The operation takes the locator from its pubkey and leaves the session of
that pubkey as it is. -/
def LocatorOp.Detaches (store : Store) (row : SessionLocator) : LocatorOp → Prop
  | .putSessionLocator harness locatorKind locatorValue taker createdAt =>
      locatorKind = locatorNativeResume ∧
        store.takesNative harness locatorValue taker createdAt row
  | .setNativeResumeLocator taker harness nativeResume now =>
      store.takesNative harness nativeResume taker now row
  | .clearRuntimeLocatorIfGeneration pubkey locatorKind runtimeGeneration _ =>
      locatorKind = locatorNativeResume ∧ runtimeGeneration ≤ Rust.i64Max ∧
        row.pubkey = pubkey ∧ row.runtimeGeneration = runtimeGeneration ∧
        store.sessions.Any (fun session =>
          session.pubkey = pubkey ∧ session.observedHarness = row.harness)
  | .clearSessionLocatorKind pubkey harness locatorKind =>
      locatorKind = locatorNativeResume ∧ row.pubkey = pubkey ∧ row.harness = harness
  | _ => False

/-- The operation detaches the native locator of a pubkey whose session is not
revoked. -/
def StoreOp.DetachesNative (store : Store) (pubkey : String) : StoreOp → Prop
  | .locator op => store.Unrevoked pubkey ∧
      store.sessionLocators.Any (fun row => row.isNativeOf pubkey ∧ op.Detaches store row)
  | _ => False

instance (pubkey : String) : DecidablePred (SessionLocator.isNativeOf pubkey) := fun _ =>
  inferInstanceAs (Decidable (_ ∧ _))

instance (store : Store) (harness locatorValue taker : String) (createdAt : Nat) :
    DecidablePred (store.takesNative harness locatorValue taker createdAt) := fun _ =>
  inferInstanceAs (Decidable (_ ∧ _))

instance (store : Store) (op : LocatorOp) :
    DecidablePred (fun row => op.Detaches store row) := fun row =>
  match op with
  | .putSessionLocator _ _ _ _ _ => inferInstanceAs (Decidable (_ ∧ _))
  | .setNativeResumeLocator _ _ _ _ => inferInstanceAs (Decidable (store.takesNative _ _ _ _ row))
  | .claimNativeResumeLocator _ _ _ _ | .clearLocatorKind _ _ => inferInstanceAs (Decidable False)
  | .clearRuntimeLocatorIfGeneration _ _ _ _ => inferInstanceAs (Decidable (_ ∧ _))
  | .clearSessionLocatorKind _ _ _ => inferInstanceAs (Decidable (_ ∧ _))

instance (store : Store) (pubkey : String) (op : StoreOp) :
    Decidable (op.DetachesNative store pubkey) :=
  match op with
  | .lifecycle _ | .inbox _ | .standing _ | .context _ => inferInstanceAs (Decidable False)
  | .locator change =>
      inferInstanceAs (Decidable (_ ∧ Table.Any _ (fun row => _ ∧ change.Detaches store row)))

namespace Store

/-- A step either detaches the locator of `pubkey`, which is all it does to the
authority, or moves both readings together. -/
def AuthorityStep (store : Store) (op : StoreOp) (pubkey : String) (after : Store) : Prop :=
  (op.DetachesNative store pubkey ∧
      Authority.Detached (store.authority pubkey) (after.authority pubkey)) ∨
    (¬ op.DetachesNative store pubkey ∧
      Authority.Move (store.authority pubkey) (after.authority pubkey))

/-! ## Removals -/

variable {store : Store} {pubkey locatorKind : String}

/-- An operation that removes exactly the locators it detaches. -/
theorem authorityStep_of_removal {after : Store} {op : LocatorOp}
    (hunique : store.NativeUnique) (howned : (store.authority pubkey).Owned)
    (hrecovery : after.recoveryOf pubkey = store.recoveryOf pubkey)
    (hnative : after.hasNativeResume pubkey ↔ store.sessionLocators.Any (fun row =>
      row.isNativeOf pubkey ∧ ¬ op.Detaches store row)) :
    store.AuthorityStep (.locator op) pubkey after := by
  by_cases hany : store.sessionLocators.Any (fun row =>
      row.isNativeOf pubkey ∧ op.Detaches store row)
  · obtain ⟨row, hmem, hrow, hdetaches⟩ := hany
    have hbefore : (store.authority pubkey).native = true :=
      decide_eq_true ⟨row, hmem, hrow⟩
    -- the detached row is the only native locator of the pubkey
    have hafter : ¬ after.hasNativeResume pubkey := by
      rw [hnative]
      rintro ⟨other, hother, hotherNative, hkept⟩
      have hsame := hunique pubkey other hother row hmem hotherNative hrow
      exact hkept (hsame ▸ hdetaches)
    have heq : after.authority pubkey = { store.authority pubkey with native := false } := by
      simp [authority, hrecovery, hafter]
    have hsession : store.recoveryOf pubkey ≠ none := by
      intro hnone
      rw [howned hnone] at hbefore
      cases hbefore
    by_cases hrevoked : store.recoveryOf pubkey = some .revoked
    · refine Or.inr ⟨fun hdetach => hdetach.1.2 hrevoked, ?_⟩
      rw [heq, authority, hrevoked]
      exact .forgotten _
    · refine Or.inl ⟨⟨⟨hsession, hrevoked⟩, row, hmem, hrow, hdetaches⟩, ?_, hbefore, heq⟩
      obtain ⟨state, hstate⟩ := Option.ne_none_iff_exists'.mp hsession
      exact ⟨state, hstate, fun heq => hrevoked (heq ▸ hstate)⟩
  · refine Or.inr ⟨fun hdetach => hany hdetach.2, ?_⟩
    have hsame : after.hasNativeResume pubkey ↔ store.hasNativeResume pubkey := by
      rw [hnative]
      constructor
      · rintro ⟨row, hmem, hrow, _⟩
        exact ⟨row, hmem, hrow⟩
      · rintro ⟨row, hmem, hrow⟩
        exact ⟨row, hmem, hrow, fun hdetaches => hany ⟨row, hmem, hrow, hdetaches⟩⟩
    rw [authority_eq hrecovery hsame]
    exact .kept _

/-- An operation that detaches nothing and keeps both readings. -/
theorem authorityStep_of_kept {after : Store} {op : LocatorOp}
    (hdetaches : ∀ row, row.isNativeOf pubkey → ¬ op.Detaches store row)
    (hrecovery : after.recoveryOf pubkey = store.recoveryOf pubkey)
    (hnative : after.hasNativeResume pubkey ↔ store.hasNativeResume pubkey) :
    store.AuthorityStep (.locator op) pubkey after := by
  refine Or.inr ⟨?_, ?_⟩
  · rintro ⟨_, row, _, hrow, hdetach⟩
    exact hdetaches row hrow hdetach
  · rw [authority_eq hrecovery hnative]
    exact .kept _

/-! ## Puts -/

theorem hasNativeResume_markReady (store : Store) (owner pubkey : String) :
    (store.markReady owner).hasNativeResume pubkey ↔ store.hasNativeResume pubkey :=
  hasNativeResume_congr rfl pubkey

theorem unrevoked_iff :
    store.Unrevoked pubkey ↔
      ∃ session, store.getSession pubkey = some session ∧ session.recoveryState ≠ .revoked := by
  unfold Unrevoked recoveryOf getSession
  cases store.sessions.find? pubkey with
  | none | some session => simp

/-- A native put succeeds for every session that is not revoked. -/
theorem commit_putNative (store : Store) (harness locatorValue taker : String)
    (createdAt : Nat) :
    commit (store.putSessionLocator harness locatorNativeResume locatorValue taker createdAt)
        store =
      if store.Unrevoked taker ∧ createdAt ≤ Rust.i64Max then
        (store.writeLocator harness locatorNativeResume locatorValue taker 0 createdAt).markReady
          taker
      else store := by
  split
  · rename_i hput
    obtain ⟨session, hsession, hrevoked⟩ := unrevoked_iff.mp hput.1
    have hok : store.putSessionLocator harness locatorNativeResume locatorValue taker createdAt =
        .ok ((), (store.writeLocator harness locatorNativeResume locatorValue taker 0
          createdAt).markReady taker) := by
      simp only [putSessionLocator, bind_eq_ok]
      refine ⟨(), by simp [validateLocatorKind], ?_⟩
      rw [hsession]
      simp [hrevoked, hput.2, pure, Except.pure]
    rw [hok, commit_ok]
  · rename_i hput
    cases hok : store.putSessionLocator harness locatorNativeResume locatorValue taker
        createdAt with
    | error error => rfl
    | ok result =>
        refine absurd ?_ hput
        obtain ⟨session, hsession, hbound, ⟨_, hrevoked, _⟩ | ⟨hother, _⟩⟩ :=
          putSessionLocator_ok hok
        · exact ⟨unrevoked_iff.mpr ⟨session, hsession, hrevoked⟩, hbound⟩
        · exact absurd rfl hother

/-- A put of another kind leaves the recovery authority alone. -/
theorem putOther_kept (store : Store)
    (hkind : locatorKind ≠ locatorNativeResume) (harness locatorValue taker : String)
    (createdAt : Nat) (pubkey : String) :
    let after := commit (store.putSessionLocator harness locatorKind locatorValue taker createdAt)
      store
    after.recoveryOf pubkey = store.recoveryOf pubkey ∧
      (after.hasNativeResume pubkey ↔ store.hasNativeResume pubkey) := by
  let kept := fun after : Store => after.recoveryOf pubkey = store.recoveryOf pubkey ∧
    (after.hasNativeResume pubkey ↔ store.hasNativeResume pubkey)
  have hwritten : ∀ generation, kept
      (store.writeLocator harness locatorKind locatorValue taker generation createdAt) := by
    intro generation
    refine ⟨rfl, ?_⟩
    rw [hasNativeResume_writeLocator_other (Or.inl hkind)]
    constructor
    · rintro ⟨row, hmem, hrow, _⟩
      exact ⟨row, hmem, hrow⟩
    · rintro ⟨row, hmem, hrow⟩
      refine ⟨row, hmem, hrow, ?_⟩
      intro hkey
      simp only [SessionLocator.key, Prod.mk.injEq] at hkey
      exact hkind (hkey.2.1.symm.trans hrow.2)
  apply commit_invariant (I := kept) ⟨rfl, Iff.rfl⟩
  intro value after hok
  obtain ⟨session, _, _, ⟨hnative, _⟩ | ⟨_, hafter⟩⟩ := putSessionLocator_ok hok
  · exact absurd hnative hkind
  · have hmiddle := hwritten session.runtimeGeneration
    rcases hafter with rfl | rfl
    · refine ⟨?_, hmiddle.2⟩
      rw [recoveryOf_touchIdleRunning]
      exact hmiddle.1
    · exact hmiddle

/-- A native put binds the locator of its own pubkey and may detach that of
another. -/
theorem putNative_authorityStep {op : LocatorOp}
    (hunique : store.NativeUnique) (howned : (store.authority pubkey).Owned)
    (harness locatorValue taker : String) (createdAt : Nat)
    (hdetaches : ∀ row, row.isNativeOf pubkey →
      (op.Detaches store row ↔ store.takesNative harness locatorValue taker createdAt row)) :
    store.AuthorityStep (.locator op) pubkey
      (commit (store.putSessionLocator harness locatorNativeResume locatorValue taker createdAt)
        store) := by
  rw [commit_putNative]
  split
  · rename_i hput
    by_cases htaker : taker = pubkey
    · subst htaker
      refine Or.inr ⟨?_, ?_⟩
      · rintro ⟨_, row, _, hrow, hdetach⟩
        exact ((hdetaches row hrow).mp hdetach).2.1 hrow.1.symm
      · obtain ⟨state, hstate⟩ := Option.ne_none_iff_exists'.mp hput.1.1
        have hrevoked : state ≠ .revoked := fun heq => hput.1.2 (heq ▸ hstate)
        have hafter : ((store.writeLocator harness locatorNativeResume locatorValue taker 0
            createdAt).markReady taker).authority taker = ⟨some .ready, true⟩ := by
          have hnative := hasNativeResume_writeLocator_self store harness locatorValue taker 0
            createdAt
          rw [authority, recoveryOf_markReady, recoveryOf_writeLocator, hstate]
          simp [(hasNativeResume_markReady _ taker taker).mpr hnative]
        rw [hafter, authority, hstate]
        exact .bound state _ hrevoked
    · apply authorityStep_of_removal hunique howned
      · rw [recoveryOf_markReady, recoveryOf_writeLocator]
        simp [htaker]
      · rw [hasNativeResume_markReady, hasNativeResume_writeLocator_other (Or.inr htaker)]
        constructor
        · rintro ⟨row, hmem, hrow, hkey⟩
          exact ⟨row, hmem, hrow, fun hdetach => hkey ((hdetaches row hrow).mp hdetach).1⟩
        · rintro ⟨row, hmem, hrow, hkept⟩
          refine ⟨row, hmem, hrow, fun hkey => hkept ((hdetaches row hrow).mpr ?_)⟩
          exact ⟨hkey, fun heq => htaker (heq.trans hrow.1), hput⟩
  · rename_i hput
    apply authorityStep_of_kept
    · intro row hrow hdetach
      exact hput ((hdetaches row hrow).mp hdetach).2.2
    · rfl
    · exact Iff.rfl

theorem commit_setNativeResumeLocator (store : Store) (pubkey harness nativeResume : String)
    (now : Nat) :
    commit (store.setNativeResumeLocator pubkey harness nativeResume now) store =
      commit (store.putSessionLocator harness locatorNativeResume nativeResume pubkey now)
        store := by
  unfold setNativeResumeLocator
  cases hexists : store.sessionExists pubkey with
  | true => rfl
  | false =>
      have hnone : store.getSession pubkey = none := by
        simpa [sessionExists] using hexists
      simp only [putSessionLocator, hnone]
      cases validateLocatorKind locatorNativeResume <;> rfl

/-- A claim binds a free value and never takes one. -/
theorem claimNative_authorityStep (store : Store) (taker harness nativeResume : String)
    (now : Nat) (pubkey : String) :
    store.AuthorityStep (.locator (.claimNativeResumeLocator taker harness nativeResume now))
      pubkey (commit (store.claimNativeResumeLocator taker harness nativeResume now) store) := by
  have hkept : store.AuthorityStep
      (.locator (.claimNativeResumeLocator taker harness nativeResume now)) pubkey store :=
    authorityStep_of_kept (fun _ _ hdetach => hdetach) rfl Iff.rfl
  apply commit_invariant (I := fun after : Store => store.AuthorityStep
    (.locator (.claimNativeResumeLocator taker harness nativeResume now)) pubkey after) hkept
  intro owner after hok
  obtain ⟨session, hsession, hrevoked, ⟨_, _, _, rfl⟩ | ⟨hfree, _, _, _, rfl⟩⟩ :=
    claimNativeResumeLocator_ok hok
  · exact hkept
  · have hinserted : ∀ row, row ∈ (store.sessionLocators.insertOrIgnore
        ⟨harness, locatorNativeResume, nativeResume, taker, 0, now⟩).rows ↔
          row ∈ store.sessionLocators.rows ∨
            row = ⟨harness, locatorNativeResume, nativeResume, taker, 0, now⟩ :=
      fun row => Table.mem_insertOrIgnore hfree
    by_cases htaker : taker = pubkey
    · subst htaker
      refine Or.inr ⟨fun hdetach => hdetach.2.elim (fun row hrow => hrow.2.2), ?_⟩
      have hstate : store.recoveryOf taker = some session.recoveryState := by
        unfold getSession at hsession
        rw [recoveryOf, hsession, Option.map_some]
      have hbound := Authority.Move.bound session.recoveryState
        (decide (store.hasNativeResume taker)) hrevoked
      convert hbound using 1
      · rw [authority, hstate]
      · rw [authority, recoveryOf_markReady, Authority.mk.injEq]
        refine ⟨?_, decide_eq_true ⟨_, (hinserted _).mpr (Or.inr rfl), rfl, rfl⟩⟩
        show (store.recoveryOf taker).map _ = _
        simp [hstate]
    · apply authorityStep_of_kept
      · exact fun _ _ hdetach => hdetach
      · rw [recoveryOf_markReady]
        show (store.recoveryOf pubkey).map _ = _
        simp [htaker]
      · constructor
        · rintro ⟨row, hmem, hpubkey, hkind⟩
          rcases (hinserted row).mp hmem with hold | rfl
          · exact ⟨row, hold, hpubkey, hkind⟩
          · exact absurd hpubkey htaker
        · rintro ⟨row, hmem, hrow⟩
          exact ⟨row, (hinserted row).mpr (Or.inl hmem), hrow⟩

/-! ## Clears -/

/-- Deleting locators of other kinds keeps the native ones. -/
theorem hasNativeResume_deleteOther {after : Store}
    {cleared : SessionLocator → Prop} [DecidablePred cleared]
    (hafter : after.sessionLocators = store.sessionLocators.deleteWhere cleared)
    (hcleared : ∀ row, row.isNativeOf pubkey → ¬ cleared row) :
    after.hasNativeResume pubkey ↔ store.hasNativeResume pubkey := by
  rw [hasNativeResume, hafter, Table.any_deleteWhere]
  constructor
  · rintro ⟨row, hmem, _, hrow⟩
    exact ⟨row, hmem, hrow⟩
  · rintro ⟨row, hmem, hrow⟩
    exact ⟨row, hmem, hcleared row hrow, hrow⟩

/-- The clear that rewrites the session with the locator. -/
theorem clearLocatorKind_authorityStep {owner : String} (howned : (store.authority pubkey).Owned) :
    store.AuthorityStep (.locator (.clearLocatorKind owner locatorKind)) pubkey
      (commit (store.clearLocatorKind owner locatorKind) store) := by
  have hdetaches : ∀ row, row.isNativeOf pubkey →
      ¬ (LocatorOp.clearLocatorKind owner locatorKind).Detaches store row :=
    fun _ _ hdetach => hdetach
  apply commit_invariant (I := store.AuthorityStep _ pubkey)
  · exact authorityStep_of_kept hdetaches rfl Iff.rfl
  · intro value after hok
    simp only [clearLocatorKind, bind_eq_ok] at hok
    obtain ⟨_, _, hok⟩ := hok
    split at hok
    · rename_i hkind
      simp only [pure_eq_ok, Prod.mk.injEq] at hok
      obtain ⟨_, rfl⟩ := hok
      have hrecovery : recoveryOf { store with
          sessionLocators := store.sessionLocators.deleteWhere
            (fun row => row.pubkey = owner ∧ row.locatorKind = locatorKind)
          sessions := store.sessions.updateWhere
            (fun row => row.pubkey = owner ∧ row.recoveryState = .ready)
            (fun row => { row with recoveryState := .pending }) } pubkey =
          (store.recoveryOf pubkey).map (fun state =>
            if owner = pubkey ∧ state = .ready then .pending else state) := by
        simp only [recoveryOf]
        rw [Table.find?_updateWhere, Option.map_map, Option.map_map]
        cases hfind : store.sessions.find? pubkey with
        | none => rfl
        | some row =>
            have hkey : row.pubkey = pubkey := Table.key_of_find? hfind
            by_cases hready : row.pubkey = owner ∧ row.recoveryState = .ready
            · simp [hready, hkey.symm.trans hready.1]
            · have hnot : ¬ (owner = pubkey ∧ row.recoveryState = .ready) :=
                fun hboth => hready ⟨hkey.trans hboth.1.symm, hboth.2⟩
              simp [hready, hnot]
      by_cases howner : owner = pubkey
      · refine Or.inr ⟨fun hdetach => hdetach.2.elim (fun row hrow => hrow.2.2), ?_⟩
        have hnative : ¬ hasNativeResume { store with
            sessionLocators := store.sessionLocators.deleteWhere
              (fun row => row.pubkey = owner ∧ row.locatorKind = locatorKind)
            sessions := store.sessions.updateWhere
              (fun row => row.pubkey = owner ∧ row.recoveryState = .ready)
              (fun row => { row with recoveryState := .pending }) } pubkey := by
          rw [hasNativeResume, Table.any_deleteWhere]
          rintro ⟨row, _, hkept, hpubkey, hnative⟩
          exact hkept ⟨hpubkey.trans howner.symm, hnative.trans hkind.symm⟩
        rw [authority, authority, hrecovery, decide_eq_false hnative]
        cases hstate : store.recoveryOf pubkey with
        | none =>
            have hbefore : decide (store.hasNativeResume pubkey) = false := howned hstate
            rw [hbefore]
            exact .kept _
        | some state =>
            simp only [Option.map_some, howner, true_and]
            exact .unbound state _
      · apply authorityStep_of_kept hdetaches
        · rw [hrecovery]
          simp [howner]
        · exact hasNativeResume_deleteOther rfl
            (fun row hrow hcleared => howner (hcleared.1.symm.trans hrow.1))
    · rename_i hkind
      simp only [pure_eq_ok, Prod.mk.injEq] at hok
      obtain ⟨_, rfl⟩ := hok
      refine authorityStep_of_kept hdetaches rfl ?_
      exact hasNativeResume_deleteOther rfl
        (fun row hrow hcleared => hkind (hcleared.2.symm.trans hrow.2))

/-- The generation-guarded clear removes a native locator silently. -/
theorem clearRuntimeLocator_authorityStep {owner : String} {runtimeGeneration now : Nat}
    (hunique : store.NativeUnique) (howned : (store.authority pubkey).Owned) :
    store.AuthorityStep
      (.locator (.clearRuntimeLocatorIfGeneration owner locatorKind runtimeGeneration now))
      pubkey (commit (store.clearRuntimeLocatorIfGeneration owner locatorKind runtimeGeneration
        now) store) := by
  cases hok : store.clearRuntimeLocatorIfGeneration owner locatorKind runtimeGeneration now with
  | error error =>
      refine authorityStep_of_kept ?_ rfl Iff.rfl
      -- a native clear fails only on a generation that cannot be bound
      rintro row _ ⟨hkind, hbound, _⟩
      simp only [clearRuntimeLocatorIfGeneration, hkind] at hok
      rw [show validateLocatorKind locatorNativeResume = .ok () by decide,
        show bindParams [runtimeGeneration] = .ok () by simp [hbound]] at hok
      simp only [bind, Except.bind, show isDeliveryKind locatorNativeResume = false by decide,
        Bool.false_eq_true, and_false, if_false] at hok
      cases hok
  | ok result =>
      simp only [clearRuntimeLocatorIfGeneration, bind_eq_ok, bindParams_eq_ok,
        List.mem_singleton, forall_eq] at hok
      obtain ⟨_, _, _, hbound, hok⟩ := hok
      by_cases hkind : locatorKind = locatorNativeResume
      · subst hkind
        rw [if_neg (fun hdelivery => by simp [isDeliveryKind, locatorNativeResume, locatorPty,
          locatorAcp, locatorAppServer] at hdelivery)] at hok
        simp only [pure_eq_ok] at hok
        rw [← hok, commit_ok]
        refine authorityStep_of_removal hunique howned rfl ?_
        rw [hasNativeResume, Table.any_deleteWhere]
        constructor
        · rintro ⟨row, hmem, hkept, hrow⟩
          refine ⟨row, hmem, hrow, ?_⟩
          rintro ⟨_, _, hpubkey, hgeneration, hharness⟩
          exact hkept ⟨hpubkey, hrow.2, hgeneration, hharness⟩
        · rintro ⟨row, hmem, hrow, hkept⟩
          refine ⟨row, hmem, ?_, hrow⟩
          rintro ⟨hpubkey, _, hgeneration, hharness⟩
          exact hkept ⟨rfl, hbound, hpubkey, hgeneration, hharness⟩
      · have hother : ∀ row : SessionLocator, row.isNativeOf pubkey →
            ¬ (row.pubkey = owner ∧ row.locatorKind = locatorKind ∧
              row.runtimeGeneration = runtimeGeneration ∧
              store.sessions.Any (fun session =>
                session.pubkey = owner ∧ session.observedHarness = row.harness)) :=
          fun row hrow hcleared => hkind (hcleared.2.1.symm.trans hrow.2)
        have hdetaches : ∀ row, row.isNativeOf pubkey → ¬ (LocatorOp.Detaches store row
            (.clearRuntimeLocatorIfGeneration owner locatorKind runtimeGeneration now)) :=
          fun _ _ hdetach => hkind hdetach.1
        split at hok
        · simp only [bind_eq_ok, pure_eq_ok] at hok
          obtain ⟨_, _, hok⟩ := hok
          rw [← hok, commit_ok]
          apply authorityStep_of_kept hdetaches
          · rw [recoveryOf_touchIdleRunning]
            rfl
          · exact hasNativeResume_deleteOther rfl hother
        · simp only [pure_eq_ok] at hok
          rw [← hok, commit_ok]
          exact authorityStep_of_kept hdetaches rfl (hasNativeResume_deleteOther rfl hother)

theorem clearSessionLocatorKind_authorityStep
    {owner harness : String} (hunique : store.NativeUnique)
    (howned : (store.authority pubkey).Owned) :
    store.AuthorityStep (.locator (.clearSessionLocatorKind owner harness locatorKind)) pubkey
      (commit (store.clearSessionLocatorKind owner harness locatorKind) store) := by
  cases hok : store.clearSessionLocatorKind owner harness locatorKind with
  | error error =>
      refine authorityStep_of_kept ?_ rfl Iff.rfl
      rintro row _ ⟨hkind, _⟩
      rw [clearSessionLocatorKind, hkind,
        show validateLocatorKind locatorNativeResume = .ok () by decide] at hok
      cases hok
  | ok result =>
      simp only [clearSessionLocatorKind, bind_eq_ok, pure_eq_ok] at hok
      obtain ⟨_, _, hok⟩ := hok
      rw [← hok, commit_ok]
      refine authorityStep_of_removal hunique howned rfl ?_
      rw [hasNativeResume, Table.any_deleteWhere]
      constructor
      · rintro ⟨row, hmem, hkept, hrow⟩
        refine ⟨row, hmem, hrow, ?_⟩
        rintro ⟨hkind, hpubkey, hharness⟩
        exact hkept ⟨hpubkey, hharness, hrow.2.trans hkind.symm⟩
      · rintro ⟨row, hmem, hrow, hkept⟩
        refine ⟨row, hmem, ?_, hrow⟩
        rintro ⟨hpubkey, hharness, hkind⟩
        exact hkept ⟨hkind.symm.trans hrow.2, hpubkey, hharness⟩

/-! ## Every locator operation -/

theorem locatorStep_authorityStep (op : LocatorOp)
    (hunique : store.NativeUnique) (howned : (store.authority pubkey).Owned) :
    store.AuthorityStep (.locator op) pubkey (store.locatorStep op) := by
  cases op with
  | putSessionLocator harness locatorKind locatorValue taker createdAt =>
      by_cases hkind : locatorKind = locatorNativeResume
      · subst hkind
        apply putNative_authorityStep hunique howned
        intro row _
        simp [LocatorOp.Detaches]
      · have hkept := putOther_kept store hkind harness locatorValue taker createdAt pubkey
        apply authorityStep_of_kept
        · exact fun _ _ hdetach => hkind hdetach.1
        · exact hkept.1
        · exact hkept.2
  | setNativeResumeLocator taker harness nativeResume now =>
      rw [locatorStep, commit_setNativeResumeLocator]
      exact putNative_authorityStep hunique howned _ _ _ _ (fun _ _ => Iff.rfl)
  | claimNativeResumeLocator taker harness nativeResume now =>
      exact claimNative_authorityStep store taker harness nativeResume now pubkey
  | clearLocatorKind owner locatorKind => exact clearLocatorKind_authorityStep howned
  | clearRuntimeLocatorIfGeneration owner locatorKind runtimeGeneration now =>
      exact clearRuntimeLocator_authorityStep hunique howned
  | clearSessionLocatorKind owner harness locatorKind =>
      exact clearSessionLocatorKind_authorityStep hunique howned

end Store

end Mosaico
