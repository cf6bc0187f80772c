import Mosaico.State.LifecycleFrames
import Mosaico.State.SessionFrames

/-!
# What one operation does to a native resume locator

The recovery of a session is told twice: by the native resume locator of its
pubkey and by the `recovery_state` column.  `Store.recoveryOf` and
`Store.hasNativeResume` are the two readings; the lemmas of this module say how
each statement on locators moves them for an arbitrary pubkey.
-/

namespace Mosaico

open Relational Transition

/-- The row is the native resume locator of the pubkey. -/
def SessionLocator.isNativeOf (pubkey : String) (row : SessionLocator) : Prop :=
  row.pubkey = pubkey ∧ row.locatorKind = locatorNativeResume

namespace Store

/-- The `recovery_state` column of a pubkey. -/
def recoveryOf (store : Store) (pubkey : String) : Option RecoveryState :=
  (store.sessions.find? pubkey).map Session.recoveryState

variable {after store : Store} {locatorKind pubkey : String}

theorem hasNativeResume_congr {before : Store}
    (heq : after.sessionLocators = before.sessionLocators) (pubkey : String) :
    after.hasNativeResume pubkey ↔ before.hasNativeResume pubkey := by
  rw [hasNativeResume, hasNativeResume, heq]

/-- No pubkey owns two native resume locators. -/
def NativeUnique (store : Store) : Prop :=
  ∀ pubkey, ∀ left ∈ store.sessionLocators.rows, ∀ right ∈ store.sessionLocators.rows,
    left.isNativeOf pubkey → right.isNativeOf pubkey → left = right

theorem NativeUnique.of_subset {before : Store} (hunique : before.NativeUnique)
    (hsub : ∀ row ∈ after.sessionLocators.rows, row ∈ before.sessionLocators.rows) :
    after.NativeUnique :=
  fun pubkey left hleft right hright =>
    hunique pubkey left (hsub left hleft) right (hsub right hright)

/-! ## The upsert -/

/-- The upsert stores the given row under its key, whoever held the value
before. -/
theorem find?_writeLocator (store : Store)
    (harness locatorKind locatorValue pubkey : String) (locatorGeneration createdAt : Nat)
    (k : String × String × String) :
    (store.writeLocator harness locatorKind locatorValue pubkey locatorGeneration
        createdAt).sessionLocators.find? k =
      if k = (harness, locatorKind, locatorValue) then
        some ⟨harness, locatorKind, locatorValue, pubkey, locatorGeneration, createdAt⟩
      else (store.sessionLocators.find? k).filter
        (fun row => decide (¬ replacedByPut harness locatorKind pubkey row)) := by
  simp only [writeLocator]
  rw [Table.find?_upsert, Table.find?_deleteWhere]
  by_cases hk : k = (harness, locatorKind, locatorValue)
  · refine (if_pos hk).trans (Eq.trans ?_ (if_pos hk).symm)
    cases hold : (store.sessionLocators.find? k).filter
        (fun row => decide (¬ replacedByPut harness locatorKind pubkey row)) with
    | none => rfl
    | some row =>
        have hfind : store.sessionLocators.find? k = some row :=
          (Option.filter_eq_some_iff.mp hold).1
        have hkey := (Table.key_of_find? hfind).trans hk
        simp only [SessionLocator.key, Prod.mk.injEq] at hkey
        obtain ⟨rfl, rfl, rfl⟩ := hkey
        rfl
  · exact (if_neg hk).trans (if_neg hk).symm

theorem mem_writeLocator {harness locatorValue : String}
    {locatorGeneration createdAt : Nat} {row : SessionLocator} :
    row ∈ (store.writeLocator harness locatorKind locatorValue pubkey locatorGeneration
        createdAt).sessionLocators.rows ↔
      row = ⟨harness, locatorKind, locatorValue, pubkey, locatorGeneration, createdAt⟩ ∨
        (row ∈ store.sessionLocators.rows ∧ ¬ replacedByPut harness locatorKind pubkey row ∧
          row.key ≠ (harness, locatorKind, locatorValue)) := by
  have hold : row ∈ store.sessionLocators.rows ↔
      store.sessionLocators.find? row.key = some row := Table.mem_rows_iff
  rw [Table.mem_rows_iff, find?_writeLocator, hold]
  by_cases hk : row.key = (harness, locatorKind, locatorValue)
  · rw [if_pos hk, Option.some.injEq]
    simp only [hk, ne_eq, not_true_eq_false, and_false, or_false]
    exact eq_comm
  · have hne : row ≠ ⟨harness, locatorKind, locatorValue, pubkey, locatorGeneration,
        createdAt⟩ := by
      rintro rfl
      exact hk rfl
    simp [hk, hne, Option.filter_eq_some_iff]

/-- A native put leaves the pubkey with the written locator only. -/
theorem nativeUnique_writeLocator (hunique : store.NativeUnique)
    (harness locatorKind locatorValue pubkey : String) (locatorGeneration createdAt : Nat) :
    (store.writeLocator harness locatorKind locatorValue pubkey locatorGeneration
      createdAt).NativeUnique := by
  intro owner left hleft right hright hleftNative hrightNative
  rcases mem_writeLocator.mp hleft with rfl | ⟨hleftMem, hleftKept, _⟩
  · rcases mem_writeLocator.mp hright with rfl | ⟨_, hrightKept, _⟩
    · rfl
    · refine absurd ?_ hrightKept
      exact ⟨hrightNative.1.trans hleftNative.1.symm, hrightNative.2.trans hleftNative.2.symm,
        Or.inl hleftNative.2⟩
  · rcases mem_writeLocator.mp hright with rfl | ⟨hrightMem, _, _⟩
    · refine absurd ?_ hleftKept
      exact ⟨hleftNative.1.trans hrightNative.1.symm, hleftNative.2.trans hrightNative.2.symm,
        Or.inl hrightNative.2⟩
    · exact hunique owner left hleftMem right hrightMem hleftNative hrightNative

theorem hasNativeResume_writeLocator_self (store : Store)
    (harness locatorValue pubkey : String) (locatorGeneration createdAt : Nat) :
    (store.writeLocator harness locatorNativeResume locatorValue pubkey locatorGeneration
      createdAt).hasNativeResume pubkey :=
  ⟨_, mem_writeLocator.mpr (Or.inl rfl), rfl, rfl⟩

/-- A put for another pubkey keeps a native locator unless it is the one whose
value is taken. -/
theorem hasNativeResume_writeLocator_other
    {harness locatorValue taker : String} {locatorGeneration createdAt : Nat}
    (hother : locatorKind ≠ locatorNativeResume ∨ taker ≠ pubkey) :
    (store.writeLocator harness locatorKind locatorValue taker locatorGeneration
        createdAt).hasNativeResume pubkey ↔
      store.sessionLocators.Any (fun row => row.isNativeOf pubkey ∧
        row.key ≠ (harness, locatorKind, locatorValue)) := by
  constructor
  · rintro ⟨row, hmem, hpubkey, hkind⟩
    rcases mem_writeLocator.mp hmem with rfl | ⟨hold, _, hkey⟩
    · rcases hother with hne | hne
      · exact absurd hkind hne
      · exact absurd hpubkey hne
    · exact ⟨row, hold, ⟨hpubkey, hkind⟩, hkey⟩
  · rintro ⟨row, hmem, ⟨hpubkey, hkind⟩, hkey⟩
    refine ⟨row, mem_writeLocator.mpr (Or.inr ⟨hmem, ?_, hkey⟩), hpubkey, hkind⟩
    rintro ⟨htaker, hsame, _⟩
    rcases hother with hne | hne
    · exact hne (hsame.symm.trans hkind)
    · exact hne (htaker.symm.trans hpubkey)

/-! ## The clears -/

theorem clearLocatorKind_subset
    {value : Unit} (hok : store.clearLocatorKind pubkey locatorKind = .ok (value, after)) :
    ∀ row ∈ after.sessionLocators.rows, row ∈ store.sessionLocators.rows := by
  simp only [clearLocatorKind, bind_eq_ok] at hok
  obtain ⟨_, _, hok⟩ := hok
  split at hok
  · simp only [pure_eq_ok, Prod.mk.injEq] at hok
    obtain ⟨_, rfl⟩ := hok
    exact fun row hrow => Table.mem_of_mem_deleteWhere hrow
  · simp only [pure_eq_ok, Prod.mk.injEq] at hok
    obtain ⟨_, rfl⟩ := hok
    exact fun row hrow => Table.mem_of_mem_deleteWhere hrow

theorem clearRuntimeLocatorIfGeneration_subset {runtimeGeneration now : Nat} {removed : Bool}
    (hok : store.clearRuntimeLocatorIfGeneration pubkey locatorKind runtimeGeneration now =
      .ok (removed, after)) :
    ∀ row ∈ after.sessionLocators.rows, row ∈ store.sessionLocators.rows := by
  simp only [clearRuntimeLocatorIfGeneration, bind_eq_ok] at hok
  obtain ⟨_, _, _, _, hok⟩ := hok
  split at hok
  · simp only [bind_eq_ok, pure_eq_ok, Prod.mk.injEq] at hok
    obtain ⟨_, _, _, rfl⟩ := hok
    exact fun row hrow => Table.mem_of_mem_deleteWhere hrow
  · simp only [pure_eq_ok, Prod.mk.injEq] at hok
    obtain ⟨_, rfl⟩ := hok
    exact fun row hrow => Table.mem_of_mem_deleteWhere hrow

theorem clearSessionLocatorKind_subset {harness : String} {value : Unit}
    (hok : store.clearSessionLocatorKind pubkey harness locatorKind = .ok (value, after)) :
    ∀ row ∈ after.sessionLocators.rows, row ∈ store.sessionLocators.rows := by
  simp only [clearSessionLocatorKind, bind_eq_ok, pure_eq_ok, Prod.mk.injEq] at hok
  obtain ⟨_, _, _, rfl⟩ := hok
  exact fun row hrow => Table.mem_of_mem_deleteWhere hrow

/-! ## The recovery column -/

theorem recoveryOf_markReady (store : Store) (owner pubkey : String) :
    (store.markReady owner).recoveryOf pubkey =
      (store.recoveryOf pubkey).map (fun state => if owner = pubkey then .ready else state) := by
  simp only [recoveryOf, markReady]
  rw [Table.find?_updateWhere, Option.map_map, Option.map_map]
  cases hfind : store.sessions.find? pubkey with
  | none => rfl
  | some row =>
      have hkey : row.pubkey = pubkey := Table.key_of_find? hfind
      by_cases howner : owner = pubkey
      · simp [hkey, howner]
      · have hne : ¬ row.pubkey = owner := fun heq => howner (heq.symm.trans hkey)
        simp [hne, howner]

@[simp] theorem recoveryOf_touchIdleRunning (store : Store) (owner pubkey : String)
    (generation instant : Nat) :
    (store.touchIdleRunning owner generation instant).recoveryOf pubkey =
      store.recoveryOf pubkey := by
  simp only [recoveryOf, touchIdleRunning]
  exact Table.map_find?_updateWhere Session.recoveryState pubkey (fun _ _ => rfl)

theorem recoveryOf_writeLocator (store : Store)
    (harness locatorKind locatorValue taker pubkey : String) (locatorGeneration createdAt : Nat) :
    (store.writeLocator harness locatorKind locatorValue taker locatorGeneration
      createdAt).recoveryOf pubkey = store.recoveryOf pubkey := rfl

/-- An operation that is no locator operation keeps the recovery state of a
session or revokes it. -/
theorem rewrites_recoveryState {row next : Session} {op : StoreOp}
    (hlocator : ∀ change, op ≠ .locator change) (hop : op.Rewrites store row next) :
    next.recoveryState = row.recoveryState ∨ next.recoveryState = .revoked := by
  cases op with
  | lifecycle op =>
      cases op with
      | reserveSessionWithFacts r facts | finalizeSessionRecoveryRevocation | activateMcpActor =>
          exact Or.inl (by rw [hop.2.2.2]; rfl)
      | applySessionPresentationEdge | applySessionTurnStarted
      | cancelSessionIdleDeadlineForDelivery | reserveDueIdleEviction
      | cancelIdleEvictionOnPresentationChange | markRuntimeStoppedIfGeneration =>
          exact Or.inl (by rw [hop.2]; rfl)
      | markSessionPresentationUnavailable | applySessionTurnEnded =>
          exact Or.inl (by rw [hop.2.2]; rfl)
      | finalizeRuntimeStoppedIfEpoch => exact Or.inl (by rw [hop.2.2.2.2]; rfl)
      | revokeSessionRecoveryIfGeneration => exact Or.inr (by rw [hop.2.2])
      | reserveMcpActorSession => exact hop.elim
  | inbox op =>
      cases op with
      | enqueueInbox => exact Or.inl (by rw [hop.2.2.2]; rfl)
      | _ => exact hop.elim
  | locator op => exact absurd rfl (hlocator op)
  | standing op => exact hop.elim
  | context op => exact Or.inl hop.2

/-! ## Revocation -/

/-- A finalized revocation deletes the locators of a revoked session. -/
theorem finalizeSessionRecoveryRevocation_sessionLocators
    {runtimeGeneration now : Nat} {changed : Bool}
    (hok : store.finalizeSessionRecoveryRevocation pubkey runtimeGeneration now =
      .ok (changed, after)) :
    after.sessionLocators = store.sessionLocators ∨
      (after.sessionLocators = store.sessionLocators.deleteWhere (fun row => row.pubkey = pubkey) ∧
        store.recoveryOf pubkey = some .revoked) := by
  simp only [finalizeSessionRecoveryRevocation, bind_eq_ok, updateSessions,
    decide_eq_true_eq] at hok
  obtain ⟨_, _, hok⟩ := hok
  split at hok
  · rename_i hchanged
    split at hok
    · cases hok
    · simp only [pure_eq_ok, Prod.mk.injEq] at hok
      obtain ⟨_, rfl⟩ := hok
      have hmatched : store.sessions.Any (fun row => row.pubkey = pubkey ∧
          row.runtimeGeneration = runtimeGeneration ∧ row.recoveryState = .revoked) :=
        Table.matching_pos_iff.mp (by omega)
      obtain ⟨row, hfind, _, hrevoked⟩ := Table.any_key_iff.mp hmatched
      refine Or.inr ⟨rfl, ?_⟩
      rw [recoveryOf, hfind, Option.map_some, hrevoked]
  · simp only [pure_eq_ok, Prod.mk.injEq] at hok
    exact Or.inl (by rw [← hok.2])

end Store

end Mosaico
