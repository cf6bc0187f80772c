import Mosaico.Recovery.LocatorWrites

/-!
# Recovery readiness and the locator table

A session advertised as resumable must have the locator that its resume path
reads.  In a run the two agree exactly as long as no step detaches a native
locator: takes its value for another pubkey, or deletes it by a clear that does
not look at the session.  Sessions of MCP actors are ready by definition and are
left out.
-/

namespace Mosaico

open Relational Transition

/-- The operation makes the pubkey an MCP actor. -/
def StoreOp.ReservesMcpActor (pubkey : String) : StoreOp → Prop
  | .lifecycle (.reserveMcpActorSession actor _ _ _) => actor = pubkey
  | _ => False

instance (pubkey : String) : DecidablePred (StoreOp.ReservesMcpActor pubkey)
  | .lifecycle op =>
      match op with
      | .reserveMcpActorSession _ _ _ _ => inferInstanceAs (Decidable (_ = _))
      | .reserveSessionWithFacts _ _ | .applySessionPresentationEdge _ _ _ _ _
      | .markSessionPresentationUnavailable _ _ _ _ | .applySessionTurnStarted _ _ _
      | .applySessionTurnEnded _ _ _ | .cancelSessionIdleDeadlineForDelivery _ _
      | .reserveDueIdleEviction _ _ _ _ _ | .cancelIdleEvictionOnPresentationChange _ _ _ _ _ _
      | .finalizeRuntimeStoppedIfEpoch _ _ _ _ _ | .markRuntimeStoppedIfGeneration _ _ _ _
      | .revokeSessionRecoveryIfGeneration _ _ | .finalizeSessionRecoveryRevocation _ _ _
      | .activateMcpActor _ _ _ => inferInstanceAs (Decidable False)
  | .inbox _ | .locator _ | .standing _ | .context _ => inferInstanceAs (Decidable False)

namespace Store

/-! ## Operations that are no locator operations -/

variable {op : StoreOp} {pubkey : String} {store : Store}

theorem step_sessionLocators (store : Store) (hlocator : ∀ change, op ≠ .locator change) :
    (store.step op).sessionLocators = store.sessionLocators ∨
      ∃ owner, store.recoveryOf owner = some .revoked ∧
        (store.step op).sessionLocators =
          store.sessionLocators.deleteWhere (fun row => row.pubkey = owner) := by
  cases op with
  | lifecycle op =>
      rcases lifecycleStep_sessionLocators store op with hsame | ⟨owner, generation, now, rfl⟩
      · exact Or.inl hsame
      · show (commit _ store).sessionLocators = _ ∨ _
        cases hok : store.finalizeSessionRecoveryRevocation owner generation now with
        | error error => exact Or.inl rfl
        | ok result =>
            simp only [step, lifecycleStep, hok, commit_ok]
            rcases finalizeSessionRecoveryRevocation_sessionLocators hok with
              hsame | ⟨hdeleted, hrevoked⟩
            · exact Or.inl hsame
            · exact Or.inr ⟨owner, hrevoked, hdeleted⟩
  | inbox op => exact Or.inl (inboxStep_same store op).1.sessionLocators
  | locator op => exact absurd rfl (hlocator op)
  | standing op => exact Or.inl (standingStep_same store op).sessionLocators
  | context op => exact Or.inl (contextStep_effect store op).sessionLocators

/-- The recovery column is kept, revoked, or that of a new session. -/
theorem step_recoveryOf (store : Store)
    (hlocator : ∀ change, op ≠ .locator change) (hactor : ¬ op.ReservesMcpActor pubkey) :
    (store.step op).recoveryOf pubkey = store.recoveryOf pubkey ∨
      (store.recoveryOf pubkey ≠ none ∧ (store.step op).recoveryOf pubkey = some .revoked) ∨
      (store.recoveryOf pubkey = none ∧ (store.step op).recoveryOf pubkey = some .pending) := by
  have hchange := step_sessionChange store op pubkey
  unfold recoveryOf
  generalize (store.step op).sessions.find? pubkey = after at hchange ⊢
  cases hchange with
  | kept => exact Or.inl rfl
  | rewritten row next hfind hrewrites =>
      rw [hfind]
      rcases rewrites_recoveryState hlocator hrewrites with hsame | hrevoked
      · exact Or.inl (by rw [Option.map_some, Option.map_some, hsame])
      · exact Or.inr (Or.inl ⟨by simp, by rw [Option.map_some, hrevoked]⟩)
  | created next hfree hkey hcreates =>
      rw [hfree]
      refine Or.inr (Or.inr ⟨rfl, ?_⟩)
      unfold StoreOp.Creates at hcreates
      split at hcreates
      · rw [hcreates]
        rfl
      · rename_i actor slug channel now
        subst hcreates
        exact absurd hkey hactor
      · exact hcreates.elim

theorem step_authorityMove
    (hlocator : ∀ change, op ≠ .locator change) (hactor : ¬ op.ReservesMcpActor pubkey) :
    Authority.Move (store.authority pubkey) ((store.step op).authority pubkey) := by
  have hrecovery := step_recoveryOf store hlocator hactor
  -- a revoked session whose locators are deleted
  have hforgotten : store.recoveryOf pubkey = some .revoked →
      ¬ (store.step op).hasNativeResume pubkey →
      Authority.Move (store.authority pubkey) ((store.step op).authority pubkey) := by
    intro hrevoked hnone
    have hafter : (store.step op).recoveryOf pubkey = some .revoked := by
      rcases hrecovery with hsame | ⟨_, hafter⟩ | ⟨hfree, _⟩
      · exact hsame.trans hrevoked
      · exact hafter
      · rw [hfree] at hrevoked
        cases hrevoked
    rw [authority, authority, hrevoked, hafter, decide_eq_false hnone]
    exact .forgotten _
  have hsame : ((store.step op).hasNativeResume pubkey ↔ store.hasNativeResume pubkey) →
      Authority.Move (store.authority pubkey) ((store.step op).authority pubkey) := by
    intro hnative
    have hdecide : decide ((store.step op).hasNativeResume pubkey) =
        decide (store.hasNativeResume pubkey) := decide_eq_decide.mpr hnative
    rcases hrecovery with hkept | ⟨hsession, hrevoked⟩ | ⟨hfree, hpending⟩
    · rw [authority_eq hkept hnative]
      exact .kept _
    · obtain ⟨state, hstate⟩ := Option.ne_none_iff_exists'.mp hsession
      rw [authority, authority, hstate, hrevoked, hdecide]
      exact .revoked state _
    · rw [authority, authority, hfree, hpending, hdecide]
      exact .reserved _
  rcases step_sessionLocators store hlocator with heq | ⟨owner, hrevoked, hdeleted⟩
  · exact hsame (hasNativeResume_congr heq pubkey)
  · by_cases howner : owner = pubkey
    · refine hforgotten (howner ▸ hrevoked) ?_
      rw [hasNativeResume, hdeleted, Table.any_deleteWhere]
      rintro ⟨row, _, hkept, hrow⟩
      exact hkept (hrow.1.trans howner.symm)
    · exact hsame (hasNativeResume_deleteOther hdeleted
        (fun row hrow hcleared => howner (hcleared.symm.trans hrow.1)))

/-! ## Uniqueness of the native locator -/

theorem putSessionLocator_nativeUnique (hunique : store.NativeUnique)
    (harness locatorKind locatorValue pubkey : String) (createdAt : Nat) :
    (commit (store.putSessionLocator harness locatorKind locatorValue pubkey createdAt)
      store).NativeUnique := by
  apply commit_invariant (I := NativeUnique) hunique
  intro value after hok
  have hwritten := fun generation => nativeUnique_writeLocator hunique harness locatorKind
    locatorValue pubkey generation createdAt
  obtain ⟨session, _, _, ⟨_, _, rfl⟩ | ⟨_, rfl | rfl⟩⟩ := putSessionLocator_ok hok
  · exact hwritten 0
  · exact hwritten session.runtimeGeneration
  · exact hwritten session.runtimeGeneration

theorem claimNativeResumeLocator_nativeUnique (hunique : store.NativeUnique)
    (pubkey harness nativeResume : String) (now : Nat) :
    (commit (store.claimNativeResumeLocator pubkey harness nativeResume now)
      store).NativeUnique := by
  apply commit_invariant (I := NativeUnique) hunique
  intro owner after hok
  obtain ⟨_, _, _, ⟨_, _, _, rfl⟩ | ⟨hfree, hunowned, _, _, rfl⟩⟩ :=
    claimNativeResumeLocator_ok hok
  · exact hunique
  · intro other left hleft right hright hleftNative hrightNative
    -- the claimer owned no native locator, so the new row is its only one
    rcases (Table.mem_insertOrIgnore hfree).mp hleft with hleftOld | rfl
    · rcases (Table.mem_insertOrIgnore hfree).mp hright with hrightOld | rfl
      · exact hunique other left hleftOld right hrightOld hleftNative hrightNative
      · exact absurd ⟨left, hleftOld, hleftNative.1.trans hrightNative.1.symm,
          hleftNative.2⟩ hunowned
    · rcases (Table.mem_insertOrIgnore hfree).mp hright with hrightOld | rfl
      · exact absurd ⟨right, hrightOld, hrightNative.1.trans hleftNative.1.symm,
          hrightNative.2⟩ hunowned
      · rfl

/-- Every clear only deletes locators. -/
theorem clears_nativeUnique {α : Type} (hunique : store.NativeUnique)
    {outcome : Except StoreError (α × Store)}
    (hok : ∀ value after, outcome = .ok (value, after) →
      ∀ row ∈ after.sessionLocators.rows, row ∈ store.sessionLocators.rows) :
    (commit outcome store).NativeUnique :=
  commit_invariant (I := NativeUnique) hunique
    (fun value after hafter => hunique.of_subset (hok value after hafter))

theorem locatorStep_nativeUnique (hunique : store.NativeUnique)
    (op : LocatorOp) : (store.locatorStep op).NativeUnique := by
  cases op with
  | putSessionLocator harness locatorKind locatorValue pubkey createdAt =>
      exact putSessionLocator_nativeUnique hunique _ _ _ _ _
  | setNativeResumeLocator pubkey harness nativeResume now =>
      rw [locatorStep, commit_setNativeResumeLocator]
      exact putSessionLocator_nativeUnique hunique _ _ _ _ _
  | claimNativeResumeLocator pubkey harness nativeResume now =>
      exact claimNativeResumeLocator_nativeUnique hunique _ _ _ _
  | clearLocatorKind pubkey locatorKind =>
      exact clears_nativeUnique hunique (fun _ _ hok => clearLocatorKind_subset hok)
  | clearRuntimeLocatorIfGeneration pubkey locatorKind runtimeGeneration now =>
      exact clears_nativeUnique hunique (fun _ _ hok => clearRuntimeLocatorIfGeneration_subset hok)
  | clearSessionLocatorKind pubkey harness locatorKind =>
      exact clears_nativeUnique hunique (fun _ _ hok => clearSessionLocatorKind_subset hok)

/-! ## One step -/

/-- What holds of the authority of `pubkey` after every run. -/
structure AuthorityInvariant (pubkey : String) (store : Store) : Prop where
  unique : store.NativeUnique
  owned : (store.authority pubkey).Owned

theorem AuthorityInvariant.empty (pubkey : String) : Store.empty.AuthorityInvariant pubkey where
  unique := by
    intro owner left hleft
    cases hleft
  owned := fun _ => rfl

theorem step_authorityStep
    (hinvariant : store.AuthorityInvariant pubkey) (hactor : ¬ op.ReservesMcpActor pubkey) :
    store.AuthorityStep op pubkey (store.step op) := by
  by_cases hlocator : ∃ change, op = .locator change
  · obtain ⟨change, rfl⟩ := hlocator
    exact locatorStep_authorityStep change hinvariant.unique hinvariant.owned
  · have hother : ∀ change, op ≠ .locator change := fun change heq => hlocator ⟨change, heq⟩
    refine Or.inr ⟨?_, step_authorityMove hother hactor⟩
    cases op with
    | locator change => exact absurd rfl (hother change)
    | _ => exact fun hdetach => hdetach

theorem step_authorityInvariant
    (hinvariant : store.AuthorityInvariant pubkey) (hactor : ¬ op.ReservesMcpActor pubkey) :
    (store.step op).AuthorityInvariant pubkey where
  unique := by
    by_cases hlocator : ∃ change, op = .locator change
    · obtain ⟨change, rfl⟩ := hlocator
      exact locatorStep_nativeUnique hinvariant.unique change
    · have hother : ∀ change, op ≠ .locator change := fun change heq => hlocator ⟨change, heq⟩
      apply hinvariant.unique.of_subset
      rcases step_sessionLocators store hother with heq | ⟨owner, _, heq⟩
      · rw [heq]
        exact fun row hrow => hrow
      · rw [heq]
        exact fun row hrow => Table.mem_of_mem_deleteWhere hrow
  owned := by
    rcases step_authorityStep hinvariant hactor with ⟨_, hdetached⟩ | ⟨_, hmove⟩
    · exact hdetached.owned
    · exact hmove.owned hinvariant.owned

/-- A step from an agreeing state agrees exactly if it detaches nothing. -/
theorem step_readinessAgrees_iff
    (hinvariant : store.AuthorityInvariant pubkey) (hactor : ¬ op.ReservesMcpActor pubkey)
    (hagrees : store.ReadinessAgrees pubkey) :
    (store.step op).ReadinessAgrees pubkey ↔ ¬ op.DetachesNative store pubkey := by
  rw [← authority_agrees_iff] at hagrees ⊢
  rcases step_authorityStep hinvariant hactor with ⟨hdetach, hdetached⟩ | ⟨hnot, hmove⟩
  · constructor
    · intro hafter
      exact absurd hafter (hdetached.not_agrees hagrees)
    · intro hnot
      exact absurd hdetach hnot
  · constructor
    · intro _
      exact hnot
    · intro _
      exact hmove.agrees hinvariant.owned hagrees

end Store

/-! ## Whole runs -/

/-- In a run that does not make `pubkey` an MCP actor, readiness and the locator
table agree in every state exactly if no step detaches the native locator of
`pubkey`. -/
theorem run_readinessAgrees_iff (pubkey : String) (ops : List StoreOp)
    (hactor : ∀ op ∈ ops, ¬ op.ReservesMcpActor pubkey) :
    (∀ elapsed, elapsed <+: ops →
      (run Store.step Store.empty elapsed).ReadinessAgrees pubkey) ↔
      Guarded Store.step (fun store op => ¬ op.DetachesNative store pubkey) Store.empty ops := by
  apply forall_prefix_iff_guarded (I := fun store => Store.ReadinessAgrees store pubkey)
    (J := Store.AuthorityInvariant pubkey) hactor
  · intro row hrow
    cases hrow
  · exact Store.AuthorityInvariant.empty pubkey
  · intro store op hinvariant hadmissible
    exact Store.step_authorityInvariant hinvariant hadmissible
  · intro store op hinvariant hadmissible hagrees
    exact Store.step_readinessAgrees_iff hinvariant hadmissible hagrees

/-- A session binds its locator, loses it to a clear by kind, binds another one
and stops. -/
theorem run_readinessAgrees_iff_rotated :
    (run Store.step Store.empty
      [launchOf "pk-one" 1,
        .locator (.putSessionLocator "codex" "native_resume" "native-1" "pk-one" 2),
        .locator (.clearLocatorKind "pk-one" "native_resume"),
        .locator (.setNativeResumeLocator "pk-one" "codex" "native-2" 3),
        .lifecycle (.markRuntimeStoppedIfGeneration "pk-one" 1 .crash 4)]).ReadinessAgrees
          "pk-one" :=
  (run_readinessAgrees_iff "pk-one" _ (by decide)).mpr (by decide) _ List.prefix_rfl

/-- A put of a value that another pubkey holds leaves the first session ready
without a locator. -/
theorem readinessAgrees_not_reachable_invariant :
    ¬ ∀ (pubkey : String) (ops : List StoreOp),
      (∀ op ∈ ops, ¬ op.ReservesMcpActor pubkey) →
      (run Store.step Store.empty ops).ReadinessAgrees pubkey := by
  intro hall
  have hagrees := hall "pk-one"
    [launchOf "pk-one" 1, launchOf "pk-two" 1,
      .locator (.putSessionLocator "codex" "native_resume" "native-1" "pk-one" 2),
      .locator (.putSessionLocator "codex" "native_resume" "native-1" "pk-two" 3)] (by decide)
  rw [← Store.authority_agrees_iff] at hagrees
  -- `pk-one` is still ready, and nothing can resume it
  have hready := (hagrees .ready (by decide) (by decide)).mp rfl
  revert hready
  decide

end Mosaico
