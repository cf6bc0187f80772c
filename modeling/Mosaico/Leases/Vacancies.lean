import Mosaico.Leases.PublicHandles

/-!
# Handles that can be used again

A request takes its handle before it reserves a runtime.  Nothing gives the handle back
when the request fails in between, and such a lease stays live although no session will
ever stop and end it.

A handle that changes hands leaves its previous holder behind, whose profile the new
session retires with the keys of the holder.  The finalization of a revocation deletes
the signer that these keys are derived from and keeps the lease.
-/

namespace Mosaico

open Relational Transition

namespace Store

/-! ## Leases and their holders -/

/-- The keys of the pubkey can be derived from its stored salt. -/
def Derivable (store : Store) (env : SigningEnv) (pubkey : String) : Prop :=
  ∃ signerSalt, store.sessionSignerSalt pubkey = some signerSalt ∧
    env.derive signerSalt = .ok pubkey

/-- The profile of a holder whose keys can be derived is retired. -/
theorem Derivable.retired {store : Store} {env : SigningEnv} {pubkey : String}
    (hderivable : store.Derivable env pubkey) {hosted : Option String}
    (hhosted : hosted ∈ [none, some pubkey]) :
    ∃ profile, store.retireReclaimedProfile env hosted (some pubkey) = .ok profile := by
  have hkeys : store.sessionSigningKeys env hosted pubkey = .ok pubkey := by
    simp only [List.mem_cons, List.not_mem_nil, or_false] at hhosted
    obtain ⟨signerSalt, hsalt, hderived⟩ := hderivable
    rcases hhosted with rfl | rfl
    · rw [sessionSigningKeys, hsalt]
      simp [hderived, Except.mapError]
    · rw [sessionSigningKeys]
      exact if_pos rfl
  rw [retireReclaimedProfile]
  cases store.getSession pubkey with
  | none => exact ⟨none, rfl⟩
  | some session =>
      dsimp only
      rw [hkeys]
      exact ⟨_, rfl⟩

/-- A lease that is live after an operation was live before, or its session is in use. -/
theorem live_of_step {store : Store} {op : StoreOp} {next : HandleLease}
    (hnext : next ∈ (store.step op).handleLeases.rows) (hlive : next.live = true) :
    (∃ lease ∈ store.handleLeases.rows, lease.pubkey = next.pubkey ∧ lease.live = true) ∨
      (store.step op).InUse next.pubkey := by
  cases step_leaseWrite store op with
  | kept hsame =>
      rw [hsame.handleLeases] at hnext
      exact Or.inl ⟨next, hnext, rfl, hlive⟩
  | touched pubkey lastSeen hleases =>
      rw [hleases] at hnext
      simp only [touchHandleForPubkey, Table.updateWhere, List.mem_map] at hnext
      obtain ⟨lease, hlease, rfl⟩ := hnext
      refine Or.inl ⟨lease, hlease, ?_⟩
      split at hlive
      · rename_i htouched
        rw [if_pos htouched]
        exact ⟨rfl, hlive⟩
      · rename_i hother
        rw [if_neg hother]
        exact ⟨rfl, hlive⟩
  | renewed pubkey now hleases hused =>
      rw [hleases] at hnext
      simp only [markHandleLive, Table.updateWhere, List.mem_map] at hnext
      obtain ⟨lease, hlease, rfl⟩ := hnext
      split at hlive
      · rename_i hpubkey
        rw [if_pos hpubkey]
        exact Or.inr (hpubkey.symm ▸ hused)
      · rename_i hother
        rw [if_neg hother]
        exact Or.inl ⟨lease, hlease, rfl, hlive⟩
  | stopped pubkey stoppedAt hleases =>
      rw [hleases] at hnext
      simp only [markHandleStoppedAt, Table.updateWhere, List.mem_map] at hnext
      obtain ⟨lease, hlease, rfl⟩ := hnext
      split at hlive
      · cases hlive
      · rename_i hother
        rw [if_neg hother]
        exact Or.inl ⟨lease, hlease, rfl, hlive⟩

/-- A live lease of a session that was in use belongs to one that still is. -/
theorem inUse_of_live_step {store : Store} {op : StoreOp} {next : HandleLease}
    (hnext : next ∈ (store.step op).handleLeases.rows) (hlive : next.live = true)
    (hused : store.InUse next.pubkey) : (store.step op).InUse next.pubkey := by
  by_contra hended
  obtain ⟨stoppedAt, hleases⟩ := leases_of_end hused hended
  rw [hleases] at hnext
  simp only [markHandleStoppedAt, Table.updateWhere, List.mem_map] at hnext
  obtain ⟨lease, hlease, heq⟩ := hnext
  split at heq
  · subst heq
    cases hlive
  · rename_i hother
    subst heq
    exact hother rfl

end Store

/-! ## Runs -/

namespace RequestState

/-- Handles are neither leaked nor poisoned. -/
structure HandlesReusable (env : RequestEnv) (state : RequestState) : Prop where
  /-- With no request in flight, a live lease belongs to a session in use. -/
  live : state.inFlight = [] → ∀ lease ∈ state.store.handleLeases.rows, lease.live = true →
    state.store.InUse lease.pubkey
  /-- A name that no session in use goes by can be requested again. -/
  available : state.inFlight = [] → ∀ agentSlug name handle,
    customHandle agentSlug name = .ok handle →
      (∀ pubkey, state.store.Holds pubkey handle → ¬ state.store.InUse pubkey) →
        state.store.ensureCustomHandleAvailable agentSlug name = .ok ()
  /-- The holder of a lease that an allocation may take over can be retired, whether its
  engine still hosts its keys or not. -/
  retire : ∀ lease ∈ state.store.handleLeases.rows, ¬ state.store.leaseOccupied lease →
    ∀ hosted ∈ [none, some lease.pubkey], ∃ profile,
      state.store.retireReclaimedProfile env.signing hosted (some lease.pubkey) = .ok profile

/-- Every live lease belongs to a session in use or to a request in flight. -/
def Accounted (state : RequestState) : Prop :=
  ∀ lease ∈ state.store.handleLeases.rows, lease.live = true →
    state.store.InUse lease.pubkey ∨
      ∃ prepared ∈ state.inFlight, prepared.identity.pubkey = lease.pubkey

/-- The keys of every holder can be derived. -/
def Retirable (env : RequestEnv) (state : RequestState) : Prop :=
  ∀ lease ∈ state.store.handleLeases.rows, state.store.Derivable env.signing lease.pubkey

theorem handlesReusable {env : RequestEnv} {state : RequestState} (haccounted : state.Accounted)
    (hretirable : state.Retirable env) : state.HandlesReusable env where
  live := by
    intro hidle lease hlease hlive
    refine (haccounted lease hlease hlive).resolve_right ?_
    rintro ⟨prepared, hprepared, _⟩
    rw [hidle] at hprepared
    cases hprepared
  available := by
    intro hidle agentSlug name handle hhandle hunused
    rw [Store.ensureCustomHandleAvailable, bind_eq_ok]
    refine ⟨handle, hhandle, ?_⟩
    cases hfind : state.store.handleLeases.find? handle with
    | none => rfl
    | some lease =>
        have hlease := Table.mem_of_find? hfind
        have hnotUsed : ¬ state.store.InUse lease.pubkey :=
          hunused lease.pubkey ⟨lease, hlease, rfl, Table.key_of_find? hfind⟩
        rw [ensure_eq_ok]
        rintro (hlive | hrunning)
        · rcases haccounted lease hlease hlive with hused | ⟨prepared, hprepared, _⟩
          · exact hnotUsed hused
          · rw [hidle] at hprepared
            cases hprepared
        · obtain ⟨row, hrow, hpubkey, hstate⟩ := hrunning
          exact hnotUsed ⟨row, Table.find?_eq_some_iff.mpr ⟨hrow, hpubkey⟩, Or.inl hstate⟩
  retire := by
    intro lease hlease _ hosted hhosted
    exact (hretirable lease hlease).retired hhosted

/-- A request ends only when its session is in use, it holds no live lease, or another
request for its pubkey is in flight; and no revocation is finalized while the pubkey
holds a handle. -/
def EndsClean (state : RequestState) : RequestOp → Prop
  | .finish request => ∀ prepared, state.inFlight[request]? = some prepared →
      state.store.InUse prepared.identity.pubkey ∨
        (∀ lease ∈ state.store.handleLeases.rows, lease.pubkey = prepared.identity.pubkey →
          lease.live = false) ∨
        ∃ other ∈ state.inFlight.eraseIdx request,
          other.identity.pubkey = prepared.identity.pubkey
  | .store op => ∀ pubkey, state.store.Forgets pubkey op →
      state.store.handleForPubkey pubkey = none
  | _ => True

/-- A request stays in flight until it ends. -/
theorem inFlight_step {env : RequestEnv} {state : RequestState} {op : RequestOp}
    (hop : ∀ request, op ≠ .finish request) {prepared : PreparedIdentity}
    (hprepared : prepared ∈ state.inFlight) : prepared ∈ (step env state op).inFlight := by
  cases hattempt : state.launch op with
  | some launch =>
      rw [step_of_launch hattempt]
      exact hprepared
  | none =>
      have hselected : ∀ (store : Store) (outcome : Except IdentityError PreparedIdentity),
          prepared ∈ ({ state with store := store }.selected outcome).inFlight := by
        intro store outcome
        cases outcome with
        | ok other => exact List.mem_append_left _ hprepared
        | error error => exact hprepared
      cases op with
      | prepare agent sessionName now signerSalt => exact hselected _ _
      | load hosted pubkey agent => exact hselected state.store _
      | finish request => exact absurd rfl (hop request)
      | store op =>
          rw [step]
          split
          · exact hprepared
          · exact hprepared
      | reserve request r facts | reserveActor request agentSlug channel now
      | activateActor actorKey now =>
          simp only [step, hattempt]
          exact hprepared

/-- The leases after an operation of the store, as long as nothing leaves flight. -/
theorem Accounted.operated {state after : RequestState} (haccounted : state.Accounted)
    (storeOp : StoreOp) (hstore : after.store = state.store.step storeOp)
    (hinFlight : ∀ prepared ∈ state.inFlight, prepared ∈ after.inFlight) : after.Accounted := by
  intro next hnext hlive
  rw [hstore] at hnext ⊢
  rcases Store.live_of_step hnext hlive with ⟨lease, hlease, hpubkey, hleaseLive⟩ | hused
  · rcases haccounted lease hlease hleaseLive with hused | ⟨prepared, hprepared, hsame⟩
    · exact Or.inl (Store.inUse_of_live_step hnext hlive (hpubkey ▸ hused))
    · exact Or.inr ⟨prepared, hinFlight prepared hprepared, hsame.trans hpubkey⟩
  · exact Or.inl hused

theorem step_accounted {env : RequestEnv} {state : RequestState} {op : RequestOp}
    (haccounted : state.Accounted) (hclean : state.EndsClean op) :
    (step env state op).Accounted := by
  by_cases hfinish : ∃ request, op = .finish request
  · obtain ⟨request, rfl⟩ := hfinish
    intro lease hlease hlive
    rcases haccounted lease hlease hlive with hused | ⟨prepared, hprepared, hpubkey⟩
    · exact Or.inl hused
    · obtain ⟨place, hplace⟩ := List.mem_iff_getElem?.mp hprepared
      by_cases hended : place = request
      · subst hended
        rcases hclean prepared hplace with hused | hdead | ⟨other, hother, hsame⟩
        · exact Or.inl (hpubkey ▸ hused)
        · rw [hdead lease hlease hpubkey.symm] at hlive
          cases hlive
        · exact Or.inr ⟨other, hother, hsame.trans hpubkey⟩
      · exact Or.inr ⟨prepared, List.mem_eraseIdx_iff_getElem?.mpr ⟨place, hended, hplace⟩,
          hpubkey⟩
  · have hinFlight : ∀ prepared ∈ state.inFlight, prepared ∈ (step env state op).inFlight :=
      fun prepared => inFlight_step (fun request hop => hfinish ⟨request, hop⟩)
    have hchange := step_storeChange env state op
    generalize hafter : (step env state op).store = after at hchange
    cases hchange with
    | same =>
        intro lease hlease hlive
        rw [hafter] at hlease ⊢
        rcases haccounted lease hlease hlive with hused | ⟨prepared, hprepared, hpubkey⟩
        · exact Or.inl hused
        · exact Or.inr ⟨prepared, hinFlight prepared hprepared, hpubkey⟩
    | allocated agentSlug now byCodename signerSalt prepared allocation after hin _ _ hallocated =>
        intro lease hlease hlive
        rw [hafter] at hlease ⊢
        rcases hallocated.lease_cases hlease with hold | ⟨hpubkey, _⟩
        · rcases haccounted lease hold hlive with hused | ⟨other, hother, hpubkey⟩
          · left
            rw [Store.InUse, hallocated.sessions]
            exact hused
          · exact Or.inr ⟨other, hinFlight other hother, hpubkey⟩
        · exact Or.inr ⟨prepared, hin, hpubkey.symm⟩
    | operated storeOp => exact haccounted.operated storeOp hafter hinFlight
    | launched launch => exact haccounted.operated (.lifecycle launch) hafter hinFlight

/-- The signers after an operation of the store that forgets no holder. -/
theorem Retirable.operated {env : RequestEnv} {state after : RequestState}
    (hretirable : state.Retirable env) (storeOp : StoreOp)
    (hstore : after.store = state.store.step storeOp)
    (hkept : ∀ pubkey, state.store.Forgets pubkey storeOp →
      state.store.handleForPubkey pubkey = none) : after.Retirable env := by
  intro next hnext
  rw [hstore] at hnext ⊢
  obtain ⟨lease, hlease, hfollows⟩ :=
    Store.exists_followed (Store.step_leaseWrite state.store storeOp).follows hnext
  rw [hfollows.pubkey]
  rcases Store.sessionSignerSalt_step state.store storeOp lease.pubkey with hsame | ⟨hforgets, _⟩
  · obtain ⟨signerSalt, hsalt, hderived⟩ := hretirable lease hlease
    exact ⟨signerSalt, hsame.trans hsalt, hderived⟩
  · have hnone := hkept lease.pubkey hforgets
    rw [Store.handleForPubkey_eq_none_iff] at hnone
    exact absurd rfl (hnone lease hlease)

theorem step_retirable {env : RequestEnv} {state : RequestState} {op : RequestOp}
    (hretirable : state.Retirable env) (hclean : state.EndsClean op) :
    (step env state op).Retirable env := by
  have hchange := step_storeChange env state op
  generalize hafter : (step env state op).store = after at hchange
  cases hchange with
  | same =>
      intro lease hlease
      rw [hafter] at hlease ⊢
      exact hretirable lease hlease
  | allocated agentSlug now byCodename signerSalt prepared allocation after _ hderived hsalt
      hallocated =>
      intro lease hlease
      rw [hafter] at hlease ⊢
      by_cases hpubkey : lease.pubkey = prepared.identity.pubkey
      · rw [hpubkey]
        refine ⟨signerSalt, ?_, hderived⟩
        rw [Store.sessionSignerSalt, hallocated.sessionSigners]
        exact hsalt
      · have hold : lease ∈ state.store.handleLeases.rows :=
          (hallocated.lease_cases hlease).resolve_right (fun hnew => hpubkey hnew.1)
        obtain ⟨stored, hstored, hholder⟩ := hretirable lease hold
        refine ⟨stored, ?_, hholder⟩
        rw [Store.sessionSignerSalt, hallocated.sessionSigners, Store.withSigner,
          Table.find?_insertOrIgnore, if_neg hpubkey]
        exact hstored
  | operated storeOp hop =>
      subst hop
      exact hretirable.operated storeOp hafter hclean
  | launched launch hlaunch =>
      refine hretirable.operated (.lifecycle launch) hafter ?_
      rintro pubkey ⟨_, _, hop, _⟩
      cases hop
      obtain ⟨_, hlaunched⟩ := launch_launched hlaunch
      cases hlaunched

/-- In every run of starts, launches, resumes and adoptions that fail at any step, with
stops, revocations and reclaims in between, handles are neither leaked nor poisoned as
long as every request ends clean and no revocation takes the signer of a holder. -/
theorem handlesReusable_of_endsClean (env : RequestEnv) (ops : List RequestOp)
    (hclean : Guarded (step env) EndsClean empty ops) :
    ∀ elapsed, elapsed <+: ops → (run (step env) empty elapsed).HandlesReusable env := by
  rintro elapsed ⟨rest, rfl⟩
  have hguarded := (guarded_append.mp hclean).1
  apply handlesReusable
  · apply guarded_run_invariant (I := Accounted) _ (fun _ _ => step_accounted) hguarded
    intro lease hlease
    cases hlease
  · apply guarded_run_invariant (I := Retirable env) _ (fun _ _ => step_retirable) hguarded
    intro lease hlease
    cases hlease

/-- A session that starts under a name, ends its request and stops. -/
def namedSession : List RequestOp :=
  [.prepare codexAgent (some "quill") 10 "first",
    reservationOf 0 11,
    .finish 0,
    .store (.lifecycle (.markRuntimeStoppedIfGeneration "first" 1 .operatorKill 20))]

theorem namedSession_reusable :
    (run (step plainEnv) empty namedSession).HandlesReusable plainEnv := by
  refine handlesReusable_of_endsClean plainEnv namedSession ⟨trivial, trivial, ?_, ?_, trivial⟩
    namedSession (List.prefix_refl _)
  · intro prepared hprepared
    have hpubkey : ((run (step plainEnv) empty (namedSession.take 2)).inFlight[0]?).map
        (fun prepared => prepared.identity.pubkey) = some "first" := by
      decide +kernel
    have hused : (run (step plainEnv) empty (namedSession.take 2)).store.InUse "first" :=
      ⟨_, rfl, Or.inl (by decide +kernel)⟩
    left
    change ((run (step plainEnv) empty (namedSession.take 2)).inFlight[0]?) = some prepared
      at hprepared
    rw [hprepared, Option.map_some, Option.some.injEq] at hpubkey
    rw [hpubkey]
    exact hused
  · rintro pubkey ⟨_, _, hop, _⟩
    cases hop

/-! ## A leak and a poisoned handle -/

/-- The request fails before it reserves a runtime. -/
def failedStart : List RequestOp :=
  [.prepare codexAgent (some "quill") 10 "first", .finish 0]

/-- The session runs, and its revocation is finalized. -/
def revokedSession : List RequestOp :=
  [.prepare codexAgent (some "quill") 10 "first",
    reservationOf 0 11,
    .finish 0,
    .store (.lifecycle (.revokeSessionRecoveryIfGeneration "first" 1)),
    .store (.lifecycle (.finalizeSessionRecoveryRevocation "first" 1 20))]

/-- After a failed start nobody uses the name and nobody can request it.  After a
revocation the name can be requested, and the start of its next holder fails. -/
theorem handle_leaked_or_poisoned :
    (¬ ∀ env ops, (run (step env) empty ops).inFlight = [] →
      ∀ lease ∈ (run (step env) empty ops).store.handleLeases.rows, lease.live = true →
        (run (step env) empty ops).store.InUse lease.pubkey) ∧
    (run (step plainEnv) empty failedStart).store.ensureCustomHandleAvailable "codex" "quill" =
      .error (.sessionNameInUse "quill" "quill-codex") ∧
    (¬ ∀ env ops, ∀ lease ∈ (run (step env) empty ops).store.handleLeases.rows,
      ¬ (run (step env) empty ops).store.leaseOccupied lease →
        ∃ profile, (run (step env) empty ops).store.retireReclaimedProfile env.signing none
          (some lease.pubkey) = .ok profile) ∧
    (run (step plainEnv) empty revokedSession).store.ensureCustomHandleAvailable "codex" "quill" =
      .ok () := by
  refine ⟨?_, by decide +kernel, ?_, by decide +kernel⟩
  · intro hall
    obtain ⟨row, hrow, _⟩ := hall plainEnv failedStart rfl
      (.granted "quill-codex" "first" "codex" 10) (by decide +kernel) rfl
    cases hrow
  · intro hall
    have hvacant : ∃ lease ∈ (run (step plainEnv) empty revokedSession).store.handleLeases.rows,
        lease.pubkey = "first" ∧
          ¬ (run (step plainEnv) empty revokedSession).store.leaseOccupied lease := by
      decide +kernel
    obtain ⟨lease, hlease, hpubkey, hvacant⟩ := hvacant
    obtain ⟨profile, hretired⟩ := hall plainEnv revokedSession lease hlease hvacant
    have hfailed : (run (step plainEnv) empty revokedSession).store.retireReclaimedProfile
        plainEnv.signing none (some "first") = .error (.configuration "no such agent") := by
      rfl
    rw [hpubkey, hfailed] at hretired
    cases hretired

end RequestState

end Mosaico
