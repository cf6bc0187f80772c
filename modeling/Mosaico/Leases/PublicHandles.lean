import Mosaico.Leases.Requests

/-!
# The public handle of a session in use

A derived session is known to others by its handle, and the paths that publish it take
for granted that it has one.  A session that runs keeps its handle, since no allocation
takes the handle of a session in use.  A session that has stopped may lose it, also
after a request has loaded its identity.  The reservation that follows marks the leases
of the pubkey live without looking whether there is one, and launches the session.
-/

namespace Mosaico

open Relational Transition

namespace Store

/-! ## Launches that the store admits -/

/-- The checks that a launch has to pass. -/
def Admits (store : Store) : LifecycleOp → Prop
  | .reserveSessionWithFacts r facts =>
      ¬ Rust.isBlank r.pubkey ∧ validateRuntimeFacts r facts = .ok () ∧
        ∃ generation, store.nextGeneration r.pubkey = .ok generation ∧
          bindParams [generation, r.now] = .ok ()
  | .reserveMcpActorSession pubkey _ _ now =>
      store.sessionExists pubkey = false ∧
        bindParams [now, Rust.saturatingAdd now headlessIdleTimeoutSecs] = .ok ()
  | .activateMcpActor _ pubkey now =>
      ∃ row, store.getSession pubkey = some row ∧ row.runtimeState ≠ .stopping ∧
        row.recoveryState ≠ .revoked ∧
        bindParams [now, Rust.saturatingAdd now headlessIdleTimeoutSecs] = .ok ()
  | _ => False

variable {store : Store} {pubkey : String}

theorem admits_reserveSessionWithFacts {r : RegisterSession} {facts : AdmittedRuntimeFacts} :
    store.Admits (.reserveSessionWithFacts r facts) ↔
      ∃ generation after, store.reserveSessionWithFacts r facts = .ok (generation, after) := by
  constructor
  · rintro ⟨hnamed, hfacts, generation, hgeneration, hparams⟩
    refine ⟨generation, store.admitRuntime r facts generation, ?_⟩
    simp only [reserveSessionWithFacts, bind_eq_ok, ensure_eq_ok]
    exact ⟨(), hnamed, (), hfacts, generation, hgeneration, (), hparams, rfl⟩
  · rintro ⟨generation, after, hok⟩
    simp only [reserveSessionWithFacts, bind_eq_ok, ensure_eq_ok] at hok
    obtain ⟨_, hnamed, _, hfacts, generation, hgeneration, _, hparams, _⟩ := hok
    exact ⟨hnamed, hfacts, generation, hgeneration, hparams⟩

theorem admits_reserveMcpActorSession {agentSlug channel : String} {now : Nat} :
    store.Admits (.reserveMcpActorSession pubkey agentSlug channel now) ↔
      ∃ value after, store.reserveMcpActorSession pubkey agentSlug channel now =
        .ok (value, after) := by
  constructor
  · rintro ⟨hfree, hparams⟩
    have hnow : bindParams [now] = .ok () := by
      rw [bindParams_eq_ok] at hparams ⊢
      intro param hparam
      rw [List.mem_singleton.mp hparam]
      exact hparams now List.mem_cons_self
    simp only [reserveMcpActorSession, bind_eq_ok, ensure_eq_ok]
    unfold grantSessionRoute
    split
    · exact ⟨(), _, (), hparams, (), hfree, rfl⟩
    · rw [hnow]
      exact ⟨(), _, (), hparams, (), hfree, rfl⟩
  · rintro ⟨value, after, hok⟩
    simp only [reserveMcpActorSession, bind_eq_ok, ensure_eq_ok] at hok
    obtain ⟨_, hparams, _, hfree, _⟩ := hok
    exact ⟨hfree, hparams⟩

theorem admits_activateMcpActor {actorKey : String} {now : Nat} :
    store.Admits (.activateMcpActor actorKey pubkey now) ↔
      ∃ value after, store.activateMcpActor actorKey pubkey now = .ok (value, after) := by
  unfold activateMcpActor
  constructor
  · rintro ⟨row, hrow, hstopping, hrevoked, hparams⟩
    rw [hrow]
    simp only [bind_eq_ok, ensure_eq_ok]
    exact ⟨(), _, (), hstopping, (), hrevoked, (), hparams, rfl⟩
  · rintro ⟨value, after, hok⟩
    cases hrow : store.getSession pubkey with
    | none =>
        rw [hrow] at hok
        cases hok
    | some row =>
        rw [hrow] at hok
        simp only [bind_eq_ok, ensure_eq_ok] at hok
        obtain ⟨_, hstopping, _, hrevoked, _, hparams, _⟩ := hok
        exact ⟨row, hrow, hstopping, hrevoked, hparams⟩

theorem commit_inUse_iff {α : Type} {outcome : Except StoreError (α × Store)}
    (hused : ∀ value after, outcome = .ok (value, after) → after.InUse pubkey) :
    (commit outcome store).InUse pubkey ↔
      store.InUse pubkey ∨ ∃ value after, outcome = .ok (value, after) := by
  cases outcome with
  | error error => simp
  | ok result => exact ⟨fun _ => Or.inr ⟨_, _, rfl⟩, fun _ => hused _ _ rfl⟩

/-- A launch leaves its session in use exactly if it was in use or the launch is
admitted. -/
theorem launch_inUse_iff (store : Store) {launch : LifecycleOp}
    (hlaunched : launch.launched = some pubkey) :
    (store.lifecycleStep launch).InUse pubkey ↔ store.InUse pubkey ∨ store.Admits launch := by
  cases launch with
  | reserveSessionWithFacts r facts =>
      cases hlaunched
      rw [admits_reserveSessionWithFacts]
      exact commit_inUse_iff (fun _ _ => reserveSessionWithFacts_inUse)
  | reserveMcpActorSession other agentSlug channel now =>
      cases hlaunched
      rw [admits_reserveMcpActorSession]
      exact commit_inUse_iff (fun _ _ => reserveMcpActorSession_inUse)
  | activateMcpActor actorKey other now =>
      cases hlaunched
      rw [admits_activateMcpActor]
      exact commit_inUse_iff (fun _ _ => activateMcpActor_inUse)
  | _ => cases hlaunched

/-! ## Handles -/

/-- Others reach the session by the one live lease of its pubkey. -/
structure PublicHandle (store : Store) (pubkey : String) : Prop where
  lease : ∃ lease ∈ store.handleLeases.rows, lease.pubkey = pubkey ∧ lease.live = true ∧
    ∀ other ∈ store.handleLeases.rows, other.pubkey = pubkey → other = lease
  identity : ∃ identity, store.sessionIdentity pubkey = .ok (some identity)

/-- Every running or stopping session with derived signer material has its public
handle. -/
def HandlesInUse (store : Store) : Prop :=
  ∀ pubkey, store.InUse pubkey → store.isDerivedSessionPubkey pubkey = true →
    store.PublicHandle pubkey

theorem publicHandle_iff (hinv : store.LeaseInvariant)
    (hused : store.InUse pubkey) (hderived : store.isDerivedSessionPubkey pubkey = true) :
    store.PublicHandle pubkey ↔ store.handleForPubkey pubkey ≠ none := by
  constructor
  · rintro ⟨⟨lease, hlease, hpubkey, _⟩, _⟩ hnone
    exact handleForPubkey_eq_none_iff.mp hnone lease hlease hpubkey
  · intro hheld
    obtain ⟨handle, hhandle⟩ := Option.ne_none_iff_exists'.mp hheld
    obtain ⟨lease, hlease, hpubkey, _⟩ := handleForPubkey_eq_some hhandle
    constructor
    · refine ⟨lease, hlease, hpubkey, hinv.live lease hlease (hpubkey.symm ▸ hused), ?_⟩
      intro other hother hotherPubkey
      exact hinv.single other hother lease hlease (hotherPubkey.trans hpubkey.symm)
    · obtain ⟨row, hrow, _⟩ := hused
      refine ⟨⟨pubkey, row.agentSlug, handle, false⟩, ?_⟩
      rw [sessionIdentity, getSession, hrow]
      dsimp only
      rw [if_pos hderived, hhandle]

/-- Signers are only ever deleted by an operation of the store. -/
theorem derived_of_step {op : StoreOp}
    (hderived : (store.step op).isDerivedSessionPubkey pubkey = true) :
    store.isDerivedSessionPubkey pubkey = true := by
  rcases sessionSignerSalt_step store op pubkey with hsame | ⟨_, hforgotten⟩
  · rw [isDerivedSessionPubkey, hsame] at hderived
    exact hderived
  · rw [isDerivedSessionPubkey, hforgotten] at hderived
    cases hderived

/-- A launch deletes no signer. -/
theorem launch_signers (store : Store) {launch : LifecycleOp}
    (hlaunched : launch.launched = some pubkey) :
    (store.step (.lifecycle launch)).isDerivedSessionPubkey pubkey =
      store.isDerivedSessionPubkey pubkey := by
  rcases sessionSignerSalt_step store (.lifecycle launch) pubkey with hsame | ⟨hforgets, _⟩
  · rw [isDerivedSessionPubkey, hsame, isDerivedSessionPubkey]
  · obtain ⟨_, _, hop, _⟩ := hforgets
    cases hop
    cases hlaunched

/-- An operation of the store leaves every pubkey with the handle it holds. -/
theorem handleForPubkey_step (store : Store) (op : StoreOp) (pubkey : String) :
    (store.step op).handleForPubkey pubkey = none ↔ store.handleForPubkey pubkey = none := by
  have hfollows := (step_leaseWrite store op).follows
  rw [handleForPubkey_eq_none_iff, handleForPubkey_eq_none_iff]
  constructor
  · intro hnone lease hlease hpubkey
    obtain ⟨next, hnext, hlink⟩ := exists_follower hfollows hlease
    exact hnone next hnext (hlink.pubkey.trans hpubkey)
  · intro hnone next hnext hpubkey
    obtain ⟨lease, hlease, hlink⟩ := exists_followed hfollows hnext
    exact hnone lease hlease (hlink.pubkey.symm.trans hpubkey)

/-- The sessions in use, seen from their handles. -/
theorem handlesInUse_iff (hinv : store.LeaseInvariant) :
    store.HandlesInUse ↔ ∀ pubkey, store.InUse pubkey →
      store.isDerivedSessionPubkey pubkey = true → store.handleForPubkey pubkey ≠ none :=
  forall_congr' fun _ => forall_congr' fun hused => forall_congr' fun hderived =>
    publicHandle_iff hinv hused hderived

/-- An allocation leaves the sessions in use with a handle. -/
theorem Allocated.handlesInUse {after : Store} {agentSlug signerSalt : String}
    {now : Nat} {byCodename : Bool} {allocation : HandleAllocation}
    (hallocated : (store.withSigner pubkey signerSalt).Allocated pubkey agentSlug now byCodename
      allocation after) (hinv : store.LeaseInvariant) (hhandles : store.HandlesInUse) :
    after.HandlesInUse := by
  have hinvSigner := hinv.withSigner pubkey signerSalt
  rw [handlesInUse_iff (hallocated.leaseInvariant hinvSigner)]
  rw [handlesInUse_iff hinv] at hhandles
  intro other hused hderived
  rw [Ne, handleForPubkey_eq_none_iff]
  intro hnone
  by_cases hother : other = pubkey
  · subst hother
    obtain ⟨lease, hlease, hpubkey, _⟩ := hallocated.holds
    exact hnone lease hlease hpubkey
  · have husedBefore : store.InUse other := by
      rw [InUse, hallocated.sessions] at hused
      exact hused
    have hderivedBefore : store.isDerivedSessionPubkey other = true := by
      rw [isDerivedSessionPubkey, sessionSignerSalt, hallocated.sessionSigners, withSigner,
        Table.find?_insertOrIgnore, if_neg hother] at hderived
      exact hderived
    obtain ⟨handle, hheld⟩ :=
      Option.ne_none_iff_exists'.mp (hhandles other husedBefore hderivedBefore)
    obtain ⟨lease, hlease, hpubkey, _⟩ := handleForPubkey_eq_some hheld
    have hkept : lease.handle ≠ allocation.handle ∨ lease.pubkey = pubkey := by
      by_contra htaken
      rw [not_or, not_not] at htaken
      have hgiven := hallocated.given hinvSigner hlease htaken.1 htaken.2
      exact hgiven.2.1 (hpubkey.symm ▸ husedBefore)
    obtain ⟨next, hnext, hnextPubkey, _⟩ := hallocated.kept hlease hkept
    exact hnone next hnext (hnextPubkey.trans hpubkey)

/-- An operation of the store leaves the sessions in use with a handle exactly if the
session it puts in use has one. -/
theorem step_handlesInUse_iff (op : StoreOp) (hinv : store.LeaseInvariant)
    (hhandles : store.HandlesInUse) :
    (store.step op).HandlesInUse ↔ ∀ pubkey, op.launched = some pubkey →
      (store.step op).InUse pubkey → (store.step op).isDerivedSessionPubkey pubkey = true →
        store.handleForPubkey pubkey ≠ none := by
  rw [handlesInUse_iff (Store.step_leaseInvariant hinv op)]
  rw [handlesInUse_iff hinv] at hhandles
  constructor
  · intro hafter pubkey _ hused hderived
    rw [Ne, ← handleForPubkey_step store op pubkey]
    exact hafter pubkey hused hderived
  · intro hlaunched pubkey hused hderived
    rw [Ne, handleForPubkey_step store op pubkey]
    rcases inUse_of_step hused with hbefore | hlaunches
    · exact hhandles pubkey hbefore (derived_of_step hderived)
    · exact hlaunched pubkey (launches_iff.mp hlaunches) hused hderived

end Store

/-! ## Runs -/

namespace RequestState

/-- The operation launches a derived session whose pubkey holds no handle. -/
def LaunchesBare (state : RequestState) (op : RequestOp) : Prop :=
  ∃ launch pubkey, state.launch op = some launch ∧ launch.launched = some pubkey ∧
    state.store.Admits launch ∧ state.store.isDerivedSessionPubkey pubkey = true ∧
    state.store.handleForPubkey pubkey = none

theorem step_handlesInUse {env : RequestEnv} {state : RequestState} {op : RequestOp}
    (hinv : state.store.LeaseInvariant) (hhandles : state.store.HandlesInUse) :
    (step env state op).store.HandlesInUse ↔ ¬ state.LaunchesBare op := by
  cases hattempt : state.launch op with
  | none =>
      have hguard : ¬ state.LaunchesBare op := by
        rintro ⟨launch, _, hlaunch, _⟩
        rw [hattempt] at hlaunch
        cases hlaunch
      refine ⟨fun _ => hguard, fun _ => ?_⟩
      have hchange := step_storeChange env state op
      generalize (step env state op).store = after at hchange ⊢
      cases hchange with
      | same => exact hhandles
      | allocated _ _ _ _ _ _ _ _ _ _ hallocated => exact hallocated.handlesInUse hinv hhandles
      | operated storeOp _ hlaunched =>
          rw [Store.step_handlesInUse_iff storeOp hinv hhandles]
          intro pubkey hpubkey
          rw [hlaunched] at hpubkey
          cases hpubkey
      | launched launch hlaunch =>
          rw [hattempt] at hlaunch
          cases hlaunch
  | some launch =>
      obtain ⟨pubkey, hpubkey⟩ := launch_launched hattempt
      rw [step_of_launch hattempt, Store.step_handlesInUse_iff _ hinv hhandles]
      have hused := Store.launch_inUse_iff state.store hpubkey
      have hsigners := Store.launch_signers state.store hpubkey
      constructor
      · rintro hlaunched ⟨other, otherPubkey, hother, hotherPubkey, hadmits, hderived, hnone⟩
        rw [hattempt] at hother
        cases hother
        rw [hpubkey] at hotherPubkey
        cases hotherPubkey
        exact hlaunched pubkey hpubkey (hused.mpr (Or.inr hadmits)) (hsigners.trans hderived) hnone
      · intro hguard other hother hotherUsed hderived hnone
        rw [show StoreOp.launched (.lifecycle launch) = some pubkey from hpubkey,
          Option.some.injEq] at hother
        subst hother
        have hderivedBefore := hsigners.symm.trans hderived
        rcases hused.mp hotherUsed with hbefore | hadmits
        · exact (Store.handlesInUse_iff hinv).mp hhandles pubkey hbefore hderivedBefore hnone
        · exact hguard ⟨launch, pubkey, hattempt, hpubkey, hadmits, hderivedBefore, hnone⟩

/-- In every interleaving of requests, stops and allocations, every session in use with
derived signer material has its public handle in every state reached exactly if no step
launches one whose pubkey holds no handle. -/
theorem handlesInUse_iff_guarded (env : RequestEnv) (ops : List RequestOp) :
    (∀ elapsed, elapsed <+: ops → (run (step env) empty elapsed).store.HandlesInUse) ↔
      Guarded (step env) (fun state op => ¬ state.LaunchesBare op) empty ops := by
  refine forall_prefix_iff_guarded (I := fun state : RequestState => state.store.HandlesInUse)
    (J := fun state : RequestState => state.store.LeaseInvariant) (fun _ _ => trivial) ?_
    Store.empty_leaseInvariant (fun _ op hinv _ => step_leaseInvariant op hinv)
    (fun _ _ hinv _ hhandles => step_handlesInUse hinv hhandles)
  rintro pubkey ⟨row, hrow, _⟩
  cases hrow

/-! ## A handle taken between load and reservation -/

/-- A home without agents, in which the salt itself names the keys. -/
def plainEnv : RequestEnv where
  seedHash := fun _ => 0
  signing :=
    { derive := Except.ok
      load := fun _ => .error "no such agent" }

/-- The reservation of a request in the root channel. -/
def reservationOf (request now : Nat) : RequestOp :=
  .reserve request
    { pubkey := ""
      observedHarness := "codex"
      agentSlug := "codex"
      channelH := "root"
      childPid := none
      now := now }
    { observedHarness := "codex"
      claimedHarness := ""
      bundle := "codex-pty"
      transport := "pty"
      endpointProvenance := "launch" }

def codexAgent : AgentIdentity where
  slug := "codex"
  perSessionKey := true
  pubkeyHex := none

/-- The session of `first` runs and stops.  While a request that has loaded it waits,
`second` asks for its name. -/
def nameTakenMeanwhile : List RequestOp :=
  [.prepare codexAgent (some "quill") 10 "first",
    reservationOf 0 11,
    .finish 0,
    .store (.lifecycle (.markRuntimeStoppedIfGeneration "first" 1 .operatorKill 20)),
    .load none "first" codexAgent,
    .prepare codexAgent (some "quill") 30 "second",
    reservationOf 0 31]

/-- The session of `first` runs again, and nobody can name it. -/
theorem handle_taken_before_reservation :
    ¬ ∀ env ops, (run (step env) empty ops).store.HandlesInUse := by
  intro hall
  have hhandle := hall plainEnv nameTakenMeanwhile "first"
    ⟨_, rfl, Or.inl (by decide +kernel)⟩ (by decide +kernel)
  obtain ⟨lease, hlease, hpubkey, _⟩ := hhandle.lease
  have hnone : ∀ lease ∈ (run (step plainEnv) empty nameTakenMeanwhile).store.handleLeases.rows,
      lease.pubkey ≠ "first" := by
    decide +kernel
  exact hnone lease hlease hpubkey

end RequestState

end Mosaico
