import Mosaico.Identity.Selection
import Mosaico.Leases.Safety

/-!
# Requests that launch a session

A start, a launch, a resume and an adoption have one shape.  The identity is selected
first; a fresh one takes a handle right away.  Then come steps outside the store, each
of which may fail: an agent is resolved, a process is spawned, the relay is asked.
Only then is the runtime reserved for the selected pubkey, and the request ends.

The steps of several requests interleave with each other and with every other
operation of the store.  A remote actor that is known already is activated at once,
without a selection.
-/

namespace Mosaico

open Relational Transition

/-! ## Operations -/

/-- What a request finds outside the store. -/
structure RequestEnv where
  seedHash : String → UInt64
  signing : SigningEnv

/-- The store and the identities that requests in flight have selected. -/
structure RequestState where
  store : Store
  inFlight : List PreparedIdentity

/-- A step of a request, which is named by its place among those in flight, or an
operation of the store. -/
inductive RequestOp where
  | prepare (agent : AgentIdentity) (sessionName : Option String) (now : Nat)
      (signerSalt : String)
  | load (hosted : Option String) (pubkey : String) (agent : AgentIdentity)
  | reserve (request : Nat) (r : RegisterSession) (facts : AdmittedRuntimeFacts)
  | reserveActor (request : Nat) (agentSlug channel : String) (now : Nat)
  | activateActor (actorKey : String) (now : Nat)
  /-- The request ends, with success or with a failure at any of its steps. -/
  | finish (request : Nat)
  | store (op : StoreOp)

/-- The pubkey that an operation launches. -/
def LifecycleOp.launched : LifecycleOp → Option String
  | .reserveSessionWithFacts r _ => some r.pubkey
  | .reserveMcpActorSession pubkey _ _ _ => some pubkey
  | .activateMcpActor _ pubkey _ => some pubkey
  | _ => none

def StoreOp.launched : StoreOp → Option String
  | .lifecycle op => op.launched
  | _ => none

namespace RequestState

def empty : RequestState where
  store := Store.empty
  inFlight := []

/-- The launch that an operation attempts. -/
def launch (state : RequestState) : RequestOp → Option LifecycleOp
  | .reserve request r facts => (state.inFlight[request]?).map (fun prepared =>
      .reserveSessionWithFacts { r with pubkey := prepared.identity.pubkey } facts)
  | .reserveActor request agentSlug channel now => (state.inFlight[request]?).map (fun prepared =>
      .reserveMcpActorSession prepared.identity.pubkey agentSlug channel now)
  | .activateActor actorKey now => (state.store.mcpActorPubkey actorKey).map (fun pubkey =>
      .activateMcpActor actorKey pubkey now)
  | _ => none

/-- A selected identity is in flight from then on. -/
def selected (state : RequestState) (outcome : Except IdentityError PreparedIdentity) :
    RequestState :=
  match outcome with
  | .ok prepared => { state with inFlight := state.inFlight ++ [prepared] }
  | .error _ => state

/-- Sessions are launched by requests only, so that any other launch is no step. -/
def step (env : RequestEnv) (state : RequestState) (op : RequestOp) : RequestState :=
  match op with
  | .prepare agent sessionName now signerSalt =>
      let outcome := state.store.prepareSessionIdentity env.seedHash env.signing agent
        sessionName now signerSalt
      { state with store := outcome.2 }.selected outcome.1
  | .load hosted pubkey agent =>
      state.selected (state.store.loadSessionIdentity env.signing hosted pubkey agent)
  | .finish request => { state with inFlight := state.inFlight.eraseIdx request }
  | .store op =>
      if op.launched = none then { state with store := state.store.step op } else state
  | op =>
      match state.launch op with
      | some launch => { state with store := state.store.lifecycleStep launch }
      | none => state

end RequestState

/-! ## What an operation does to the store -/

namespace Store

theorem launches_iff {pubkey : String} {op : StoreOp} :
    StoreOp.Launches pubkey op ↔ op.launched = some pubkey := by
  cases op with
  | lifecycle op =>
      cases op <;> simp [StoreOp.Launches, LifecycleOp.Launches, StoreOp.launched,
        LifecycleOp.launched]
  | inbox op | locator op | standing op | context op => simp [StoreOp.Launches, StoreOp.launched]

/-- An allocation writes no signer but the one it binds. -/
theorem Allocated.sessionSigners {store after : Store} {pubkey agentSlug : String} {now : Nat}
    {byCodename : Bool} {allocation : HandleAllocation}
    (hallocated : store.Allocated pubkey agentSlug now byCodename allocation after) :
    after.sessionSigners = store.sessionSigners := by
  cases hallocated with
  | renewed | fresh | reclaimed => rfl

/-- The signer of a pubkey stays, unless its revocation is finalized. -/
theorem sessionSignerSalt_step (store : Store) (op : StoreOp) (pubkey : String) :
    (store.step op).sessionSignerSalt pubkey = store.sessionSignerSalt pubkey ∨
      store.Forgets pubkey op ∧ (store.step op).sessionSignerSalt pubkey = none := by
  have hkept : (store.step op).sessionSigners = store.sessionSigners →
      (store.step op).sessionSignerSalt pubkey = store.sessionSignerSalt pubkey := by
    intro hsame
    rw [sessionSignerSalt, sessionSignerSalt, hsame]
  cases step_leaseWrite store op with
  | kept hsame => exact Or.inl (hkept hsame.sessionSigners)
  | touched _ _ _ hsame | renewed _ _ _ _ hsame => exact Or.inl (hkept hsame)
  | stopped other stoppedAt hleases hstopped hsigners =>
      rcases hsigners with hsame | ⟨hforgets, hdeleted⟩
      · exact Or.inl (hkept hsame)
      · rw [sessionSignerSalt, sessionSignerSalt, hdeleted]
        rcases Table.find?_deleteWhere_cases store.sessionSigners
            (fun row => row.pubkey = other) pubkey with hsame | ⟨hnone, row, hrow, hother⟩
        · rw [hsame]
          exact Or.inl rfl
        · have hpubkey : other = pubkey := hother.symm.trans (Table.key_of_find? hrow)
          rw [hnone]
          exact Or.inr ⟨hpubkey ▸ hforgets, rfl⟩

/-- A selection stores a signer and takes a handle, or leaves the store as it is. -/
theorem prepareSessionIdentity_cases (store : Store) (seedHash : String → UInt64)
    (env : SigningEnv) (agent : AgentIdentity) (sessionName : Option String) (now : Nat)
    (signerSalt : String) :
    let outcome := store.prepareSessionIdentity seedHash env agent sessionName now signerSalt
    (∃ prepared allocation, outcome.1 = .ok prepared ∧
        env.derive signerSalt = .ok prepared.identity.pubkey ∧
        (store.withSigner prepared.identity.pubkey signerSalt).sessionSignerSalt
          prepared.identity.pubkey = some signerSalt ∧
        (store.withSigner prepared.identity.pubkey signerSalt).Allocated
          prepared.identity.pubkey agent.slug now sessionName.isNone allocation outcome.2) ∨
      outcome.2 = store := by
  intro outcome
  cases hadmitted : store.validateAgentIdentityAdmission agent with
  | error error =>
      right
      show (store.prepareSessionIdentity seedHash env agent sessionName now signerSalt).2 = store
      rw [prepareSessionIdentity, hadmitted]
  | ok =>
      by_cases hdurable : agent.perSessionKey = false
      · right
        show (store.prepareSessionIdentity seedHash env agent sessionName now signerSalt).2 = store
        rw [prepareSessionIdentity, hadmitted]
        dsimp only
        rw [if_pos hdurable]
      · have houtcome : outcome = store.prepareSessionIdentity seedHash env agent sessionName now
            signerSalt := rfl
        rw [prepareSessionIdentity, hadmitted] at houtcome
        dsimp only at houtcome
        rw [if_neg hdurable] at houtcome
        have hcases := store.reserveDerivedIdentity_cases seedHash agent.slug sessionName now
          signerSalt (fun signerSalt => (env.derive signerSalt).map (fun keys => (keys, keys)))
        dsimp only at hcases
        rcases hcases with ⟨keys, pubkey, allocation, hok, hderived, hsalt, hallocated⟩ |
          ⟨⟨error, herror⟩, hsame⟩
        · left
          generalize hreserved : store.reserveDerivedIdentity seedHash agent.slug sessionName now
            signerSalt _ = reserved at hok hallocated houtcome
          obtain ⟨result, after⟩ := reserved
          cases hok
          rw [houtcome]
          refine ⟨_, allocation, rfl, ?_, hsalt, hallocated⟩
          cases hkeys : env.derive signerSalt with
          | error reason =>
              rw [hkeys] at hderived
              cases hderived
          | ok derived =>
              rw [hkeys] at hderived
              cases hderived
              rfl
        · right
          generalize hreserved : store.reserveDerivedIdentity seedHash agent.slug sessionName now
            signerSalt _ = reserved at herror hsame houtcome
          obtain ⟨result, after⟩ := reserved
          cases herror
          rw [houtcome]
          exact hsame

end Store

namespace RequestState

@[simp] theorem selected_store (state : RequestState)
    (outcome : Except IdentityError PreparedIdentity) :
    (state.selected outcome).store = state.store := by
  cases outcome <;> rfl

/-- The store after an operation: an allocation by a selection, an operation of the store
that launches nothing, a launch for a request, or the same store. -/
inductive StoreChange (env : RequestEnv) (state : RequestState) (op : RequestOp) : Store → Prop
  | same : StoreChange env state op state.store
  | allocated (agentSlug : String) (now : Nat) (byCodename : Bool) (signerSalt : String)
      (prepared : PreparedIdentity) (allocation : HandleAllocation) (after : Store)
      (hin : prepared ∈ (step env state op).inFlight)
      (hderived : env.signing.derive signerSalt = .ok prepared.identity.pubkey)
      (hsalt : (state.store.withSigner prepared.identity.pubkey signerSalt).sessionSignerSalt
        prepared.identity.pubkey = some signerSalt)
      (hallocated : (state.store.withSigner prepared.identity.pubkey signerSalt).Allocated
        prepared.identity.pubkey agentSlug now byCodename allocation after) :
      StoreChange env state op after
  | operated (storeOp : StoreOp) (hop : op = .store storeOp) (hlaunched : storeOp.launched = none) :
      StoreChange env state op (state.store.step storeOp)
  | launched (launch : LifecycleOp) (hlaunch : state.launch op = some launch) :
      StoreChange env state op (state.store.step (.lifecycle launch))

/-- What is attempted launches a session. -/
theorem launch_launched {state : RequestState} {op : RequestOp} {launch : LifecycleOp}
    (hlaunch : state.launch op = some launch) : ∃ pubkey, launch.launched = some pubkey := by
  cases op with
  | reserve request r facts | reserveActor request agentSlug channel now =>
      obtain ⟨prepared, _, rfl⟩ := Option.map_eq_some_iff.mp hlaunch
      exact ⟨_, rfl⟩
  | activateActor actorKey now =>
      obtain ⟨pubkey, _, rfl⟩ := Option.map_eq_some_iff.mp hlaunch
      exact ⟨_, rfl⟩
  | prepare agent sessionName now signerSalt | load hosted pubkey agent | finish request
  | store op => cases hlaunch

theorem step_of_launch {env : RequestEnv} {state : RequestState} {op : RequestOp}
    {launch : LifecycleOp} (hlaunch : state.launch op = some launch) :
    step env state op = { state with store := state.store.step (.lifecycle launch) } := by
  cases op with
  | reserve request r facts | reserveActor request agentSlug channel now
  | activateActor actorKey now =>
      simp only [step, hlaunch]
      rfl
  | prepare agent sessionName now signerSalt | load hosted pubkey agent | finish request
  | store op => cases hlaunch

theorem step_storeChange (env : RequestEnv) (state : RequestState) (op : RequestOp) :
    StoreChange env state op (step env state op).store := by
  cases hattempt : state.launch op with
  | some launch =>
      rw [step_of_launch hattempt]
      exact .launched launch hattempt
  | none =>
      cases op with
      | reserve request r facts | reserveActor request agentSlug channel now
      | activateActor actorKey now =>
          simp only [step, hattempt]
          exact .same
      | load hosted pubkey agent =>
          show StoreChange env state _ (state.selected _).store
          rw [selected_store]
          exact .same
      | finish request => exact .same
      | store op =>
          by_cases hlaunched : op.launched = none
          · have hstep : (step env state (.store op)).store = state.store.step op := by
              simp only [step, if_pos hlaunched]
            rw [hstep]
            exact .operated op rfl hlaunched
          · have hstep : (step env state (.store op)).store = state.store := by
              simp only [step, if_neg hlaunched]
            rw [hstep]
            exact .same
      | prepare agent sessionName now signerSalt =>
          have hstore : (step env state (.prepare agent sessionName now signerSalt)).store =
              (state.store.prepareSessionIdentity env.seedHash env.signing agent sessionName now
                signerSalt).2 := by
            rw [step]
            exact selected_store _ _
          rw [hstore]
          rcases state.store.prepareSessionIdentity_cases env.seedHash env.signing agent sessionName
            now signerSalt with ⟨prepared, allocation, hok, hderived, hsalt, hallocated⟩ | hsame
          · refine .allocated agent.slug now sessionName.isNone signerSalt prepared allocation _ ?_
              hderived hsalt hallocated
            rw [step, hok]
            exact List.mem_append_right _ List.mem_cons_self
          · rw [hsame]
            exact .same

/-- Requests keep the invariant of the leases. -/
theorem step_leaseInvariant {env : RequestEnv} {state : RequestState} (op : RequestOp)
    (hinv : state.store.LeaseInvariant) : (step env state op).store.LeaseInvariant := by
  have hchange := step_storeChange env state op
  generalize (step env state op).store = after at hchange ⊢
  cases hchange with
  | same => exact hinv
  | allocated agentSlug now byCodename signerSalt prepared allocation after hin hderived hsalt
      hallocated => exact hallocated.leaseInvariant (hinv.withSigner _ _)
  | operated storeOp => exact Store.step_leaseInvariant hinv storeOp
  | launched launch => exact Store.step_leaseInvariant hinv (.lifecycle launch)

end RequestState

end Mosaico
