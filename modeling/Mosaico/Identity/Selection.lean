import Mosaico.State.HandleLeases
import Mosaico.Runtime.Endpoints

/-!
# The identity of a session

Before a runtime starts, its identity is selected: a fresh one is derived and takes a
handle, a known one is loaded by its pubkey, and a durable agent reuses its configured
key.  A handle that an allocation took over belonged to another pubkey; its profile is
retired, which needs the keys of that pubkey once more.

Keys are named by their pubkey.  The derivation of keys from a salt and the agent
configuration on disk are parameters.
-/

namespace Mosaico

open Relational Transition

/-! ## Identities -/

structure SessionIdentity where
  pubkey : String
  slug : String
  handle : String
  durableAgent : Bool
  deriving DecidableEq, Repr

/-- The configuration of an agent; `pubkeyHex` is the key of a durable one. -/
structure AgentIdentity where
  slug : String
  perSessionKey : Bool
  pubkeyHex : Option String
  deriving DecidableEq, Repr

/-- Where keys come from.  `derive` yields the keys that a salt and the management key
derive, `load` the stored configuration of an agent. -/
structure SigningEnv where
  derive : String → Except String String
  load : String → Except String AgentIdentity

/-- Why no identity can be selected. -/
inductive IdentityError where
  | allocation (error : AllocationError)
  | derivation (reason : String)
  | configuration (reason : String)
  | noHandleLease (pubkey : String)
  | hostedSignerDiffers
  | saltDiffers
  | noProjection (pubkey : String)
  | durableConfigurationChanged (slug : String)
  | activeRuntime (slug pubkey : String)
  | durableNamed (slug : String)
  | noConfiguredKey
  | durableDerived (pubkey : String)
  | unknownSession (pubkey : String)
  | noHandleProjection (pubkey : String)
  | modeChanged (slug pubkey : String)
  | noSignerMaterial (pubkey : String)
  | signingChanged (slug pubkey : String)
  deriving DecidableEq, Repr

/-- The text of an error, without the diagnostics of a changed mode.  `debug` is Rust's
`{:?}` rendering of a string. -/
def IdentityError.text (debug : String → String) : IdentityError → String
  | .allocation error => error.text debug
  | .derivation reason => reason
  | .configuration reason => reason
  | .noHandleLease pubkey => "derived session " ++ pubkey ++ " has no handle lease"
  | .hostedSignerDiffers => "live hosted signer does not reproduce session pubkey"
  | .saltDiffers => "stored signer salt does not reproduce session pubkey"
  | .noProjection pubkey => "pubkey " ++ debug pubkey ++ " has no local runtime projection"
  | .durableConfigurationChanged slug =>
      "durable signer configuration changed for agent " ++ debug slug
  | .activeRuntime slug pubkey =>
      "agent " ++ debug slug ++ " has an active runtime under pubkey " ++ pubkey ++
        "; end or attach to it before changing identity mode"
  | .durableNamed slug =>
      "durable agent " ++ debug slug ++ " already uses its configured public handle " ++ debug slug
  | .noConfiguredKey => "durable agent has no configured key"
  | .durableDerived pubkey =>
      "durable pubkey " ++ pubkey ++ " already has derived signer material"
  | .unknownSession pubkey => "unknown local session pubkey " ++ pubkey
  | .noHandleProjection pubkey => "pubkey " ++ pubkey ++ " has no public handle projection"
  | .modeChanged slug pubkey =>
      "agent " ++ debug slug ++ " identity configuration changed while pubkey " ++ pubkey ++
        " is live; end the live runtime before changing perSessionKey"
  | .noSignerMaterial pubkey => "pubkey " ++ debug pubkey ++ " has no signer material"
  | .signingChanged slug pubkey =>
      "agent " ++ debug slug ++ " signing configuration no longer reproduces pubkey " ++ pubkey

namespace Store

/-- The public identity of a session: a durable agent goes by its slug, a derived
session by the handle it holds. -/
def sessionIdentity (store : Store) (pubkey : String) :
    Except IdentityError (Option SessionIdentity) :=
  match store.getSession pubkey with
  | none => .ok none
  | some session =>
      if store.isDerivedSessionPubkey pubkey = true then
        match store.handleForPubkey pubkey with
        | some handle => .ok (some ⟨pubkey, session.agentSlug, handle, false⟩)
        | none => .error (.noHandleLease pubkey)
      else .ok (some ⟨pubkey, session.agentSlug, session.agentSlug, true⟩)

/-! ## Keys -/

/-- Resolve the signer of a pubkey.  `hosted` are the keys of the engine that hosts it,
if one does. -/
def sessionSigningKeys (store : Store) (env : SigningEnv) (hosted : Option String)
    (pubkey : String) : Except IdentityError String :=
  match hosted with
  | some keys => if keys = pubkey then .ok keys else .error .hostedSignerDiffers
  | none =>
      match store.sessionSignerSalt pubkey with
      | some signerSalt => do
          let keys ← (env.derive signerSalt).mapError .derivation
          if keys = pubkey then .ok keys else .error .saltDiffers
      | none =>
          match store.getSession pubkey with
          | none => .error (.noProjection pubkey)
          | some session => do
              let agent ← (env.load session.agentSlug).mapError .configuration
              if agent.perSessionKey = true ∨ agent.pubkeyHex ≠ some pubkey then
                .error (.durableConfigurationChanged session.agentSlug)
              else .ok pubkey

/-! ## Selection -/

/-- Reject an agent whose identity mode conflicts with a running session of it. -/
def validateAgentIdentityAdmission (store : Store) (agent : AgentIdentity) :
    Except IdentityError Unit :=
  match store.listRunningSessions.find? (fun session => session.agentSlug = agent.slug ∧
      (agent.perSessionKey = false ∨ store.isDerivedSessionPubkey session.pubkey = false)) with
  | some existing => .error (.activeRuntime agent.slug existing.pubkey)
  | none => .ok ()

/-- The configuration still stands for the pubkey of the session. -/
def validateLiveSessionIdentity (store : Store) (env : SigningEnv) (session : Session)
    (agent : AgentIdentity) : Except IdentityError Unit := do
  let derived := store.isDerivedSessionPubkey session.pubkey
  ensure (derived = agent.perSessionKey) (.modeChanged session.agentSlug session.pubkey)
  let expected ←
    if derived = true then
      match store.sessionSignerSalt session.pubkey with
      | none => Except.error (.noSignerMaterial session.pubkey)
      | some signerSalt => (env.derive signerSalt).mapError .derivation
    else
      match agent.pubkeyHex with
      | none => Except.error .noConfiguredKey
      | some pubkey => Except.ok pubkey
  ensure (session.pubkey = expected) (.signingChanged session.agentSlug session.pubkey)

end Store

/-- Identity selected before a local runtime starts. -/
structure PreparedIdentity where
  keys : String
  identity : SessionIdentity
  reclaimedPubkey : Option String
  deriving DecidableEq, Repr

namespace Store

/-- The identity of a durable agent. -/
def prepareDurable (store : Store) (agent : AgentIdentity) (sessionName : Option String) :
    Except IdentityError PreparedIdentity := do
  ensure (sessionName = none) (.durableNamed agent.slug)
  match agent.pubkeyHex with
  | none => .error .noConfiguredKey
  | some pubkey => do
      ensure (store.isDerivedSessionPubkey pubkey = false) (.durableDerived pubkey)
      return ⟨pubkey, ⟨pubkey, agent.slug, agent.slug, true⟩, none⟩

/-- Select signing keys and the single public handle before process spawn.  `signerSalt`
is the salt that a fresh derivation draws. -/
def prepareSessionIdentity (store : Store) (seedHash : String → UInt64) (env : SigningEnv)
    (agent : AgentIdentity) (sessionName : Option String) (now : Nat) (signerSalt : String) :
    Except IdentityError PreparedIdentity × Store :=
  match store.validateAgentIdentityAdmission agent with
  | .error error => (.error error, store)
  | .ok () =>
      if agent.perSessionKey = false then (store.prepareDurable agent sessionName, store)
      else
        match store.reserveDerivedIdentity seedHash agent.slug sessionName now signerSalt
            (fun signerSalt => (env.derive signerSalt).map (fun keys => (keys, keys))) with
        | (.error error, after) => (.error (.allocation error), after)
        | (.ok (keys, pubkey, allocation), after) =>
            (.ok ⟨keys, ⟨pubkey, agent.slug, allocation.handle, false⟩,
              allocation.reclaimedPubkey⟩, after)

/-- Reconstruct a previously prepared identity by its authoritative pubkey. -/
def loadSessionIdentity (store : Store) (env : SigningEnv) (hosted : Option String)
    (pubkey : String) (agent : AgentIdentity) : Except IdentityError PreparedIdentity :=
  match store.getSession pubkey with
  | none => .error (.unknownSession pubkey)
  | some session => do
      store.validateLiveSessionIdentity env session agent
      match ← store.sessionIdentity pubkey with
      | none => .error (.noHandleProjection pubkey)
      | some identity => do
          let keys ← store.sessionSigningKeys env hosted pubkey
          return ⟨keys, identity, none⟩

/-- The profile that a pubkey without its handle goes by. -/
structure RetirementProfile where
  pubkey : String
  agentSlug : String
  keys : String
  deriving DecidableEq, Repr

/-- The profile that retires the previous holder of a handle, if there is one to retire.
The relay calls that publish it are left out. -/
def retireReclaimedProfile (store : Store) (env : SigningEnv) (hosted : Option String)
    (reclaimedPubkey : Option String) : Except IdentityError (Option RetirementProfile) :=
  match reclaimedPubkey with
  | none => .ok none
  | some pubkey =>
      match store.getSession pubkey with
      | none => .ok none
      | some session => do
          let keys ← store.sessionSigningKeys env hosted pubkey
          return some ⟨pubkey, session.agentSlug, keys⟩

end Store

end Mosaico
