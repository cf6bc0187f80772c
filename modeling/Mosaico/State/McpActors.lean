import Mosaico.State.SessionRoutes

/-!
# Remote MCP actors

Correlation between redacted remote MCP callers and local sessions.  An actor
session has no terminal: it is reserved headless and idle, and it is ready
without a native resume locator.
-/

namespace Mosaico

open Relational Transition

namespace Session

/-- The row of a new MCP actor. -/
def mcpActor (pubkey agentSlug channel : String) (now : Nat) : Session :=
  { Session.defaults pubkey 1 now with
    agentSlug := agentSlug
    channelH := channel
    workRoot := channel
    presentationState := .headless
    recoveryState := .ready
    idleSince := now
    idleDeadline := Rust.saturatingAdd now headlessIdleTimeoutSecs
    lastSeen := now }

def mcpActivated (row : Session) (now : Nat) : Session :=
  { row with
    runtimeGeneration :=
      row.runtimeGeneration + if row.runtimeState = .stopped then 1 else 0
    runtimeState := .running
    presentationState := .headless
    workState := .idle
    lifecycleEpoch := row.lifecycleEpoch + if row.runtimeState = .stopped then 1 else 0
    idleSince := now
    idleDeadline := Rust.saturatingAdd now headlessIdleTimeoutSecs
    stoppedAt := 0
    stopReason := none
    lastSeen := now
    stateChangedAt := now }

end Session

namespace Store

def isMcpActorPubkey (store : Store) (pubkey : String) : Prop :=
  store.mcpActorAliases.Any (fun row => row.pubkey = pubkey)

instance (store : Store) (pubkey : String) : Decidable (store.isMcpActorPubkey pubkey) :=
  inferInstanceAs (Decidable (Table.Any _ _))

def mcpActorPubkey (store : Store) (actorKey : String) : Option String :=
  (store.mcpActorAliases.find? actorKey).map McpActorAlias.pubkey

/-- The statement is committed before its answer is checked, so a refused
binding has refreshed `last_seen` already. -/
def bindMcpActor (store : Store) (actorKey actorKind pubkey : String) (now : Nat) :
    Except StoreError Unit × Store :=
  match bindParams [now] with
  | .error error => (.error error, store)
  | .ok () =>
      match store.mcpActorAliases.find? actorKey with
      | none =>
          if actorKind ∉ ["openai", "grok"] ∨ store.isMcpActorPubkey pubkey then
            (.error (.constraintViolation "mcp_actor_aliases"), store)
          else
            (.ok (), { store with
              mcpActorAliases := store.mcpActorAliases.insertOrIgnore
                { actorKey := actorKey
                  actorKind := actorKind
                  pubkey := pubkey
                  createdAt := now
                  lastSeen := now } })
      | some stored =>
          if actorKind ∉ ["openai", "grok"] then
            (.error (.constraintViolation "mcp_actor_aliases"), store)
          else
            let touched := { store with
              mcpActorAliases := store.mcpActorAliases.updateWhere
                (fun row => row.actorKey = actorKey) (fun row => { row with lastSeen := now }) }
            if stored.actorKind = actorKind ∧ stored.pubkey = pubkey then (.ok (), touched)
            else (.error (.actorIdentityChanged actorKey), touched)

/-- A plain `INSERT`: a pubkey that has a session already is refused. -/
def reserveMcpActorSession (store : Store) (pubkey agentSlug channel : String) (now : Nat) :
    Except StoreError (Unit × Store) := do
  bindParams [now, Rust.saturatingAdd now headlessIdleTimeoutSecs]
  ensure (store.sessionExists pubkey = false) (.constraintViolation "sessions")
  let inserted := { store with
    sessions := store.sessions.insertOrIgnore (Session.mcpActor pubkey agentSlug channel now) }
  inserted.grantSessionRoute pubkey channel now

def activateMcpActor (store : Store) (actorKey pubkey : String) (now : Nat) :
    Except StoreError (Unit × Store) :=
  match store.getSession pubkey with
  | none => throw .noRow
  | some row => do
      ensure (row.runtimeState ≠ .stopping) .actorStopping
      ensure (row.recoveryState ≠ .revoked) .actorRevoked
      bindParams [now, Rust.saturatingAdd now headlessIdleTimeoutSecs]
      let activated : Store := { store with
        sessions := store.sessions.updateWhere (fun row => row.pubkey = pubkey)
          (fun row => row.mcpActivated now)
        mcpActorAliases := store.mcpActorAliases.updateWhere
          (fun row => row.actorKey = actorKey) (fun row => { row with lastSeen := now }) }
      return ((), activated.markHandleLive pubkey now)

end Store

end Mosaico
