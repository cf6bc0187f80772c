import Mosaico.Fabric.Relay
import Mosaico.Relational.Catalogue
import Mosaico.Relational.Reshaping
import Mosaico.State.Locators

/-!
# From schema 9 to the current schema

Schema 9 kept the life of a session in two flags, `alive` and `working`, and its locators
recorded no runtime generation.  The step to schema 10 maps the flags onto the states of the
session lifecycle, writes generations into the endpoint locators and keeps one endpoint of each
kind for a session.  The steps that follow add and drop columns of the `sessions` table.

A step first checks the shape of the tables it is going to change.  The flags are integers
that no constraint closes; the other integer columns hold natural numbers.
-/

namespace Mosaico

open Relational Transition

/-! ## Rows of earlier schemas -/

/-- A row of `sessions` in schema 9. -/
structure SessionV9 where
  pubkey : String
  runtimeGeneration : Nat
  agentSlug : String
  channelH : String
  workRoot : String
  readinessParent : String
  observedHarness : String
  claimedHarness : String
  admittedBundle : String
  admittedTransport : String
  endpointProvenance : String
  childPid : Option Int
  transcriptPath : Option String
  alive : Int
  createdAt : Nat
  lastSeen : Nat
  working : Int
  turnStartedAt : Nat
  seenCursor : Nat
  title : String
  explicitChatPublishedAt : Nat
  deriving DecidableEq, Repr

structure SessionChannelV9 where
  pubkey : String
  channelH : String
  joinedAt : Nat
  deriving DecidableEq, Repr

def SessionChannelV9.key (row : SessionChannelV9) : String × String :=
  (row.pubkey, row.channelH)

structure SessionLocatorV9 where
  harness : String
  locatorKind : String
  locatorValue : String
  pubkey : String
  createdAt : Nat
  deriving DecidableEq, Repr

def SessionLocatorV9.key (row : SessionLocatorV9) : String × String × String :=
  (row.harness, row.locatorKind, row.locatorValue)

/-- A row of `sessions` in the schemas 10 to 12. -/
structure SessionV10 where
  pubkey : String
  runtimeGeneration : Nat
  agentSlug : String
  channelH : String
  workRoot : String
  readinessParent : String
  observedHarness : String
  claimedHarness : String
  admittedBundle : String
  admittedTransport : String
  endpointProvenance : String
  childPid : Option Int
  transcriptPath : Option String
  runtimeState : RuntimeState
  presentationState : PresentationState
  workState : WorkState
  recoveryState : RecoveryState
  lifecycleEpoch : Nat
  attachmentEpoch : Nat
  idleSince : Nat
  idleDeadline : Nat
  stoppedAt : Nat
  stopReason : Option StopReason
  turnCount : Nat
  createdAt : Nat
  lastSeen : Nat
  turnStartedAt : Nat
  seenCursor : Nat
  title : String
  explicitChatPublishedAt : Nat
  deriving DecidableEq, Repr

/-- A row of `sessions` in the schemas 13 and 14. -/
structure SessionV13 extends SessionV10 where
  stateChangedAt : Nat
  deriving DecidableEq, Repr

def SessionV13.key (row : SessionV13) : String :=
  row.pubkey

/-- A row of `sessions` in schema 15. -/
structure SessionV15 extends SessionV13 where
  busySeconds : Nat
  deriving DecidableEq, Repr

def SessionV15.key (row : SessionV15) : String :=
  row.pubkey

/-- A database of schema 9.  A table that the catalogue does not list has no rows. -/
structure Schema9 where
  catalogue : Catalogue
  sessions : Table SessionV9.pubkey
  sessionChannels : Table SessionChannelV9.key
  sessionLocators : Table SessionLocatorV9.key
  channelMembers : Table ChannelMember.key
  sessionSigners : Table SessionSigner.pubkey
  handleLeases : Table HandleLease.handle
  mcpActorAliases : Table McpActorAlias.actorKey
  inbox : Table InboxRow.key
  eventClaims : Table EventClaim.key

/-- A database of a schema from 10 on, whose `sessions` rows are of the type `ρ`. -/
structure Schema {ρ : Type} (pubkey : ρ → String) where
  catalogue : Catalogue
  sessions : Table pubkey
  sessionChannels : Table SessionChannel.key
  sessionStanding : Table SessionStanding.key
  sessionLocators : Table SessionLocator.key
  channelMembers : Table ChannelMember.key
  sessionSigners : Table SessionSigner.pubkey
  handleLeases : Table HandleLease.handle
  mcpActorAliases : Table McpActorAlias.actorKey
  inbox : Table InboxRow.key
  eventClaims : Table EventClaim.key

/-! ## Shape checks -/

/-- Why a migration step fails. -/
inductive MigrationError where
  | missingTable (version : Nat) (table : String)
  | missingColumn (version : Nat) (table column : String)
  | unexpectedColumn (version : Nat) (table column : String)
  | partialProfileShape
  | constraintViolation (table : String)
  | statement (error : CatalogueError)
  deriving DecidableEq, Repr

/-- The text of an error of a shape check; the other texts are the database's own. -/
def MigrationError.text : MigrationError → Option String
  | .missingTable version table =>
      some ("schema " ++ toString version ++ " is missing table `" ++ table ++ "`")
  | .missingColumn version table column =>
      some ("schema " ++ toString version ++ " table `" ++ table ++ "` is missing `" ++
        column ++ "`")
  | .unexpectedColumn version table column =>
      some ("schema " ++ toString version ++ " table `" ++ table ++
        "` unexpectedly contains `" ++ column ++ "`")
  | .partialProfileShape =>
      some "schema 16 table `relay_profiles` has a partial host-profile snapshot shape"
  | .constraintViolation _ => none
  | .statement _ => none

def requireShape (catalogue : Catalogue) (version : Nat) (table : String)
    (required forbidden : List String) : Except MigrationError Unit := do
  ensure (catalogue table ≠ []) (.missingTable version table)
  required.forM fun column =>
    ensure (column ∈ catalogue table) (.missingColumn version table column)
  forbidden.forM fun column =>
    ensure (column ∉ catalogue table) (.unexpectedColumn version table column)

/-- A statement that changes the catalogue. -/
def alter (outcome : Except CatalogueError Catalogue) : Except MigrationError Catalogue :=
  outcome.mapError .statement

/-! ## Schema 9 to schema 10 -/

/-- `locator_kind IN ('pty', 'acp', 'app_server', 'pid')`. -/
def isEndpointKind (locatorKind : String) : Bool :=
  locatorKind ∈ [locatorPty, locatorAcp, locatorAppServer, locatorPid]

/-- The row that `INSERT INTO sessions SELECT … FROM migration_v9_sessions old` writes;
`resumable` is whether the pubkey owns a native resume locator. -/
def SessionV9.migrated (resumable : Bool) (old : SessionV9) : SessionV10 where
  pubkey := old.pubkey
  runtimeGeneration := old.runtimeGeneration
  agentSlug := old.agentSlug
  channelH := old.channelH
  workRoot := old.workRoot
  readinessParent := old.readinessParent
  observedHarness := old.observedHarness
  claimedHarness := old.claimedHarness
  admittedBundle := old.admittedBundle
  admittedTransport := old.admittedTransport
  endpointProvenance := old.endpointProvenance
  childPid := old.childPid
  transcriptPath := old.transcriptPath
  runtimeState := if old.alive = 1 then .running else .stopped
  presentationState := .unavailable
  workState := if old.working = 1 then .working else .idle
  recoveryState := if resumable = true then .ready else .pending
  lifecycleEpoch := if 0 < old.runtimeGeneration then old.runtimeGeneration else 1
  attachmentEpoch := 0
  idleSince := 0
  idleDeadline := 0
  stoppedAt := if old.alive = 1 then 0 else old.lastSeen
  stopReason := if old.alive = 1 then none else some .unknown
  turnCount := if old.working = 1 ∨ 0 < old.turnStartedAt ∨ 0 < old.seenCursor ∨
    0 < old.explicitChatPublishedAt ∨ resumable = true then 1 else 0
  createdAt := old.createdAt
  lastSeen := old.lastSeen
  turnStartedAt := old.turnStartedAt
  seenCursor := old.seenCursor
  title := old.title
  explicitChatPublishedAt := old.explicitChatPublishedAt

/-- `ADD COLUMN runtime_generation INTEGER NOT NULL DEFAULT 0`. -/
def SessionLocatorV9.migrated (old : SessionLocatorV9) : SessionLocator where
  harness := old.harness
  locatorKind := old.locatorKind
  locatorValue := old.locatorValue
  pubkey := old.pubkey
  runtimeGeneration := 0
  createdAt := old.createdAt

def SessionChannelV9.migrated (old : SessionChannelV9) : SessionChannel where
  pubkey := old.pubkey
  channelH := old.channelH
  grantedAt := old.joinedAt

/-- One endpoint of a kind and a harness stays with a pubkey. -/
def SessionLocator.endpointGroup (row : SessionLocator) : String × String × String :=
  (row.pubkey, row.harness, row.locatorKind)

/-- The standing of a route whose session is known; `member` is whether the relay lists the
pubkey in the channel. -/
def SessionV10.standing (session : SessionV10) (route : SessionChannel) (member : Bool) :
    SessionStanding where
  pubkey := route.pubkey
  channelH := route.channelH
  state := if member = false then .absent
    else if session.runtimeState = .stopped then .retained
    else .member
  retainUntil := if member = true ∧ session.runtimeState = .stopped then
    session.lastSeen + 3600 else 0
  standingEpoch := 1
  sessionLifecycleEpoch := session.lifecycleEpoch
  updatedAt := max session.lastSeen route.grantedAt

/-- The checks of the columns that schema 9 and schema 10 close. -/
def SessionV9.Admissible (old : SessionV9) : Prop :=
  old.admittedTransport ∈ ["", "pty", "acp", "app-server"] ∧
    old.endpointProvenance ∈ ["", "launch", "hook", "migration"]

instance (old : SessionV9) : Decidable old.Admissible :=
  inferInstanceAs (Decidable (_ ∧ _))

namespace Schema9

variable (old : Schema9)

def hasNativeResume (pubkey : String) : Prop :=
  old.sessionLocators.Any (fun row =>
    row.pubkey = pubkey ∧ row.locatorKind = locatorNativeResume)

instance (pubkey : String) : Decidable (old.hasNativeResume pubkey) :=
  inferInstanceAs (Decidable (Table.Any _ _))

def migratedSessions : Table SessionV10.pubkey :=
  old.sessions.copy (fun row => row.migrated (decide (old.hasNativeResume row.pubkey)))
    (fun _ => rfl)

/-- `COALESCE((SELECT runtime_generation FROM sessions WHERE …), 0)`. -/
def generationOf (pubkey : String) : Nat :=
  ((old.sessions.find? pubkey).map SessionV9.runtimeGeneration).getD 0

def migratedLocators : Table SessionLocator.key :=
  let added : Table SessionLocator.key :=
    old.sessionLocators.copy SessionLocatorV9.migrated (fun _ => rfl)
  let written := added.updateWhere (fun row => isEndpointKind row.locatorKind = true)
    (fun row => { row with
      runtimeGeneration :=
        ((old.migratedSessions.find? row.pubkey).map SessionV10.runtimeGeneration).getD 0 })
  -- `rowid NOT IN (SELECT MAX(rowid) … GROUP BY …)`; rows stand in the order of their rowids
  written.deleteSuperseded (fun row => isEndpointKind row.locatorKind = true)
    SessionLocator.endpointGroup

def migratedChannels : Table SessionChannel.key :=
  let joined := (Table.empty : Table SessionChannel.key).insertAllOrIgnore
    (old.sessionChannels.rows.map SessionChannelV9.migrated)
  -- a session is routed to its active channel, whether it had joined it or not
  joined.insertAllOrIgnore
    ((old.migratedSessions.select (fun session => session.channelH ≠ "")).map (fun session =>
      { pubkey := session.pubkey
        channelH := session.channelH
        grantedAt := session.createdAt }))

def migratedStanding : Table SessionStanding.key :=
  old.migratedChannels.copyJoined
    (fun route => (old.migratedSessions.find? route.pubkey).map (fun session =>
      session.standing route
        (old.channelMembers.find? (route.channelH, route.pubkey)).isSome))
    (by
      intro route out hout
      obtain ⟨session, _, rfl⟩ := Option.map_eq_some_iff.mp hout
      rfl)

/-- The columns of `sessions` in schema 10. -/
def sessionColumns : List String :=
  ["pubkey", "runtime_generation", "agent_slug", "channel_h", "work_root", "readiness_parent",
    "observed_harness", "claimed_harness", "admitted_bundle", "admitted_transport",
    "endpoint_provenance", "child_pid", "transcript_path", "runtime_state",
    "presentation_state", "work_state", "recovery_state", "lifecycle_epoch",
    "attachment_epoch", "idle_since", "idle_deadline", "stopped_at", "stop_reason",
    "turn_count", "created_at", "last_seen", "turn_started_at", "seen_cursor", "title",
    "explicit_chat_published_at"]

/-- The columns of the old `sessions` table that the copy reads. -/
def copiedColumns : List String :=
  ["pubkey", "runtime_generation", "agent_slug", "channel_h", "work_root", "readiness_parent",
    "observed_harness", "claimed_harness", "admitted_bundle", "admitted_transport",
    "endpoint_provenance", "child_pid", "transcript_path", "alive", "working",
    "turn_started_at", "seen_cursor", "explicit_chat_published_at", "last_seen", "created_at",
    "title"]

/-- The shape that the step to schema 10 requires. -/
def requireShape9 (catalogue : Catalogue) : Except MigrationError Unit := do
  requireShape catalogue 9 "sessions"
    ["pubkey", "runtime_generation", "observed_harness", "claimed_harness", "admitted_bundle",
      "admitted_transport", "endpoint_provenance", "alive", "working"]
    ["runtime_state", "lifecycle_epoch", "turn_count", "harness"]
  requireShape catalogue 9 "session_channels" ["pubkey", "channel_h", "joined_at"]
    ["granted_at"]
  requireShape catalogue 9 "session_claims" ["pubkey", "channel_h", "expires_at"] []
  requireShape catalogue 9 "session_locators"
    ["harness", "locator_kind", "locator_value", "pubkey", "created_at"]
    ["runtime_generation"]

/-- The statements of the step to schema 10 that change the schema, in their order. -/
def alterSchema9 (catalogue : Catalogue) : Except MigrationError Catalogue := do
  let renamed ← alter (catalogue.renameTable "sessions" "migration_v9_sessions")
  let renamed ← alter (renamed.renameTable "session_channels" "migration_v9_session_channels")
  let dropped ← alter (renamed.dropTable "session_claims")
  let members := dropped.createTableIfNotExists "relay_channel_members"
    ["channel_h", "pubkey", "role", "updated_at"]
  let created ← alter (members.createTable "sessions" sessionColumns)
  -- `INSERT INTO sessions SELECT …` names more columns than the shape check requires
  (created.readColumns "migration_v9_sessions" copiedColumns).mapError .statement
  let located ← alter (created.addColumn "session_locators" "runtime_generation")
  let routed ← alter (located.createTable "session_channels"
    ["pubkey", "channel_h", "granted_at"])
  let standing ← alter (routed.createTable "session_standing"
    ["pubkey", "channel_h", "state", "retain_until", "standing_epoch",
      "session_lifecycle_epoch", "updated_at"])
  (standing.readColumns "relay_channel_members" ["pubkey", "channel_h"]).mapError .statement
  let dropped ← alter (standing.dropTable "migration_v9_sessions")
  alter (dropped.dropTable "migration_v9_session_channels")

def v9ToV10 : Except MigrationError (Schema SessionV10.pubkey) := do
  requireShape9 old.catalogue
  let catalogue ← alterSchema9 old.catalogue
  -- one row that a `CHECK` refuses takes the whole step back
  ensure (∀ row ∈ old.sessions.rows, row.Admissible) (.constraintViolation "sessions")
  return {
    catalogue := catalogue
    sessions := old.migratedSessions
    sessionChannels := old.migratedChannels
    sessionStanding := old.migratedStanding
    sessionLocators := old.migratedLocators
    channelMembers := old.channelMembers
    sessionSigners := old.sessionSigners
    handleLeases := old.handleLeases
    mcpActorAliases := old.mcpActorAliases
    inbox := old.inbox
    eventClaims := old.eventClaims }

end Schema9

namespace Schema

section Sessions

variable {ρ σ : Type} {pubkey : ρ → String} {pubkey' : σ → String}

/-- The database with the `sessions` table rewritten row by row. -/
def withSessions (db : Schema pubkey) (catalogue : Catalogue) (f : ρ → σ)
    (hkey : ∀ row, pubkey' (f row) = pubkey row) : Schema pubkey' where
  catalogue := catalogue
  sessions := db.sessions.copy f hkey
  sessionChannels := db.sessionChannels
  sessionStanding := db.sessionStanding
  sessionLocators := db.sessionLocators
  channelMembers := db.channelMembers
  sessionSigners := db.sessionSigners
  handleLeases := db.handleLeases
  mcpActorAliases := db.mcpActorAliases
  inbox := db.inbox
  eventClaims := db.eventClaims

end Sessions

/-! ## Schema 10 to schema 17 -/

def v10ToV11 (db : Schema SessionV10.pubkey) :
    Except MigrationError (Schema SessionV10.pubkey) := do
  requireShape db.catalogue 10 "sessions" ["pubkey", "runtime_state", "work_state"]
    ["alive", "working"]
  requireShape db.catalogue 10 "inbox" ["event_id", "target_pubkey", "state"] []
  return { db with
    inbox := db.inbox.updateWhere
      (fun row => row.state = .injected ∧ db.sessions.Any (fun session =>
        session.pubkey = row.targetPubkey ∧ session.workState = .idle))
      (fun row => { row with state := .echoConsumed }) (InboxRow.key_inState .echoConsumed) }

def v11ToV12 (db : Schema SessionV10.pubkey) :
    Except MigrationError (Schema SessionV10.pubkey) :=
  return { db with
    catalogue := db.catalogue.createTableIfNotExists "mcp_actor_aliases"
      ["actor_key", "actor_kind", "pubkey", "created_at", "last_seen"] }

/-- `state_since` comes with the first upgrade that finds a `relay_status` table. -/
def alterSchema12 (catalogue : Catalogue) : Except MigrationError Catalogue := do
  let statusColumns := catalogue "relay_status"
  let altered ← alter (catalogue.addColumn "sessions" "state_changed_at")
  if statusColumns ≠ [] ∧ "state_since" ∉ statusColumns then
    alter (altered.addColumn "relay_status" "state_since")
  else
    return altered

/-- The last public transition that the columns of schema 12 tell of. -/
def lastTransition (row : SessionV10) : Nat :=
  if row.workState = .working ∧ 0 < row.turnStartedAt then row.turnStartedAt
  else if row.runtimeState = .stopped ∧ 0 < row.stoppedAt then row.stoppedAt
  else if 0 < row.idleSince then row.idleSince
  else row.createdAt

def addStateChangedAt (row : SessionV10) : SessionV13 where
  toSessionV10 := row
  stateChangedAt := lastTransition row

def v12ToV13 (db : Schema SessionV10.pubkey) :
    Except MigrationError (Schema SessionV13.key) := do
  let catalogue ← alterSchema12 db.catalogue
  return db.withSessions catalogue addStateChangedAt (fun _ => rfl)

def v13ToV14 (db : Schema SessionV13.key) :
    Except MigrationError (Schema SessionV13.key) := do
  requireShape db.catalogue 13 "sessions" ["pubkey", "runtime_generation", "state_changed_at"]
    []
  return { db with
    catalogue := db.catalogue.createTableIfNotExists "native_turn_attempts"
      ["id", "pubkey", "runtime_generation", "delivery_kind", "delivery_event_id",
        "native_thread_id", "native_turn_id", "outcome", "error_message", "error_details",
        "started_at", "finished_at"] }

def addBusySeconds (row : SessionV13) : SessionV15 where
  toSessionV13 := row
  busySeconds := 0

def v14ToV15 (db : Schema SessionV13.key) :
    Except MigrationError (Schema SessionV15.key) := do
  requireShape db.catalogue 14 "sessions"
    ["pubkey", "work_state", "turn_started_at", "turn_count"] ["busy_seconds"]
  let catalogue ← alter (db.catalogue.addColumn "sessions" "busy_seconds")
  return db.withSessions catalogue addBusySeconds (fun _ => rfl)

/-- The row without `explicit_chat_published_at` and `transcript_path`. -/
def dropChatAndTranscript (row : SessionV15) : Session where
  pubkey := row.pubkey
  runtimeGeneration := row.runtimeGeneration
  agentSlug := row.agentSlug
  channelH := row.channelH
  workRoot := row.workRoot
  readinessParent := row.readinessParent
  observedHarness := row.observedHarness
  claimedHarness := row.claimedHarness
  admittedBundle := row.admittedBundle
  admittedTransport := row.admittedTransport
  endpointProvenance := row.endpointProvenance
  childPid := row.childPid
  runtimeState := row.runtimeState
  presentationState := row.presentationState
  workState := row.workState
  recoveryState := row.recoveryState
  lifecycleEpoch := row.lifecycleEpoch
  attachmentEpoch := row.attachmentEpoch
  idleSince := row.idleSince
  idleDeadline := row.idleDeadline
  stoppedAt := row.stoppedAt
  stopReason := row.stopReason
  turnCount := row.turnCount
  busySeconds := row.busySeconds
  createdAt := row.createdAt
  lastSeen := row.lastSeen
  turnStartedAt := row.turnStartedAt
  seenCursor := row.seenCursor
  title := row.title
  stateChangedAt := row.stateChangedAt

def v15ToV16 (db : Schema SessionV15.key) :
    Except MigrationError (Schema Session.pubkey) := do
  requireShape db.catalogue 15 "sessions"
    ["pubkey", "runtime_generation", "explicit_chat_published_at", "transcript_path"] []
  let altered ← alter (db.catalogue.dropColumn "sessions" "explicit_chat_published_at")
  let catalogue ← alter (altered.dropColumn "sessions" "transcript_path")
  return db.withSessions catalogue dropChatAndTranscript (fun _ => rfl)

/-- Whether the step to schema 17 adds the columns of host profiles: both or none. -/
def addsProfileColumns (catalogue : Catalogue) : Except MigrationError Bool := do
  let columns := catalogue "relay_profiles"
  if columns = [] then
    return false
  else
    requireShape catalogue 16 "relay_profiles" ["pubkey", "host", "is_backend", "updated_at"] []
    if "agents_json" ∉ columns ∧ "workspaces_json" ∉ columns then
      return true
    else if "agents_json" ∈ columns ∧ "workspaces_json" ∈ columns then
      return false
    else
      throw .partialProfileShape

def addProfileColumns (catalogue : Catalogue) : Except MigrationError Catalogue := do
  let agents ← alter (catalogue.addColumn "relay_profiles" "agents_json")
  alter (agents.addColumn "relay_profiles" "workspaces_json")

/-- The schema 17 has no `relay_agent_roster`; the rows of the profiles are not modelled. -/
def alterSchema16 (catalogue : Catalogue) : Except MigrationError Catalogue := do
  let rosterExists := decide (catalogue "relay_agent_roster" ≠ [])
  let adds ← addsProfileColumns catalogue
  if rosterExists = true then
    requireShape catalogue 16 "relay_agent_roster"
      ["backend_pubkey", "agent_slug", "channel_h", "use_criteria"] []
    let altered ← if adds = true then addProfileColumns catalogue else return catalogue
    alter (altered.dropTable "relay_agent_roster")
  else if adds = true then
    addProfileColumns catalogue
  else
    return catalogue

def v16ToV17 (db : Schema Session.pubkey) : Except MigrationError (Schema Session.pubkey) := do
  let catalogue ← alterSchema16 db.catalogue
  return { db with catalogue := catalogue }

/-- The tables of the current schema. -/
def store (db : Schema Session.pubkey) : Store where
  sessions := db.sessions
  sessionChannels := db.sessionChannels
  sessionStanding := db.sessionStanding
  sessionLocators := db.sessionLocators
  sessionSigners := db.sessionSigners
  handleLeases := db.handleLeases
  mcpActorAliases := db.mcpActorAliases
  inbox := db.inbox
  eventClaims := db.eventClaims

end Schema

/-- The upgrade of a database that is stamped with version 9. -/
def Schema9.upgrade (old : Schema9) : Except MigrationError Store := do
  let v10 ← old.v9ToV10
  let v11 ← v10.v10ToV11
  let v12 ← v11.v11ToV12
  let v13 ← v12.v12ToV13
  let v14 ← v13.v13ToV14
  let v15 ← v14.v14ToV15
  let v16 ← v15.v15ToV16
  let v17 ← v16.v16ToV17
  return v17.store

end Mosaico
