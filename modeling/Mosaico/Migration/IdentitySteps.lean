import Mosaico.Migration.Steps
import Mosaico.Relational.Conflicts
import Mosaico.Relational.Pages

/-!
# From schema 5 to schema 6

Schema 5 had a row for every session of an agent and found sessions by their aliases.
Schema 6 has one row for every pubkey and locators instead of aliases.  Of the sessions of a
pubkey the last one in the order of `last_seen` replaces the others, and of their native
aliases the first one that the scan meets keeps the others out.
-/

namespace Mosaico

open Relational

/-! ## Rows -/

/-- A row of `sessions` in schema 5. -/
structure SessionV5 where
  sessionId : String
  agentPubkey : String
  agentSlug : String
  channelH : String
  harness : String
  childPid : Option Int
  transcriptPath : Option String
  alive : Int
  createdAt : Nat
  lastSeen : Nat
  working : Int
  turnStartedAt : Nat
  lastDistillAt : Nat
  workTopic : String
  workTopicSetAt : Nat
  seenCursor : Nat
  title : String
  activity : String
  resumeId : String
  distillFailStreak : Nat
  distillNoticeAt : Nat
  explicitChatPublishedAt : Nat
  deriving DecidableEq, Repr

structure SessionChannelV5 where
  sessionId : String
  channelH : String
  joinedAt : Nat
  deriving DecidableEq, Repr

def SessionChannelV5.key (row : SessionChannelV5) : String × String :=
  (row.sessionId, row.channelH)

/-- A row of `session_aliases`. -/
structure SessionAlias where
  harness : String
  externalIdKind : String
  externalId : String
  sessionId : String
  createdAt : Nat
  deriving DecidableEq, Repr

def SessionAlias.key (row : SessionAlias) : String × String × String :=
  (row.harness, row.externalIdKind, row.externalId)

/-- A row of `session_claims` in schema 6. -/
structure SessionClaim where
  pubkey : String
  agentSlug : String
  channelH : String
  harness : String
  lastActiveAt : Nat
  expiresAt : Nat
  ownerBackendPubkey : String
  ownerHost : String
  deriving DecidableEq, Repr

def SessionClaim.key (row : SessionClaim) : String × String :=
  (row.pubkey, row.channelH)

/-- A row of `session_claims` in schema 5. -/
structure SessionClaimV5 extends SessionClaim where
  codename : String
  sessionId : String
  nativeId : String
  deriving DecidableEq, Repr

def SessionClaimV5.key (row : SessionClaimV5) : String × String :=
  row.toSessionClaim.key

/-- A row of `llm_calls`, of a session in schema 5 and of a pubkey in schema 6. -/
structure LlmCall where
  id : Nat
  owner : String
  windowHash : String
  provider : String
  model : String
  systemPrompt : String
  transcriptSlice : String
  rawResponse : String
  parsedTitle : Option String
  parsedActivity : Option String
  createdAt : Nat
  deriving DecidableEq, Repr

/-- A row of `sessions` in schema 6. -/
structure SessionV6 where
  pubkey : String
  runtimeGeneration : Nat
  agentSlug : String
  channelH : String
  harness : String
  childPid : Option Int
  transcriptPath : Option String
  alive : Int
  createdAt : Nat
  lastSeen : Nat
  working : Int
  turnStartedAt : Nat
  lastDistillAt : Nat
  workTopic : String
  workTopicSetAt : Nat
  seenCursor : Nat
  title : String
  activity : String
  distillFailStreak : Nat
  distillNoticeAt : Nat
  explicitChatPublishedAt : Nat
  deriving DecidableEq, Repr

/-! ## Databases -/

namespace Schema5

def sessionColumns : List String :=
  ["session_id", "agent_pubkey", "agent_slug", "channel_h", "harness", "child_pid",
    "transcript_path", "alive", "created_at", "last_seen", "working", "turn_started_at",
    "last_distill_at", "work_topic", "work_topic_set_at", "seen_cursor", "title", "activity",
    "resume_id", "distill_fail_streak", "distill_notice_at", "explicit_chat_published_at"]

def channelColumns : List String :=
  ["session_id", "channel_h", "joined_at"]

def aliasColumns : List String :=
  ["harness", "external_id_kind", "external_id", "session_id", "created_at"]

def claimColumns : List String :=
  ["pubkey", "agent_slug", "codename", "session_id", "channel_h", "native_id", "harness",
    "last_active_at", "expires_at", "owner_backend_pubkey", "owner_host"]

def llmCallColumns : List String :=
  ["id", "session_id", "window_hash", "provider", "model", "system_prompt", "transcript_slice",
    "raw_response", "parsed_title", "parsed_activity", "created_at"]

def messageColumns : List String :=
  ["message_id", "thread_id", "channel_h", "author_pubkey", "body", "created_at", "direction",
    "sync_state", "native_event_id", "error"]

/-- The tables of schema 5 that the step reads, and the names it needs to be free. -/
structure Shape (catalogue : Catalogue) : Prop where
  sessions : catalogue "sessions" = sessionColumns
  sessionChannels : catalogue "session_channels" = channelColumns
  sessionAliases : catalogue "session_aliases" = aliasColumns
  sessionClaims : catalogue "session_claims" = claimColumns
  llmCalls : catalogue "llm_calls" = llmCallColumns
  messages : catalogue "messages" = messageColumns
  noLocators : catalogue "session_locators" = []
  noCopies : ∀ table ∈ ["migration_v5_sessions", "migration_v5_session_channels",
    "migration_v5_session_aliases", "migration_v5_session_claims", "migration_v5_llm_calls"],
    catalogue table = []

end Schema5

/-- A database of schema 5.  The rows of a table stand in the order in which a scan meets
them. -/
structure Schema5 where
  catalogue : Catalogue
  sessions : Table SessionV5.sessionId
  sessionChannels : Table SessionChannelV5.key
  sessionAliases : Table SessionAlias.key
  sessionClaims : Table SessionClaimV5.key
  llmCalls : Table LlmCall.id
  shaped : Schema5.Shape catalogue

/-- A database of schema 6.  Its channels and locators have the form of schema 9 already. -/
structure Schema6 where
  catalogue : Catalogue
  sessions : Table SessionV6.pubkey
  sessionChannels : Table SessionChannelV9.key
  sessionLocators : Table SessionLocatorV9.key
  sessionClaims : Table SessionClaim.key
  llmCalls : Table LlmCall.id

/-! ## The step -/

def SessionV5.migrated (old : SessionV5) : SessionV6 where
  pubkey := old.agentPubkey
  runtimeGeneration := 0
  agentSlug := old.agentSlug
  channelH := old.channelH
  harness := old.harness
  childPid := old.childPid
  transcriptPath := old.transcriptPath
  alive := old.alive
  createdAt := old.createdAt
  lastSeen := old.lastSeen
  working := old.working
  turnStartedAt := old.turnStartedAt
  lastDistillAt := old.lastDistillAt
  workTopic := old.workTopic
  workTopicSetAt := old.workTopicSetAt
  seenCursor := old.seenCursor
  title := old.title
  activity := old.activity
  distillFailStreak := old.distillFailStreak
  distillNoticeAt := old.distillNoticeAt
  explicitChatPublishedAt := old.explicitChatPublishedAt

/-- `CASE a.external_id_kind …`. -/
def migratedKind (externalIdKind : String) : String :=
  if externalIdKind = "harness_session" then locatorNativeResume
  else if externalIdKind = "pty_session" then locatorPty
  else if externalIdKind = "watch_pid" then locatorPid
  else locatorAcp

def SessionAlias.migrated (pubkey : String) (row : SessionAlias) : SessionLocatorV9 where
  harness := row.harness
  locatorKind := migratedKind row.externalIdKind
  locatorValue := row.externalId
  pubkey := pubkey
  createdAt := row.createdAt

/-- `idx_session_locators_native_resume`. -/
def SessionLocatorV9.nativeOwner (row : SessionLocatorV9) : Option String :=
  if row.locatorKind = locatorNativeResume then some row.pubkey else none

namespace Schema5

variable (old : Schema5)

/-- `JOIN migration_v5_sessions s USING (session_id)`. -/
def ownerOf (sessionId : String) : Option String :=
  (old.sessions.find? sessionId).map SessionV5.agentPubkey

/-- `FROM migration_v5_sessions ORDER BY last_seen`. -/
def byLastSeen : List SessionV5 :=
  ascending SessionV5.lastSeen old.sessions.rows

def migratedSessions : Table SessionV6.pubkey :=
  Table.empty.insertAllOrReplace (old.byLastSeen.map SessionV5.migrated)

def channelRows : List SessionChannelV9 :=
  old.sessionChannels.rows.filterMap fun row =>
    (old.ownerOf row.sessionId).map fun pubkey => ⟨pubkey, row.channelH, row.joinedAt⟩

def migratedChannels : Table SessionChannelV9.key :=
  Table.empty.insertAllOrIgnore old.channelRows

def locatorOf (row : SessionAlias) : Option SessionLocatorV9 :=
  (old.ownerOf row.sessionId).map fun pubkey => row.migrated pubkey

def locatorRows : List SessionLocatorV9 :=
  old.sessionAliases.rows.filterMap old.locatorOf

def migratedLocators : Table SessionLocatorV9.key :=
  Table.empty.insertAllOrIgnoreIndexed SessionLocatorV9.nativeOwner old.locatorRows

def migratedClaims : Table SessionClaim.key :=
  Table.empty.insertAllOrReplace (old.sessionClaims.rows.map SessionClaimV5.toSessionClaim)

def migratedCalls : Table LlmCall.id :=
  old.llmCalls.copyJoined
    (fun row => (old.ownerOf row.owner).map fun pubkey => { row with owner := pubkey })
    (by
      intro row out hout
      obtain ⟨pubkey, _, rfl⟩ := Option.map_eq_some_iff.mp hout
      rfl)

/-- The shape that the step to schema 6 requires. -/
def requireShape5 (catalogue : Catalogue) : Except MigrationError Unit := do
  requireShape catalogue 5 "sessions" ["session_id", "agent_pubkey"] ["pubkey"]
  requireShape catalogue 5 "session_aliases" ["external_id", "session_id"] []
  requireShape catalogue 5 "llm_calls" ["session_id", "window_hash"] ["pubkey"]
  requireShape catalogue 5 "messages" ["author_pubkey"] ["author_session"]

/-- The tables that the step drops if they are there. -/
def droppedTables : List String :=
  ["relay_channels", "relay_channel_members", "relay_channel_member_sets", "relay_profiles",
    "relay_status", "relay_agent_roster", "relay_events", "relay_reactions",
    "relay_event_quarantine", "identities", "durable_agent_sessions"]

/-- The statements of the step that change the schema, in their order. -/
def alterSchema5 (catalogue : Catalogue) : Except MigrationError Catalogue := do
  let dropped := droppedTables.foldl Catalogue.dropTableIfExists catalogue
  let renamed ← alter (dropped.renameTable "sessions" "migration_v5_sessions")
  let renamed ← alter (renamed.renameTable "session_channels" "migration_v5_session_channels")
  let renamed ← alter (renamed.renameTable "session_aliases" "migration_v5_session_aliases")
  let renamed ← alter (renamed.renameTable "session_claims" "migration_v5_session_claims")
  let renamed ← alter (renamed.renameTable "llm_calls" "migration_v5_llm_calls")
  let created ← alter (renamed.createTable "sessions"
    ["pubkey", "runtime_generation", "agent_slug", "channel_h", "harness", "child_pid",
      "transcript_path", "alive", "created_at", "last_seen", "working", "turn_started_at",
      "last_distill_at", "work_topic", "work_topic_set_at", "seen_cursor", "title", "activity",
      "distill_fail_streak", "distill_notice_at", "explicit_chat_published_at"])
  let created ← alter (created.createTable "session_channels"
    ["pubkey", "channel_h", "joined_at"])
  let created ← alter (created.createTable "session_locators"
    ["harness", "locator_kind", "locator_value", "pubkey", "created_at"])
  let created ← alter (created.createTable "session_claims"
    ["pubkey", "agent_slug", "channel_h", "harness", "last_active_at", "expires_at",
      "owner_backend_pubkey", "owner_host"])
  let created ← alter (created.createTable "llm_calls"
    ["id", "pubkey", "window_hash", "provider", "model", "system_prompt", "transcript_slice",
      "raw_response", "parsed_title", "parsed_activity", "created_at"])
  (created.readColumns "migration_v5_sessions"
    ["session_id", "agent_pubkey", "agent_slug", "channel_h", "harness", "child_pid",
      "transcript_path", "alive", "created_at", "last_seen", "working", "turn_started_at",
      "last_distill_at", "work_topic", "work_topic_set_at", "seen_cursor", "title", "activity",
      "distill_fail_streak", "distill_notice_at",
      "explicit_chat_published_at"]).mapError .statement
  (created.readColumns "migration_v5_session_channels"
    ["session_id", "channel_h", "joined_at"]).mapError .statement
  (created.readColumns "migration_v5_session_aliases"
    ["harness", "external_id_kind", "external_id", "session_id",
      "created_at"]).mapError .statement
  (created.readColumns "migration_v5_session_claims"
    ["pubkey", "agent_slug", "channel_h", "harness", "last_active_at", "expires_at",
      "owner_backend_pubkey", "owner_host"]).mapError .statement
  (created.readColumns "migration_v5_llm_calls"
    ["id", "session_id", "window_hash", "provider", "model", "system_prompt",
      "transcript_slice", "raw_response", "parsed_title", "parsed_activity",
      "created_at"]).mapError .statement
  let dropped ← alter (created.dropTable "migration_v5_sessions")
  let dropped ← alter (dropped.dropTable "migration_v5_session_channels")
  let dropped ← alter (dropped.dropTable "migration_v5_session_aliases")
  let dropped ← alter (dropped.dropTable "migration_v5_session_claims")
  alter (dropped.dropTable "migration_v5_llm_calls")

def v5ToV6 : Except MigrationError Schema6 := do
  requireShape5 old.catalogue
  let catalogue ← alterSchema5 old.catalogue
  return {
    catalogue := catalogue
    sessions := old.migratedSessions
    sessionChannels := old.migratedChannels
    sessionLocators := old.migratedLocators
    sessionClaims := old.migratedClaims
    llmCalls := old.migratedCalls }

/-- The checks and the statements fit every database of schema 5. -/
theorem requireShape5_ok : requireShape5 old.catalogue = .ok () := by
  have hshape := old.shaped
  simp [requireShape5, requireShape, Transition.ensure, hshape.sessions, hshape.sessionAliases,
    hshape.llmCalls, hshape.messages, sessionColumns, aliasColumns, llmCallColumns,
    messageColumns]

theorem alterSchema5_ok : ∃ catalogue, alterSchema5 old.catalogue = .ok catalogue := by
  have hshape := old.shaped
  have hcopies := hshape.noCopies
  simp only [List.forall_mem_cons, List.not_mem_nil, false_implies, implies_true, and_true]
    at hcopies
  obtain ⟨hfirst, hsecond, hthird, hfourth, hfifth⟩ := hcopies
  simp [alterSchema5, droppedTables, Catalogue.dropTableIfExists, alter, Catalogue.renameTable,
    Catalogue.createTable, Catalogue.dropTable, Catalogue.readColumns, Except.mapError,
    hfirst, hsecond, hthird, hfourth, hfifth, hshape.sessions,
    hshape.sessionChannels, hshape.sessionAliases, hshape.sessionClaims, hshape.llmCalls,
    hshape.noLocators, sessionColumns, channelColumns, aliasColumns, claimColumns, llmCallColumns]

end Schema5

end Mosaico
