import Mosaico.Fabric.Intake
import Mosaico.Rust.Text
import Mosaico.State.HandleLeases

/-!
# The wire shape of domain events

What travels on the fabric, and how the NIP-29 codec writes it into a relay event and
reads it back.  Of an event only the kind, the content and the tags are written; its
author is whoever signs it.  `Tag::parse` refuses only a tag without any part, which
the codec never writes, so that every domain event can be encoded.

The JSON reader and writer of profile contents and the public key parser are
parameters.
-/

namespace Mosaico

/-! ## Domain events -/

namespace Domain

structure AgentRef where
  pubkey : String
  slug : String
  deriving DecidableEq, Repr

/-- `agent.slug` is the published display handle, `agentSlug` the role behind it. -/
structure Profile where
  agent : AgentRef
  agentSlug : String
  host : String
  workspace : String
  owners : List String
  isBackend : Bool
  agents : List (String × String)
  workspaces : List String
  deriving DecidableEq, Repr

structure Activity where
  agent : AgentRef
  channel : String
  text : String
  deriving DecidableEq, Repr

structure Status where
  agent : AgentRef
  channels : List String
  host : String
  title : String
  activity : String
  state : SessionState
  stateSince : UInt64
  relCwd : String
  expiresAt : Option UInt64
  dispatchEvent : Option String
  deriving DecidableEq

structure ChatMessage where
  sender : AgentRef
  channel : String
  body : String
  mentionedPubkeys : List String
  deriving DecidableEq, Repr

structure Reaction where
  reactor : AgentRef
  channel : String
  targetEventId : String
  emoji : String
  deriving DecidableEq, Repr

def maxReactionEmojiBytes : Nat := 16

/-- The trust-boundary predicate for reaction payloads. -/
def Reaction.emojiIsValid (emoji : String) : Bool :=
  let emoji := Rust.trim emoji
  emoji ≠ "" && emoji.utf8ByteSize ≤ maxReactionEmojiBytes &&
    !emoji.toList.any (fun c => Rust.isControl c || Rust.isWhitespace c)

end Domain

inductive DomainEvent where
  | profile (profile : Domain.Profile)
  | activity (activity : Domain.Activity)
  | status (status : Domain.Status)
  | chatMessage (message : Domain.ChatMessage)
  | reaction (reaction : Domain.Reaction)
  deriving DecidableEq

/-- The variants of `DomainEvent`. -/
inductive DomainVariant where
  | profile
  | activity
  | status
  | chatMessage
  | reaction
  deriving DecidableEq, Repr

def DomainEvent.variant : DomainEvent → DomainVariant
  | .profile _ => .profile
  | .activity _ => .activity
  | .status _ => .status
  | .chatMessage _ => .chatMessage
  | .reaction _ => .reaction

/-! ## Texts -/

namespace SessionState

def asStr : SessionState → String
  | .working => "working"
  | .idle => "idle"
  | .suspended => "suspended"
  | .offline => "offline"

def parse (value : String) : Option SessionState :=
  if value = "working" then some .working
  else if value = "idle" then some .idle
  else if value = "suspended" then some .suspended
  else if value = "offline" then some .offline
  else none

@[simp] theorem parse_asStr (state : SessionState) : parse state.asStr = some state := by
  cases state <;> rfl

end SessionState

/-- A parsed JSON text, as far as profile contents are concerned. -/
inductive JsonValue where
  | string (text : String)
  | object (fields : List (String × JsonValue))
  | other

namespace JsonValue

def get? (value : JsonValue) (key : String) : Option JsonValue :=
  match value with
  | .object fields => fields.lookup key
  | _ => none

def asStr? : JsonValue → Option String
  | .string text => some text
  | _ => none

end JsonValue

/-- What the codec takes from other crates. -/
structure CodecEnv where
  jsonToString : JsonValue → String
  jsonFromStr : String → Option JsonValue
  publicKeyParse : String → Option String

/-- The content of a profile. -/
def nameObject (name : String) : JsonValue := .object [("name", .string name)]

namespace CodecEnv

/-- The JSON reader reads what the JSON writer has written. -/
def ReadsNames (env : CodecEnv) : Prop :=
  ∀ name, env.jsonFromStr (env.jsonToString (nameObject name)) = some (nameObject name)

def normalizePubkey (env : CodecEnv) (value : String) : Option String :=
  env.publicKeyParse (Rust.trim value)

/-- Convert the name of a profile into the canonical session handle. -/
def sessionHandleFromProfileName (env : CodecEnv) (name agentSlug : String) : String :=
  let name := Rust.trim name
  if Rust.trim agentSlug = "" ∨ name = Rust.trim agentSlug ∨
      (env.normalizePubkey name).isSome = true then name
  else sessionHandle agentSlug name

def nameFromMetadata (env : CodecEnv) (content : String) : String :=
  match env.jsonFromStr content with
  | none => ""
  | some value =>
      (["display_name", "name"].findSome? (fun key =>
        (((value.get? key).bind JsonValue.asStr?).map Rust.trim).filter (· ≠ ""))).getD ""

end CodecEnv

/-! ## Encoding -/

/-- What an event says before it is signed. -/
structure EventBuilder where
  kind : Nat
  content : String
  tags : List (List String)
  deriving DecidableEq, Repr

/-- What the signature adds. -/
structure Signature where
  id : String
  pubkey : String
  createdAt : Nat

/-- Signing keeps the kind, the content and the tags in their order. -/
def EventBuilder.sign (builder : EventBuilder) (signature : Signature) : Event where
  id := signature.id
  kind := builder.kind
  pubkey := signature.pubkey
  createdAt := signature.createdAt
  content := builder.content
  tags := builder.tags

/-- A tag that is written unless its value is empty. -/
def optionalTag (name value : String) : List (List String) :=
  if value = "" then [] else [[name, value]]

/-- One tag for every value. -/
def repeatedTag (name : String) (values : List String) : List (List String) :=
  values.map (fun value => [name, value])

/-- The advertised agents of a backend. -/
def agentTags (agents : List (String × String)) : List (List String) :=
  agents.map (fun agent => ["agent", agent.1, agent.2])

def kindProfile : Nat := 0
def kindActivity : Nat := 1
def kindReaction : Nat := 7
def kindStatus : Nat := 30315

namespace Nip29WireCodec

def encodeProfile (env : CodecEnv) (pf : Domain.Profile) : EventBuilder where
  kind := kindProfile
  content := env.jsonToString (nameObject
    (if pf.isBackend then pf.agent.slug
      else env.sessionHandleFromProfileName pf.agent.slug pf.agentSlug))
  tags := [["host", pf.host]] ++
    optionalTag "agent-slug" pf.agentSlug ++
    (if pf.isBackend then [] else optionalTag "workspace" pf.workspace) ++
    repeatedTag "p" pf.owners ++
    (if pf.isBackend then
      [["backend"]] ++ agentTags pf.agents ++ repeatedTag "workspace" pf.workspaces
    else [])

def encodeActivity (activity : Domain.Activity) : EventBuilder where
  kind := kindActivity
  content := activity.text
  tags := [["h", activity.channel]]

def encodeStatus (status : Domain.Status) : EventBuilder where
  kind := kindStatus
  content := status.activity
  tags := [["d", "status"], ["title", status.title], ["state", status.state.asStr],
      ["state-since", Rust.u64ToString status.stateSince], ["host", status.host],
      ["slug", status.agent.slug]] ++
    repeatedTag "h" status.channels ++
    optionalTag "rel-cwd" status.relCwd ++
    repeatedTag "expiration" (status.expiresAt.map Rust.u64ToString).toList ++
    repeatedTag "e" (status.dispatchEvent.filter (· ≠ "")).toList

def encodeChatMessage (message : Domain.ChatMessage) : EventBuilder where
  kind := kindChat
  content := message.body
  tags := [["h", message.channel]] ++ repeatedTag "p" message.mentionedPubkeys

/-- The channel scopes the reaction to its group. -/
def encodeReaction (reaction : Domain.Reaction) : EventBuilder where
  kind := kindReaction
  content := reaction.emoji
  tags := [["e", reaction.targetEventId]] ++ optionalTag "h" reaction.channel

def encodeEvent (env : CodecEnv) : DomainEvent → EventBuilder
  | .profile pf => encodeProfile env pf
  | .activity activity => encodeActivity activity
  | .status status => encodeStatus status
  | .chatMessage message => encodeChatMessage message
  | .reaction reaction => encodeReaction reaction

/-! ## Decoding -/

/-- A tag has the name, whatever else is in it. -/
def hasBareTag (event : Event) (name : String) : Bool :=
  event.tags.any (fun tag => tag.head? = some name)

/-- An advertised agent; a missing description is empty. -/
def managedAgent : List String → Option (String × String)
  | key :: slug :: rest => if key = "agent" then some (slug, rest.headD "") else none
  | _ => none

def managedAgents (event : Event) : List (String × String) :=
  event.tags.filterMap managedAgent

def decodeProfile (env : CodecEnv) (event : Event) : Domain.Profile :=
  let isBackend := hasBareTag event "backend"
  let name := env.nameFromMetadata event.content
  let agentSlug := (nostrTag event "agent-slug").getD ""
  { agent :=
      { pubkey := event.pubkey
        slug := if isBackend then name else env.sessionHandleFromProfileName name agentSlug }
    agentSlug := agentSlug
    host := (nostrTag event "host").getD ""
    workspace := if isBackend then "" else (nostrTag event "workspace").getD ""
    owners := allTagValues event "p"
    isBackend := isBackend
    agents := if isBackend then managedAgents event else []
    workspaces := if isBackend then allTagValues event "workspace" else [] }

def decodeStatus (event : Event) : Option Domain.Status := do
  let d ← nostrTag event "d"
  guard (d = "status")
  let channels := allTagValues event "h"
  guard (channels ≠ [])
  let slug ← nostrTag event "slug"
  let host ← nostrTag event "host"
  let title ← nostrTag event "title"
  let state ← (← nostrTag event "state") |> SessionState.parse
  let stateSince ← (← nostrTag event "state-since") |> Rust.parseU64
  return {
    agent := { pubkey := event.pubkey, slug := slug }
    channels := channels
    host := host
    title := title
    activity := event.content
    state := state
    stateSince := stateSince
    relCwd := (nostrTag event "rel-cwd").getD ""
    expiresAt := (nostrTag event "expiration").bind Rust.parseU64
    dispatchEvent := nostrTag event "e" }

/-- The slug is not on the wire. -/
def decodeChatMessage (event : Event) : Option Domain.ChatMessage :=
  (nostrTag event "h").map (fun channel =>
    { sender := { pubkey := event.pubkey, slug := "" }
      channel := channel
      body := event.content
      mentionedPubkeys := allTagValues event "p" })

def decodeActivity (event : Event) : Option Domain.Activity :=
  (nostrTag event "h").map (fun channel =>
    { agent := { pubkey := event.pubkey, slug := "" }
      channel := channel
      text := event.content })

/-- The content of an inbound reaction is untrusted. -/
def decodeReaction (event : Event) : Option Domain.Reaction := do
  let targetEventId ← nostrTag event "e"
  guard (Domain.Reaction.emojiIsValid event.content = true)
  return {
    reactor := { pubkey := event.pubkey, slug := "" }
    channel := (nostrTag event "h").getD ""
    targetEventId := targetEventId
    emoji := event.content }

def decodeEvent (env : CodecEnv) (event : Event) : Option DomainEvent :=
  if event.kind = kindProfile then some (.profile (decodeProfile env event))
  else if event.kind = kindStatus then (decodeStatus event).map .status
  else if event.kind = kindChat then (decodeChatMessage event).map .chatMessage
  else if event.kind = kindActivity then (decodeActivity event).map .activity
  else if event.kind = kindReaction then (decodeReaction event).map .reaction
  else none

end Nip29WireCodec

end Mosaico
