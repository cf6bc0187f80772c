import Mosaico.Codec.RoundTrip
import Mosaico.Fabric.Wire

/-!
# Round trips of the NIP-29 codec

An encoded event comes back as its normal form: with the signer as its author,
without what its kind does not carry, and with its handle normalized.  A status
without a channel and a reaction without a valid emoji can be encoded and are refused.
-/

namespace Mosaico

open Codec

/-! ## Lookups in lists of tags -/

section Tags

variable {name key : String}

/-- No tag has the name. -/
def Unnamed (name : String) (tags : List (List String)) : Prop :=
  ∀ tag ∈ tags, tag.head? ≠ some name

theorem tagValue_of_head_ne {tag : List String} (hhead : tag.head? ≠ some name) :
    tagValue name tag = none := by
  match tag with
  | [] => rfl
  | [_] => rfl
  | other :: value :: rest =>
      rw [tagValue, if_neg (fun heq => hhead (by rw [heq]; rfl))]

namespace Unnamed

variable {tags : List (List String)}

theorem findSome? (hunnamed : Unnamed name tags) : tags.findSome? (tagValue name) = none :=
  List.findSome?_eq_none_iff.mpr (fun tag htag => tagValue_of_head_ne (hunnamed tag htag))

theorem filterMap (hunnamed : Unnamed name tags) : tags.filterMap (tagValue name) = [] :=
  List.filterMap_eq_nil_iff.mpr (fun tag htag => tagValue_of_head_ne (hunnamed tag htag))

theorem any_eq_false (hunnamed : Unnamed name tags) :
    tags.any (fun tag => decide (tag.head? = some name)) = false := by
  rw [List.any_eq_false]
  intro tag htag
  simpa using hunnamed tag htag

theorem managedAgent (hunnamed : Unnamed "agent" tags) :
    tags.filterMap Nip29WireCodec.managedAgent = [] := by
  rw [List.filterMap_eq_nil_iff]
  intro tag htag
  have hhead := hunnamed tag htag
  match tag with
  | [] => rfl
  | [_] => rfl
  | other :: slug :: rest =>
      rw [Nip29WireCodec.managedAgent, if_neg (fun heq => hhead (by rw [heq]; rfl))]

end Unnamed

theorem unnamed_repeatedTag (hne : key ≠ name) (values : List String) :
    Unnamed name (repeatedTag key values) := by
  intro tag htag
  obtain ⟨value, -, rfl⟩ := List.mem_map.mp htag
  simpa using hne

theorem unnamed_agentTags (hne : "agent" ≠ name) (agents : List (String × String)) :
    Unnamed name (agentTags agents) := by
  intro tag htag
  obtain ⟨agent, -, rfl⟩ := List.mem_map.mp htag
  simpa using hne

theorem unnamed_optionalTag (hne : key ≠ name) (value : String) :
    Unnamed name (optionalTag key value) := by
  intro tag htag
  unfold optionalTag at htag
  split at htag
  · cases htag
  · rw [List.mem_singleton.mp htag]
    simpa using hne

/-! ### What the lookups find -/

@[simp] theorem tagValue_cons (key value : String) (rest : List String) :
    tagValue name (key :: value :: rest) = if key = name then some value else none := rfl

@[simp] theorem tagValue_bare (key : String) : tagValue name [key] = none := rfl

@[simp] theorem findSome?_repeatedTag_self (values : List String) :
    (repeatedTag name values).findSome? (tagValue name) = values.head? := by
  cases values with
  | nil => rfl
  | cons value rest => simp [repeatedTag]

@[simp] theorem filterMap_repeatedTag_self (values : List String) :
    (repeatedTag name values).filterMap (tagValue name) = values := by
  rw [repeatedTag, List.filterMap_map]
  simp [Function.comp_def]

@[simp] theorem getD_findSome?_optionalTag (value : String) :
    ((optionalTag name value).findSome? (tagValue name)).getD "" = value := by
  unfold optionalTag
  split
  · rename_i hempty
    rw [hempty]
    rfl
  · simp

@[simp] theorem findSome?_repeatedTag_of_ne (hne : key ≠ name) (values : List String) :
    (repeatedTag key values).findSome? (tagValue name) = none :=
  (unnamed_repeatedTag hne values).findSome?

@[simp] theorem findSome?_optionalTag_of_ne (hne : key ≠ name) (value : String) :
    (optionalTag key value).findSome? (tagValue name) = none :=
  (unnamed_optionalTag hne value).findSome?

@[simp] theorem findSome?_agentTags_of_ne (hne : "agent" ≠ name)
    (agents : List (String × String)) : (agentTags agents).findSome? (tagValue name) = none :=
  (unnamed_agentTags hne agents).findSome?

@[simp] theorem filterMap_repeatedTag_of_ne (hne : key ≠ name) (values : List String) :
    (repeatedTag key values).filterMap (tagValue name) = [] :=
  (unnamed_repeatedTag hne values).filterMap

@[simp] theorem filterMap_optionalTag_of_ne (hne : key ≠ name) (value : String) :
    (optionalTag key value).filterMap (tagValue name) = [] :=
  (unnamed_optionalTag hne value).filterMap

@[simp] theorem filterMap_agentTags_of_ne (hne : "agent" ≠ name)
    (agents : List (String × String)) : (agentTags agents).filterMap (tagValue name) = [] :=
  (unnamed_agentTags hne agents).filterMap

theorem filterMap_agentTags_self (agents : List (String × String)) :
    (agentTags agents).filterMap Nip29WireCodec.managedAgent = agents := by
  induction agents with
  | nil => rfl
  | cons agent rest ih =>
      show (agent.1, agent.2) :: (agentTags rest).filterMap Nip29WireCodec.managedAgent = _
      rw [ih]

end Tags

/-! ## Handles -/

theorem trim_sessionHandle (agentSlug session : String) :
    Rust.trim (sessionHandle agentSlug session) = sessionHandle agentSlug session := by
  simp only [sessionHandle]
  by_cases hsession : Rust.trim session = ""
  · rw [if_pos hsession, Rust.trim_trim]
  · rw [if_neg hsession]
    by_cases hslug : Rust.trim agentSlug = ""
    · rw [if_pos hslug, Rust.trim_trim]
    · rw [if_neg hslug]
      split
      · exact Rust.trim_trim session
      · exact Rust.trim_append (Rust.trim_trim session) (Rust.trim_trim agentSlug) hsession hslug

/-- A session name that already ends in the agent is the handle. -/
theorem sessionHandle_of_endsWith {agentSlug session : String} (hslug : Rust.trim agentSlug ≠ "")
    (hsession : Rust.trim session ≠ "")
    (hends : Rust.endsWith (Rust.trim session) ("-" ++ Rust.trim agentSlug) = true) :
    sessionHandle agentSlug session = Rust.trim session := by
  simp only [sessionHandle, if_neg hslug, if_neg hsession, if_pos hends]

theorem endsWith_append (first last : String) :
    Rust.endsWith (first ++ "-" ++ last) ("-" ++ last) = true := by
  rw [Rust.endsWith, List.isSuffixOf_iff_suffix, String.append_assoc]
  exact ⟨first.toList, String.toList_append.symm⟩

/-- The handle of a handle is the handle, unless it is the bare agent. -/
theorem sessionHandle_idem {agentSlug session : String} (hslug : Rust.trim agentSlug ≠ "")
    (hnamed : sessionHandle agentSlug session ≠ Rust.trim agentSlug) :
    sessionHandle agentSlug (sessionHandle agentSlug session) =
      sessionHandle agentSlug session := by
  have hsession : Rust.trim session ≠ "" := by
    intro hblank
    exact hnamed (by simp only [sessionHandle, if_pos hblank])
  by_cases hends : Rust.endsWith (Rust.trim session) ("-" ++ Rust.trim agentSlug) = true
  · rw [sessionHandle_of_endsWith hslug hsession hends]
    have hagain := @sessionHandle_of_endsWith agentSlug (Rust.trim session) hslug
    rw [Rust.trim_trim] at hagain
    exact hagain hsession hends
  · have hjoined : sessionHandle agentSlug session =
        Rust.trim session ++ "-" ++ Rust.trim agentSlug := by
      simp only [sessionHandle, if_neg hslug, if_neg hsession, if_neg hends]
    have htrim := trim_sessionHandle agentSlug session
    rw [hjoined] at htrim ⊢
    rw [sessionHandle_of_endsWith hslug]
    · exact htrim
    · rw [htrim]
      simp
    · rw [htrim]
      exact endsWith_append _ _

namespace CodecEnv

variable {env : CodecEnv}

theorem trim_sessionHandleFromProfileName (name agentSlug : String) :
    Rust.trim (env.sessionHandleFromProfileName name agentSlug) =
      env.sessionHandleFromProfileName name agentSlug := by
  simp only [sessionHandleFromProfileName]
  split
  · exact Rust.trim_trim name
  · exact trim_sessionHandle agentSlug (Rust.trim name)

/-- Normalizing a normalized handle changes nothing. -/
theorem sessionHandleFromProfileName_idem (name agentSlug : String) :
    env.sessionHandleFromProfileName (env.sessionHandleFromProfileName name agentSlug) agentSlug =
      env.sessionHandleFromProfileName name agentSlug := by
  have htrim := env.trim_sessionHandleFromProfileName name agentSlug
  by_cases hbare : Rust.trim agentSlug = "" ∨ Rust.trim name = Rust.trim agentSlug ∨
      (env.normalizePubkey (Rust.trim name)).isSome = true
  · simp only [sessionHandleFromProfileName, if_pos hbare, Rust.trim_trim]
  · have hhandle : env.sessionHandleFromProfileName name agentSlug =
        sessionHandle agentSlug (Rust.trim name) := by
      simp only [sessionHandleFromProfileName, if_neg hbare]
    rw [hhandle] at htrim ⊢
    simp only [sessionHandleFromProfileName, htrim]
    split
    · rfl
    · rename_i hnamed
      have hslug : Rust.trim agentSlug ≠ "" := fun hblank => hbare (Or.inl hblank)
      exact sessionHandle_idem hslug (fun hagent => hnamed (Or.inr (Or.inl hagent)))

/-- The reader of profile contents finds the trimmed name. -/
theorem nameFromMetadata_nameObject (hjson : env.ReadsNames) (name : String) :
    env.nameFromMetadata (env.jsonToString (nameObject name)) = Rust.trim name := by
  rw [nameFromMetadata, hjson name]
  by_cases hblank : Rust.trim name = ""
  · simp [nameObject, JsonValue.get?, JsonValue.asStr?, List.lookup_cons, hblank]
  · simp [nameObject, JsonValue.get?, JsonValue.asStr?, List.lookup_cons, Option.filter, hblank]

end CodecEnv

/-! ## Normal forms -/

namespace Domain

def Profile.normal (env : CodecEnv) (author : String) (pf : Profile) : Profile :=
  { pf with
    agent :=
      { pubkey := author
        slug := if pf.isBackend then Rust.trim pf.agent.slug
          else env.sessionHandleFromProfileName pf.agent.slug pf.agentSlug }
    workspace := if pf.isBackend then "" else pf.workspace
    agents := if pf.isBackend then pf.agents else []
    workspaces := if pf.isBackend then pf.workspaces else [] }

def Activity.normal (author : String) (activity : Activity) : Activity :=
  { activity with agent := { pubkey := author, slug := "" } }

def Status.normal (author : String) (status : Status) : Status :=
  { status with
    agent := { pubkey := author, slug := status.agent.slug }
    dispatchEvent := status.dispatchEvent.filter (· ≠ "") }

def ChatMessage.normal (author : String) (message : ChatMessage) : ChatMessage :=
  { message with sender := { pubkey := author, slug := "" } }

def Reaction.normal (author : String) (reaction : Reaction) : Reaction :=
  { reaction with reactor := { pubkey := author, slug := "" } }

end Domain

namespace DomainEvent

/-- What comes back of an event that `author` has signed. -/
def normal (env : CodecEnv) (author : String) : DomainEvent → DomainEvent
  | .profile pf => .profile (pf.normal env author)
  | .activity note => .activity (note.normal author)
  | .status signal => .status (signal.normal author)
  | .chatMessage message => .chatMessage (message.normal author)
  | .reaction mark => .reaction (mark.normal author)

/-- The decoder takes the event: a status has a channel, a reaction a valid emoji. -/
def Decodable : DomainEvent → Prop
  | .status signal => signal.channels ≠ []
  | .reaction mark => Domain.Reaction.emojiIsValid mark.emoji = true
  | _ => True

instance : DecidablePred Decodable
  | .status signal => inferInstanceAs (Decidable (signal.channels ≠ []))
  | .reaction mark =>
      inferInstanceAs (Decidable (Domain.Reaction.emojiIsValid mark.emoji = true))
  | .profile _ | .activity _ | .chatMessage _ => isTrue trivial

/-- Whom the event names as its author. -/
def author : DomainEvent → String
  | .profile pf => pf.agent.pubkey
  | .activity note => note.agent.pubkey
  | .status signal => signal.agent.pubkey
  | .chatMessage message => message.sender.pubkey
  | .reaction mark => mark.reactor.pubkey

theorem variant_normal (env : CodecEnv) (author : String) (event : DomainEvent) :
    (event.normal env author).variant = event.variant := by
  cases event <;> rfl

theorem decodable_normal {env : CodecEnv} {author : String} {event : DomainEvent}
    (hdecodable : event.Decodable) : (event.normal env author).Decodable := by
  cases event with
  | status signal | reaction mark => exact hdecodable
  | _ => trivial

theorem normal_normal (env : CodecEnv) (author : String) (event : DomainEvent) :
    (event.normal env author).normal env author = event.normal env author := by
  cases event with
  | profile pf =>
      have hhandle := env.sessionHandleFromProfileName_idem pf.agent.slug pf.agentSlug
      cases hbackend : pf.isBackend with
      | false => simp [normal, Domain.Profile.normal, hbackend, hhandle]
      | true => simp [normal, Domain.Profile.normal, hbackend]
  | status signal =>
      have hfilter : (signal.dispatchEvent.filter (· ≠ "")).filter (· ≠ "") =
          signal.dispatchEvent.filter (· ≠ "") := by
        simp [Option.filter_filter]
      simp only [normal, Domain.Status.normal, hfilter]
  | activity note | chatMessage message | reaction mark => rfl

end DomainEvent

namespace Nip29WireCodec

open Domain

variable {env : CodecEnv} (signature : Signature)

/-! ## Round trips of the variants -/

theorem decodeStatus_encodeStatus (status : Domain.Status) :
    decodeStatus ((encodeStatus status).sign signature) =
      if status.channels ≠ [] then some (status.normal signature.pubkey) else none := by
  have hchannels : allTagValues ((encodeStatus status).sign signature) "h" = status.channels := by
    simp [allTagValues, encodeStatus, EventBuilder.sign]
  have hcwd : (nostrTag ((encodeStatus status).sign signature) "rel-cwd").getD "" =
      status.relCwd := by
    simp [nostrTag, encodeStatus, EventBuilder.sign]
  have hexpiration : nostrTag ((encodeStatus status).sign signature) "expiration" =
      status.expiresAt.map Rust.u64ToString := by
    simp [nostrTag, encodeStatus, EventBuilder.sign]
  have hdispatch : nostrTag ((encodeStatus status).sign signature) "e" =
      status.dispatchEvent.filter (· ≠ "") := by
    simp [nostrTag, encodeStatus, EventBuilder.sign]
  have hexpires : (status.expiresAt.map Rust.u64ToString).bind Rust.parseU64 =
      status.expiresAt := by
    cases status.expiresAt with
    | none => rfl
    | some instant => simp
  have hnamed : ∀ name value, [name, value] ∈ [["d", "status"], ["title", status.title],
      ["state", status.state.asStr], ["state-since", Rust.u64ToString status.stateSince],
      ["host", status.host], ["slug", status.agent.slug]] →
      nostrTag ((encodeStatus status).sign signature) name = some value := by
    intro name value hmem
    simp only [List.mem_cons, List.cons.injEq, List.not_mem_nil, or_false, and_true] at hmem
    rcases hmem with ⟨rfl, rfl⟩ | ⟨rfl, rfl⟩ | ⟨rfl, rfl⟩ | ⟨rfl, rfl⟩ | ⟨rfl, rfl⟩ | ⟨rfl, rfl⟩ <;>
      rfl
  rw [decodeStatus, hnamed "d" "status" (by simp), hnamed "slug" status.agent.slug (by simp),
    hnamed "host" status.host (by simp), hnamed "title" status.title (by simp),
    hnamed "state" status.state.asStr (by simp),
    hnamed "state-since" (Rust.u64ToString status.stateSince) (by simp),
    hchannels, hcwd, hexpiration, hdispatch]
  by_cases hempty : status.channels = []
  · simp [hempty]
  · simp [hempty, hexpires, Status.normal, encodeStatus, EventBuilder.sign]

theorem decodeActivity_encodeActivity (note : Domain.Activity) :
    decodeActivity ((encodeActivity note).sign signature) =
      some (note.normal signature.pubkey) := rfl

theorem decodeChatMessage_encodeChatMessage (message : Domain.ChatMessage) :
    decodeChatMessage ((encodeChatMessage message).sign signature) =
      some (message.normal signature.pubkey) := by
  have hmentioned : allTagValues ((encodeChatMessage message).sign signature) "p" =
      message.mentionedPubkeys := by
    simp [allTagValues, encodeChatMessage, EventBuilder.sign]
  rw [decodeChatMessage, hmentioned]
  rfl

theorem decodeReaction_encodeReaction (mark : Domain.Reaction) :
    decodeReaction ((encodeReaction mark).sign signature) =
      if Domain.Reaction.emojiIsValid mark.emoji = true then some (mark.normal signature.pubkey)
      else none := by
  have htarget : nostrTag ((encodeReaction mark).sign signature) "e" =
      some mark.targetEventId := rfl
  have hchannel : (nostrTag ((encodeReaction mark).sign signature) "h").getD "" =
      mark.channel := by
    simp [nostrTag, encodeReaction, EventBuilder.sign]
  rw [decodeReaction, htarget, hchannel]
  by_cases hvalid : Domain.Reaction.emojiIsValid mark.emoji = true
  · simp [hvalid, Reaction.normal, encodeReaction, EventBuilder.sign]
  · simp [hvalid, encodeReaction, EventBuilder.sign]

/-! ## Profiles -/

section Profiles

variable (pf : Domain.Profile)

/-- The tags of a profile, with those of a backend at the end. -/
theorem tags_encodeProfile :
    ((encodeProfile env pf).sign signature).tags =
      [["host", pf.host]] ++ (optionalTag "agent-slug" pf.agentSlug ++
        ((if pf.isBackend then [] else optionalTag "workspace" pf.workspace) ++
          (repeatedTag "p" pf.owners ++
            (if pf.isBackend then
              [["backend"]] ++ (agentTags pf.agents ++ repeatedTag "workspace" pf.workspaces)
            else [])))) := by
  simp [encodeProfile, EventBuilder.sign]

theorem hasBareTag_encodeProfile :
    hasBareTag ((encodeProfile env pf).sign signature) "backend" = pf.isBackend := by
  have hslug : Unnamed "backend" (optionalTag "agent-slug" pf.agentSlug) :=
    unnamed_optionalTag (by decide) _
  have hworkspace : Unnamed "backend" (optionalTag "workspace" pf.workspace) :=
    unnamed_optionalTag (by decide) _
  have howners : Unnamed "backend" (repeatedTag "p" pf.owners) :=
    unnamed_repeatedTag (by decide) _
  rw [hasBareTag, tags_encodeProfile]
  cases pf.isBackend with
  | false =>
      simp only [List.any_append, Bool.false_eq_true, if_false, hslug.any_eq_false,
        hworkspace.any_eq_false, howners.any_eq_false]
      rfl
  | true =>
      simp only [List.any_append, if_true, List.any_cons, List.head?_cons, decide_true,
        Bool.true_or, Bool.or_true]

/-- A profile advertises its agents only if it is a backend's. -/
theorem managedAgents_encodeProfile :
    managedAgents ((encodeProfile env pf).sign signature) =
      if pf.isBackend then pf.agents else [] := by
  have hslug : Unnamed "agent" (optionalTag "agent-slug" pf.agentSlug) :=
    unnamed_optionalTag (by decide) _
  have hworkspace : Unnamed "agent" (optionalTag "workspace" pf.workspace) :=
    unnamed_optionalTag (by decide) _
  have howners : Unnamed "agent" (repeatedTag "p" pf.owners) := unnamed_repeatedTag (by decide) _
  have hworkspaces : Unnamed "agent" (repeatedTag "workspace" pf.workspaces) :=
    unnamed_repeatedTag (by decide) _
  rw [managedAgents, tags_encodeProfile]
  cases pf.isBackend with
  | false =>
      simp only [List.filterMap_append, Bool.false_eq_true, if_false, hslug.managedAgent,
        hworkspace.managedAgent, howners.managedAgent]
      rfl
  | true =>
      simp only [List.filterMap_append, if_true, hslug.managedAgent, howners.managedAgent,
        hworkspaces.managedAgent, filterMap_agentTags_self, List.append_nil]
      rfl

theorem decodeProfile_encodeProfile (hjson : env.ReadsNames) :
    decodeProfile env ((encodeProfile env pf).sign signature) =
      pf.normal env signature.pubkey := by
  have howners : allTagValues ((encodeProfile env pf).sign signature) "p" = pf.owners := by
    rw [allTagValues, tags_encodeProfile]
    cases pf.isBackend <;> simp [List.filterMap_cons]
  have hslug : (nostrTag ((encodeProfile env pf).sign signature) "agent-slug").getD "" =
      pf.agentSlug := by
    rw [nostrTag, tags_encodeProfile]
    cases pf.isBackend <;> simp [List.findSome?_cons]
  have hhost : nostrTag ((encodeProfile env pf).sign signature) "host" = some pf.host := rfl
  have hauthor : ((encodeProfile env pf).sign signature).pubkey = signature.pubkey := rfl
  have hname := env.nameFromMetadata_nameObject hjson
  simp only [decodeProfile, hasBareTag_encodeProfile, managedAgents_encodeProfile, howners, hslug]
  cases hbackend : pf.isBackend with
  | false =>
      have hworkspace : (nostrTag ((encodeProfile env pf).sign signature) "workspace").getD "" =
          pf.workspace := by
        rw [nostrTag, tags_encodeProfile, hbackend]
        simp
      have htrim := env.trim_sessionHandleFromProfileName pf.agent.slug pf.agentSlug
      have hhandle := env.sessionHandleFromProfileName_idem pf.agent.slug pf.agentSlug
      have hmetadata : env.nameFromMetadata ((encodeProfile env pf).sign signature).content =
          env.sessionHandleFromProfileName pf.agent.slug pf.agentSlug := by
        simp only [EventBuilder.sign, encodeProfile, hbackend, hname]
        exact htrim
      simp only [hmetadata, hworkspace, hhandle, hhost, hauthor, Profile.normal, hbackend,
        Bool.false_eq_true, if_false, Option.getD_some]
  | true =>
      have hworkspaces : allTagValues ((encodeProfile env pf).sign signature) "workspace" =
          pf.workspaces := by
        rw [allTagValues, tags_encodeProfile, hbackend]
        simp [List.filterMap_cons]
      have hmetadata : env.nameFromMetadata ((encodeProfile env pf).sign signature).content =
          Rust.trim pf.agent.slug := by
        simp only [EventBuilder.sign, encodeProfile, hbackend, hname]
        rfl
      simp only [hmetadata, hworkspaces, hhost, hauthor, Profile.normal, hbackend, if_true,
        Option.getD_some]

end Profiles

/-! ## Round trips of domain events -/

/-- The codec, as a format. -/
theorem roundTrip (env : CodecEnv) (signature : Signature) (hjson : env.ReadsNames) :
    RoundTrip (fun event => (encodeEvent env event).sign signature) (decodeEvent env)
      DomainEvent.Decodable (DomainEvent.normal env signature.pubkey) := by
  have hstatus : ∀ signal : Domain.Status,
      decodeEvent env ((encodeStatus signal).sign signature) =
        (decodeStatus ((encodeStatus signal).sign signature)).map .status := fun _ => rfl
  have hchat : ∀ message : Domain.ChatMessage,
      decodeEvent env ((encodeChatMessage message).sign signature) =
        (decodeChatMessage ((encodeChatMessage message).sign signature)).map .chatMessage :=
    fun _ => rfl
  have hreaction : ∀ mark : Domain.Reaction,
      decodeEvent env ((encodeReaction mark).sign signature) =
        (decodeReaction ((encodeReaction mark).sign signature)).map .reaction := fun _ => rfl
  refine ⟨?_, ?_, fun event => DomainEvent.decodable_normal,
    fun event => event.normal_normal env signature.pubkey⟩
  · intro event hdecodable
    cases event with
    | profile pf =>
        exact congrArg (fun decoded => some (DomainEvent.profile decoded))
          (decodeProfile_encodeProfile signature pf hjson)
    | activity note =>
        exact congrArg (Option.map DomainEvent.activity)
          (decodeActivity_encodeActivity signature note)
    | status signal =>
        have hchannels : signal.channels ≠ [] := hdecodable
        show decodeEvent env ((encodeStatus signal).sign signature) = _
        rw [hstatus, decodeStatus_encodeStatus, if_pos hchannels]
        rfl
    | chatMessage message =>
        show decodeEvent env ((encodeChatMessage message).sign signature) = _
        rw [hchat, decodeChatMessage_encodeChatMessage]
        rfl
    | reaction mark =>
        have hemoji : Reaction.emojiIsValid mark.emoji = true := hdecodable
        show decodeEvent env ((encodeReaction mark).sign signature) = _
        rw [hreaction, decodeReaction_encodeReaction, if_pos hemoji]
        rfl
  · intro event hrefused
    cases event with
    | status signal =>
        have hchannels : ¬ signal.channels ≠ [] := hrefused
        show decodeEvent env ((encodeStatus signal).sign signature) = _
        rw [hstatus, decodeStatus_encodeStatus, if_neg hchannels]
        rfl
    | reaction mark =>
        have hemoji : ¬ Reaction.emojiIsValid mark.emoji = true := hrefused
        show decodeEvent env ((encodeReaction mark).sign signature) = _
        rw [hreaction, decodeReaction_encodeReaction, if_neg hemoji]
        rfl
    | profile pf | activity note | chatMessage message => exact absurd trivial hrefused

/-- An encoded event comes back as its normal form, which is a fixed point, or not at
all, and never as another variant. -/
theorem decode_encode (env : CodecEnv) (signature : Signature) (event : DomainEvent)
    (hjson : env.ReadsNames) :
    decodeEvent env ((encodeEvent env event).sign signature) =
        (if event.Decodable then some (event.normal env signature.pubkey) else none) ∧
      (event.Decodable →
        decodeEvent env ((encodeEvent env (event.normal env signature.pubkey)).sign signature) =
          some (event.normal env signature.pubkey)) ∧
      ∀ decoded, decodeEvent env ((encodeEvent env event).sign signature) = some decoded →
        decoded.variant = event.variant := by
  have htrip := roundTrip env signature hjson
  refine ⟨?_, htrip.fixed, fun decoded => htrip.keeps (DomainEvent.variant_normal env _)⟩
  by_cases hdecodable : event.Decodable
  · rw [if_pos hdecodable]
    exact htrip.returns event hdecodable
  · rw [if_neg hdecodable]
    exact htrip.refuses event hdecodable

/-! ## What does not come back -/

/-- The JSON texts of names that need no escapes, for a machine that knows no public
key. -/
def plainNames : CodecEnv where
  jsonToString
    | .object [("name", .string name)] => "\x7b\"name\":\"" ++ name ++ "\"\x7d"
    | _ => "null"
  jsonFromStr text :=
    let chars := text.toList
    if "\x7b\"name\":\"".toList <+: chars then
      some (nameObject (String.ofList ((chars.drop 9).dropLast.dropLast)))
    else none
  publicKeyParse _ := none

theorem plainNames_readsNames : plainNames.ReadsNames := by
  intro name
  have hchars : ("\x7b\"name\":\"" ++ name ++ "\"\x7d").toList =
      "\x7b\"name\":\"".toList ++ (name.toList ++ "\"\x7d".toList) := by
    rw [String.toList_append, String.toList_append, List.append_assoc]
  have hdrop : ("\x7b\"name\":\"".toList ++ (name.toList ++ "\"\x7d".toList)).drop 9 =
      name.toList ++ "\"\x7d".toList := rfl
  have hread : ∀ text, plainNames.jsonFromStr text =
      if "\x7b\"name\":\"".toList <+: text.toList then
        some (nameObject (String.ofList ((text.toList.drop 9).dropLast.dropLast)))
      else none := fun _ => rfl
  have hwritten : plainNames.jsonToString (nameObject name) =
      "\x7b\"name\":\"" ++ name ++ "\"\x7d" := rfl
  rw [hread, hwritten, hchars, if_pos (List.prefix_append _ _), hdrop]
  have hend : (name.toList ++ "\"\x7d".toList).dropLast.dropLast = name.toList := by
    rw [List.dropLast_append_of_ne_nil (by decide)]
    exact List.dropLast_concat
  rw [hend, String.ofList_toList]

def developerProfile : DomainEvent :=
  .profile
    { agent := { pubkey := "signer", slug := " willow-echo-042 " }
      agentSlug := "developer"
      host := "laptop"
      workspace := "root"
      owners := ["owner"]
      isBackend := false
      agents := []
      workspaces := [] }

/-- The code name becomes the handle of the session. -/
theorem decode_encode_developerProfile :
    decodeEvent plainNames ((encodeEvent plainNames developerProfile).sign
      { id := "id", pubkey := "signer", createdAt := 1 }) =
        some (.profile
          { agent := { pubkey := "signer", slug := "willow-echo-042-developer" }
            agentSlug := "developer"
            host := "laptop"
            workspace := "root"
            owners := ["owner"]
            isBackend := false
            agents := []
            workspaces := [] }) :=
  (decode_encode plainNames { id := "id", pubkey := "signer", createdAt := 1 } developerProfile
    plainNames_readsNames).1.trans (by decide)

/-- The event with its handle normalized and an empty dispatch event dropped, and
otherwise as given. -/
def asGiven (env : CodecEnv) (event : DomainEvent) : DomainEvent :=
  match event, event.normal env event.author with
  | .profile pf, .profile normal => .profile { pf with agent := normal.agent }
  | .status _, normal => normal
  | _, _ => event

/-- A status without a channel has no normal form that comes back, and a chat message
comes back without the slug of its sender. -/
theorem roundTrip_refuses_and_forgets :
    (¬ ∃ normal : CodecEnv → DomainEvent → DomainEvent,
      ∀ (env : CodecEnv) (signature : Signature) (event : DomainEvent), env.ReadsNames →
        signature.pubkey = event.author →
        decodeEvent env ((encodeEvent env event).sign signature) = some (normal env event)) ∧
    ¬ ∀ (env : CodecEnv) (signature : Signature) (event : DomainEvent), env.ReadsNames →
      signature.pubkey = event.author → event.Decodable →
        decodeEvent env ((encodeEvent env event).sign signature) = some (asGiven env event) := by
  let signature : Signature := { id := "id", pubkey := "signer", createdAt := 1 }
  constructor
  · rintro ⟨normal, hclaim⟩
    let silent : DomainEvent := .status
      { agent := { pubkey := "signer", slug := "developer" }
        channels := []
        host := "laptop"
        title := ""
        activity := ""
        state := .idle
        stateSince := 0
        relCwd := ""
        expiresAt := none
        dispatchEvent := none }
    have hrefused := (roundTrip plainNames signature plainNames_readsNames).refuses silent
      (by decide)
    have hreturned := hclaim plainNames signature silent plainNames_readsNames rfl
    rw [hrefused] at hreturned
    cases hreturned
  · intro hclaim
    let message : DomainEvent := .chatMessage
      { sender := { pubkey := "signer", slug := "developer" }
        channel := "root"
        body := "hello"
        mentionedPubkeys := [] }
    have hforgotten := (roundTrip plainNames signature plainNames_readsNames).returns
      message trivial
    have hreturned := hclaim plainNames signature message plainNames_readsNames rfl trivial
    rw [hforgotten, Option.some.injEq] at hreturned
    revert hreturned
    decide

end Nip29WireCodec

end Mosaico
