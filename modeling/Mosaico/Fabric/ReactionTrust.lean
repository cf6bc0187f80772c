import Mosaico.Fabric.Reactions

/-!
# What a reaction brings into a view

The content of an inbound reaction is untrusted: it may be a short text without whitespace and
control characters.  The decoder checks the trimmed content and stores the content as it came,
so what stands around a valid emoji is not checked.  From the decoder on the emoji is stored,
captured and rendered unchanged.
-/

namespace Mosaico

open Relational Transition Domain Nip29WireCodec

/-- A text that may stand in the context of an agent. -/
structure EmojiBounded (emoji : String) : Prop where
  nonempty : emoji ≠ ""
  short : emoji.utf8ByteSize ≤ maxReactionEmojiBytes
  plain : ∀ c ∈ emoji.toList, Rust.isControl c = false ∧ Rust.isWhitespace c = false

/-- The content of a reaction that the decoder takes has nothing around its emoji. -/
def Event.Unpadded (event : Event) : Prop :=
  (nostrTag event "e").isSome = true → Reaction.emojiIsValid event.content = true →
    Rust.trim event.content = event.content

/-! ## The decoder -/

theorem emojiIsValid_iff {emoji : String} :
    Reaction.emojiIsValid emoji = true ↔ EmojiBounded (Rust.trim emoji) := by
  unfold Reaction.emojiIsValid
  simp only [Bool.and_eq_true, decide_eq_true_eq, Bool.not_eq_true', List.any_eq_false,
    Bool.or_eq_true, not_or, Bool.not_eq_true, ne_eq]
  constructor
  · rintro ⟨⟨hnonempty, hshort⟩, hplain⟩
    exact ⟨hnonempty, hshort, hplain⟩
  · intro hbounded
    exact ⟨⟨hbounded.nonempty, hbounded.short⟩, hbounded.plain⟩

theorem EmojiBounded.trim_eq {emoji : String} (hbounded : EmojiBounded emoji) :
    Rust.trim emoji = emoji := by
  rw [Rust.trim_eq_self_iff]
  constructor
  · intro c hc
    exact (hbounded.plain c (List.mem_of_mem_head? hc)).2
  · intro c hc
    exact (hbounded.plain c (List.mem_of_getLast? hc)).2

theorem decodeReaction_eq_some_iff {event : Event} {reaction : Reaction} :
    decodeReaction event = some reaction ↔
      ∃ target, nostrTag event "e" = some target ∧
        Reaction.emojiIsValid event.content = true ∧
        reaction =
          { reactor := { pubkey := event.pubkey, slug := "" }
            channel := (nostrTag event "h").getD ""
            targetEventId := target
            emoji := event.content } := by
  unfold decodeReaction
  cases htarget : nostrTag event "e" with
  | none => simp
  | some target =>
      by_cases hvalid : Reaction.emojiIsValid event.content = true
      · simp [hvalid, eq_comm]
      · simp [hvalid]

theorem decodeEvent_eq_reaction_iff {env : CodecEnv} {event : Event} {reaction : Reaction} :
    decodeEvent env event = some (.reaction reaction) ↔
      event.kind = kindReaction ∧ decodeReaction event = some reaction := by
  unfold decodeEvent
  constructor
  · intro hdecoded
    split at hdecoded
    · cases hdecoded
    · split at hdecoded
      · simp at hdecoded
      · split at hdecoded
        · simp at hdecoded
        · split at hdecoded
          · simp at hdecoded
          · split at hdecoded
            · rename_i hkind
              exact ⟨hkind, by simpa using hdecoded⟩
            · cases hdecoded
  · rintro ⟨hkind, hreaction⟩
    rw [hkind, hreaction]
    rfl

/-- The decoder yields bounded texts exactly from contents without padding. -/
theorem decoded_bounded_iff (env : CodecEnv) {event : Event} (hkind : event.kind = kindReaction) :
    (∀ reaction, decodeEvent env event = some (.reaction reaction) →
        EmojiBounded reaction.emoji) ↔ event.Unpadded := by
  constructor
  · intro hbounded htarget hvalid
    obtain ⟨target, htarget⟩ := Option.isSome_iff_exists.mp htarget
    have hdecoded := decodeReaction_eq_some_iff.mpr ⟨target, htarget, hvalid, rfl⟩
    exact (hbounded _ (decodeEvent_eq_reaction_iff.mpr ⟨hkind, hdecoded⟩)).trim_eq
  · intro hunpadded reaction hdecoded
    obtain ⟨target, htarget, hvalid, rfl⟩ :=
      decodeReaction_eq_some_iff.mp (decodeEvent_eq_reaction_iff.mp hdecoded).2
    have hbounded := emojiIsValid_iff.mp hvalid
    rw [hunpadded (by rw [htarget]; rfl) hvalid] at hbounded
    exact hbounded

/-! ## The projection -/

/-- A delivered event, and what it makes of the rest of the database unless it is a reaction. -/
structure RelayDelivery where
  event : Event
  elsewhere : Intake × (String → ProfileNames)

namespace ReactionStore

variable {env : CodecEnv} {store : ReactionStore}

def receive (env : CodecEnv) (store : ReactionStore) (delivery : RelayDelivery) :
    ReactionStore :=
  store.materialize env delivery.event delivery.elsewhere

/-- No reaction has been delivered. -/
def initial (intake : Intake) (profileNames : String → ProfileNames) : ReactionStore where
  intake := intake
  reactions := Table.empty
  profileNames := profileNames

/-- Every stored emoji is bounded. -/
def Trusted (store : ReactionStore) : Prop :=
  ∀ row ∈ store.reactions.rows, EmojiBounded row.emoji

/-- A stored emoji was there before or is the one of the event. -/
theorem mem_reactions_receive {delivery : RelayDelivery} {row : StoredReaction}
    (hrow : row ∈ (store.receive env delivery).reactions.rows) :
    row ∈ store.reactions.rows ∨
      ∃ reaction, decodeEvent env delivery.event = some (.reaction reaction) ∧
        row.emoji = reaction.emoji := by
  unfold receive materialize at hrow
  split at hrow
  · rename_i reaction hdecoded
    unfold materializeReaction upsertReaction at hrow
    cases hbind : bindParams [delivery.event.createdAt] with
    | error error =>
        rw [hbind] at hrow
        exact Or.inl hrow
    | ok value =>
        rw [hbind] at hrow
        rcases Table.mem_of_mem_insertOrIgnore hrow with hbefore | rfl
        · exact Or.inl hbefore
        · exact Or.inr ⟨reaction, hdecoded, rfl⟩
  · exact Or.inl hrow

theorem Trusted.receive (htrusted : store.Trusted) {delivery : RelayDelivery}
    (hunpadded : delivery.event.kind = kindReaction → delivery.event.Unpadded) :
    (store.receive env delivery).Trusted := by
  intro row hrow
  rcases mem_reactions_receive hrow with hbefore | ⟨reaction, hdecoded, hemoji⟩
  · exact htrusted row hbefore
  · have hkind := (decodeEvent_eq_reaction_iff.mp hdecoded).1
    rw [hemoji]
    exact (decoded_bounded_iff env hkind).mpr (hunpadded hkind) reaction hdecoded

theorem trusted_run (intake : Intake) (profileNames : String → ProfileNames)
    (deliveries : List RelayDelivery)
    (hunpadded : ∀ delivery ∈ deliveries,
      delivery.event.kind = kindReaction → delivery.event.Unpadded) :
    (run (receive env) (initial intake profileNames) deliveries).Trusted := by
  induction deliveries using List.reverseRecOn with
  | nil =>
      intro row hrow
      cases hrow
  | append_singleton earlier delivery ih =>
      rw [run_append, run_cons, run_nil]
      apply Trusted.receive
      · exact ih fun other hother => hunpadded other (List.mem_append_left _ hother)
      · exact hunpadded delivery (by simp)

/-! ## The view -/

/-- A rendered emoji is a stored one. -/
theorem stored_of_rendered {scope : ReactionScope} {cursor now : Nat} {row : View.ReactionRow}
    (hrow : row ∈ (groupReactions (store.captureReactionSources scope) cursor now).1) :
    ∃ stored ∈ store.reactions.rows, stored.emoji = row.emoji := by
  obtain ⟨group, htaken, rfl⟩ := List.mem_map.mp hrow
  have hgroup := mem_orderedGroups.mp (List.mem_of_mem_take htaken)
  have hcollected := collected_groups (store.captureReactionSources scope) cursor now
  obtain ⟨reactor, hreactor⟩ := List.exists_mem_of_ne_nil _ (hcollected.inhabited group hgroup)
  obtain ⟨cap, hcap, hkey, _⟩ := hcollected.sources group hgroup reactor hreactor
  obtain ⟨_, _, reaction, hreaction, _, _, rfl⟩ :=
    mem_captureReactionSources.mp (List.mem_of_mem_filter hcap)
  exact ⟨reaction.toStoredReaction, (mem_authored.mp hreaction).1,
    congrArg Prod.snd hkey⟩

/-- The decoder yields a bounded text exactly if the content is not padded, and where no
delivered reaction is padded every rendered emoji is bounded. -/
theorem reactions_bounded_unpadded (env : CodecEnv) :
    (∀ event : Event, event.kind = kindReaction →
      ((∀ reaction, decodeEvent env event = some (.reaction reaction) →
        EmojiBounded reaction.emoji) ↔ event.Unpadded)) ∧
      ∀ (intake : Intake) (profileNames : String → ProfileNames)
        (deliveries : List RelayDelivery),
        (∀ delivery ∈ deliveries, delivery.event.kind = kindReaction →
          delivery.event.Unpadded) →
        ∀ (scope : ReactionScope) (cursor now : Nat),
          ∀ row ∈ (groupReactions ((run (receive env) (initial intake profileNames)
            deliveries).captureReactionSources scope) cursor now).1, EmojiBounded row.emoji := by
  constructor
  · intro event hkind
    exact decoded_bounded_iff env hkind
  · intro intake profileNames deliveries hunpadded scope cursor now row hrow
    obtain ⟨stored, hstored, hemoji⟩ := stored_of_rendered hrow
    rw [← hemoji]
    exact trusted_run intake profileNames deliveries hunpadded stored hstored

/-- Twenty line breaks after an emoji. -/
def paddedEmoji : String := String.ofList ('👍' :: List.replicate 20 '\n')

/-- A reaction on the message "mine". -/
def paddedReaction : Event where
  id := "reaction"
  kind := kindReaction
  pubkey := "peer"
  createdAt := 20
  content := paddedEmoji
  tags := [["e", "mine"]]

/-- A store with one message of "me". -/
def ownMessage : Intake where
  db := Database.empty
  messages := Table.empty.insertOrIgnore
    { messageId := "mine"
      threadId := "room"
      channelH := "room"
      authorPubkey := "me"
      body := "done"
      createdAt := 5
      direction := .outbound
      syncState := "accepted"
      nativeEventId := some "mine"
      error := none }
  messageRecipients := Table.empty
  quarantine := Table.empty

theorem not_bounded_paddedEmoji : ¬ EmojiBounded paddedEmoji := by
  intro hbounded
  exact absurd hbounded.short (by decide)

def mute : CodecEnv := ⟨fun _ => "", fun _ => none, fun _ => none⟩

def unnamed : String → ProfileNames := fun _ => ⟨"", ""⟩

def thumbsUp : Event := { paddedReaction with content := "👍" }

theorem reactions_bounded_liked :
    EmojiBounded thumbsUp.content ∧
      ∃ row ∈ (groupReactions ((run (receive mute) (initial ownMessage unnamed)
          [⟨thumbsUp, ownMessage, unnamed⟩]).captureReactionSources
            ⟨"me", 1, "host", "backend"⟩) 10 30).1, EmojiBounded row.emoji := by
  obtain ⟨hdecoded, hrendered⟩ := reactions_bounded_unpadded mute
  have hunpadded : thumbsUp.Unpadded := by
    rw [Event.Unpadded]
    decide
  refine ⟨(hdecoded thumbsUp rfl).mpr hunpadded ⟨⟨"peer", ""⟩, "", "mine", "👍"⟩ (by decide), ?_⟩
  have hrow := hrendered ownMessage unnamed [⟨thumbsUp, ownMessage, unnamed⟩]
    (by simpa using fun _ => hunpadded) ⟨"me", 1, "host", "backend"⟩ 10 30
  exact ⟨_, List.mem_cons_self, hrow _ List.mem_cons_self⟩

/-- The padding of a reaction is decoded, stored and rendered. -/
theorem padding_rendered :
    decodeEvent mute paddedReaction = some (.reaction
        { reactor := ⟨"peer", ""⟩, channel := "", targetEventId := "mine"
          emoji := paddedEmoji }) ∧
      ¬ EmojiBounded paddedEmoji ∧
      (groupReactions ((run (receive mute) (initial ownMessage unnamed)
          [⟨paddedReaction, ownMessage, unnamed⟩]).captureReactionSources
            ⟨"me", 1, "host", "backend"⟩) 10 30).1.map View.ReactionRow.emoji = [paddedEmoji] := by
  refine ⟨?_, not_bounded_paddedEmoji, ?_⟩
  · decide
  · decide

end ReactionStore

end Mosaico
