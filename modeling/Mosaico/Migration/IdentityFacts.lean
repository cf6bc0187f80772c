import Mosaico.Migration.IdentitySteps
import Mosaico.Relational.Matches

/-!
# What schema 6 keeps of a pubkey

The step to schema 6 chooses the row of a pubkey by `last_seen` and its native locator by the
order of the aliases.  The locator belongs to the chosen session exactly where the two choices
meet.
-/

namespace Mosaico

open Relational

namespace Schema5

variable (old : Schema5)

/-- The session of the pubkey with the greatest `last_seen`, the last one of those that are
equal. -/
def newest (pubkey : String) : Option SessionV5 :=
  old.byLastSeen.reverse.find? fun row => decide (row.agentPubkey = pubkey)

/-- An alias of the session by the native id of its harness. -/
def OwnNativeAlias (sessionId : String) (row : SessionAlias) : Prop :=
  row.externalIdKind = "harness_session" ∧ row.sessionId = sessionId

/-- A native alias of any session of the pubkey. -/
def NativeAliasOf (pubkey : String) (row : SessionAlias) : Prop :=
  row.externalIdKind = "harness_session" ∧ old.ownerOf row.sessionId = some pubkey

instance (sessionId : String) : DecidablePred (OwnNativeAlias sessionId) := fun _ =>
  inferInstanceAs (Decidable (_ ∧ _))

instance (pubkey : String) : DecidablePred (old.NativeAliasOf pubkey) := fun _ =>
  inferInstanceAs (Decidable (_ ∧ _))

/-- The locator is the only native one of the pubkey. -/
def NativeLocator (new : Schema6) (pubkey : String) (locator : SessionLocatorV9) : Prop :=
  locator ∈ new.sessionLocators.rows ∧
    ∀ other ∈ new.sessionLocators.rows, other.locatorKind = locatorNativeResume →
      other.pubkey = pubkey → other = locator

/-- One session's facts stay together. -/
structure KeepsTogether (new : Schema6) : Prop where
  /-- One row for each pubkey that had a session. -/
  sessions : ∀ pubkey, new.sessions.matching (fun row => row.pubkey = pubkey) =
    if old.sessions.Any (fun row => row.agentPubkey = pubkey) then 1 else 0
  /-- It has the columns of the session that was seen last. -/
  newest : ∀ pubkey chosen, old.newest pubkey = some chosen →
    new.sessions.find? pubkey = some chosen.migrated ∧ chosen ∈ old.sessions.rows ∧
      ∀ other ∈ old.sessions.rows, other.agentPubkey = pubkey → other.lastSeen ≤ chosen.lastSeen
  /-- So has its native locator, if that session had one. -/
  native : ∀ pubkey chosen, old.newest pubkey = some chosen →
    old.sessionAliases.Any (OwnNativeAlias chosen.sessionId) →
      ∃ own ∈ old.sessionAliases.rows, OwnNativeAlias chosen.sessionId own ∧
        NativeLocator new pubkey (own.migrated pubkey)
  /-- Every channel of every session is kept. -/
  channels : ∀ route ∈ old.sessionChannels.rows, ∀ session ∈ old.sessions.rows,
    route.sessionId = session.sessionId → ∃ kept ∈ new.sessionChannels.rows,
      kept.pubkey = session.agentPubkey ∧ kept.channelH = route.channelH

/-- The first native alias of a pubkey is one of the session that was seen last, if that
session has one. -/
def NewestAliasFirst : Prop :=
  ∀ pubkey chosen first, old.newest pubkey = some chosen →
    old.sessionAliases.Any (OwnNativeAlias chosen.sessionId) →
      old.sessionAliases.first? (old.NativeAliasOf pubkey) = some first →
        first.sessionId = chosen.sessionId

variable {old} {pubkey : String} {chosen : SessionV5}

/-! ## Sessions -/

theorem mem_of_newest (hchosen : old.newest pubkey = some chosen) :
    chosen ∈ old.sessions.rows ∧ chosen.agentPubkey = pubkey := by
  have hmem := List.mem_of_find?_eq_some hchosen
  have hpubkey := List.find?_some hchosen
  rw [List.mem_reverse, byLastSeen, mem_ascending] at hmem
  exact ⟨hmem, of_decide_eq_true hpubkey⟩

theorem lastSeen_le_of_newest (hchosen : old.newest pubkey = some chosen) {other : SessionV5}
    (hother : other ∈ old.sessions.rows) (hpubkey : other.agentPubkey = pubkey) :
    other.lastSeen ≤ chosen.lastSeen := by
  have hsorted : old.byLastSeen.Pairwise fun left right => left.lastSeen ≤ right.lastSeen :=
    List.pairwise_insertionSort _ _
  obtain ⟨_, later, earlier, hsplit, hlater⟩ := List.find?_eq_some_iff_append.mp hchosen
  rw [List.reverse_eq_iff, List.reverse_append, List.reverse_cons] at hsplit
  have hmem : other ∈ old.byLastSeen := mem_ascending.mpr hother
  rw [hsplit, List.append_assoc] at hsorted hmem
  rcases List.mem_append.mp hmem with hbefore | hafter
  · exact (List.pairwise_append.mp hsorted).2.2 other hbefore chosen (by simp)
  · rcases List.mem_append.mp hafter with hsame | hbehind
    · rw [List.mem_singleton.mp hsame]
    · -- behind the chosen session there is none of the pubkey
      have hnot := hlater other (List.mem_reverse.mp hbehind)
      simp [hpubkey] at hnot

theorem find?_migratedSessions (pubkey : String) :
    old.migratedSessions.find? pubkey = (old.newest pubkey).map SessionV5.migrated := by
  rw [migratedSessions, Table.find?_insertAllOrReplace, Table.find?_empty, Option.or_none, newest,
    ← List.map_reverse, List.find?_map]
  rfl

theorem newest_eq_none_iff :
    old.newest pubkey = none ↔ ¬ old.sessions.Any (fun row => row.agentPubkey = pubkey) := by
  rw [newest, List.find?_eq_none]
  constructor
  · rintro hnone ⟨row, hrow, hpubkey⟩
    have hmem : row ∈ old.byLastSeen.reverse := by
      rw [List.mem_reverse]
      exact mem_ascending.mpr hrow
    exact hnone row hmem (decide_eq_true hpubkey)
  · intro hnone row hrow hpubkey
    rw [List.mem_reverse, byLastSeen, mem_ascending] at hrow
    exact hnone ⟨row, hrow, of_decide_eq_true hpubkey⟩

theorem matching_migratedSessions (pubkey : String) :
    old.migratedSessions.matching (fun row => row.pubkey = pubkey) =
      if old.sessions.Any (fun row => row.agentPubkey = pubkey) then 1 else 0 := by
  have hfound : old.migratedSessions.find? pubkey =
      (old.newest pubkey).map SessionV5.migrated := find?_migratedSessions pubkey
  cases hchosen : old.newest pubkey with
  | none =>
      rw [if_neg (newest_eq_none_iff.mp hchosen)]
      refine Table.matching_eq_zero_iff.mpr ?_
      rintro ⟨row, hrow, hpubkey⟩
      rw [hchosen] at hfound
      exact Table.find?_eq_none_iff.mp hfound row hrow hpubkey
  | some chosen =>
      have hany : old.sessions.Any (fun row => row.agentPubkey = pubkey) :=
        ⟨chosen, mem_of_newest hchosen⟩
      rw [if_pos hany]
      rw [hchosen] at hfound
      exact (Table.matching_eq_one_of_key (fun _ hrow => hrow)).mpr
        ⟨chosen.migrated, hfound, (mem_of_newest hchosen).2⟩

/-! ## Channels -/

theorem ownerOf_of_mem {session : SessionV5} (hsession : session ∈ old.sessions.rows) :
    old.ownerOf session.sessionId = some session.agentPubkey := by
  rw [ownerOf, Table.mem_rows_iff.mp hsession]
  rfl

theorem channel_kept {route : SessionChannelV5} {session : SessionV5}
    (hroute : route ∈ old.sessionChannels.rows) (hsession : session ∈ old.sessions.rows)
    (hid : route.sessionId = session.sessionId) :
    ∃ kept ∈ old.migratedChannels.rows,
      kept.pubkey = session.agentPubkey ∧ kept.channelH = route.channelH := by
  let row : SessionChannelV9 := ⟨session.agentPubkey, route.channelH, route.joinedAt⟩
  have hrow : row ∈ old.channelRows := by
    refine List.mem_filterMap.mpr ⟨route, hroute, ?_⟩
    rw [hid, ownerOf_of_mem hsession]
    rfl
  have htaken : old.migratedChannels.find? row.key ≠ none :=
    Table.find?_insertAllOrIgnore_of_mem Table.empty hrow
  obtain ⟨kept, hkept⟩ := Option.ne_none_iff_exists'.mp htaken
  have hkey : kept.key = row.key := Table.key_of_find? hkept
  simp only [SessionChannelV9.key, Prod.mk.injEq] at hkey
  exact ⟨kept, Table.mem_of_find? hkept, hkey.1, hkey.2⟩

/-! ## Native locators -/

theorem migratedKind_eq_native_iff {externalIdKind : String} :
    migratedKind externalIdKind = locatorNativeResume ↔ externalIdKind = "harness_session" := by
  unfold migratedKind
  split_ifs with hnative hpty hpid
  · simp [hnative]
  · simp [hpty, locatorPty, locatorNativeResume]
  · simp [hpid, locatorPid, locatorNativeResume]
  · simp [hnative, locatorAcp, locatorNativeResume]

theorem nativeOwner_eq_some_iff {row : SessionLocatorV9} :
    row.nativeOwner = some pubkey ↔
      row.locatorKind = locatorNativeResume ∧ row.pubkey = pubkey := by
  unfold SessionLocatorV9.nativeOwner
  split_ifs with hnative
  · simp [hnative]
  · simp [hnative]

theorem locatorOf_eq_some_iff {row : SessionAlias} {locator : SessionLocatorV9} :
    old.locatorOf row = some locator ↔
      old.ownerOf row.sessionId = some locator.pubkey ∧ row.migrated locator.pubkey = locator := by
  rw [locatorOf, Option.map_eq_some_iff]
  constructor
  · rintro ⟨owner, howner, rfl⟩
    exact ⟨howner, rfl⟩
  · rintro ⟨howner, hmigrated⟩
    exact ⟨locator.pubkey, howner, hmigrated⟩

/-- An alias that becomes a native locator of the pubkey is a native alias of it. -/
theorem nativeAliasOf_of_locatorOf {row : SessionAlias} {locator : SessionLocatorV9}
    (hlocator : old.locatorOf row = some locator)
    (hkind : locator.locatorKind = locatorNativeResume) :
    old.NativeAliasOf locator.pubkey row := by
  obtain ⟨howner, hmigrated⟩ := locatorOf_eq_some_iff.mp hlocator
  rw [← hmigrated] at hkind
  exact ⟨migratedKind_eq_native_iff.mp hkind, howner⟩

theorem eq_of_migrated_key {left right : SessionAlias} {leftOwner rightOwner : String}
    (hleft : left ∈ old.sessionAliases.rows) (hright : right ∈ old.sessionAliases.rows)
    (hleftNative : left.externalIdKind = "harness_session")
    (hrightNative : right.externalIdKind = "harness_session")
    (hkey : (left.migrated leftOwner).key = (right.migrated rightOwner).key) : left = right := by
  have hkeys : left.key = right.key := by
    simp only [SessionLocatorV9.key, SessionAlias.migrated, Prod.mk.injEq] at hkey
    simp only [SessionAlias.key, Prod.mk.injEq]
    exact ⟨hkey.1, hleftNative.trans hrightNative.symm, hkey.2.2⟩
  exact List.inj_on_of_nodup_map old.sessionAliases.keysNodup hleft hright hkeys

/-- Of the native aliases of a pubkey the first one becomes its locator, and no other. -/
theorem nativeLocator_first {first : SessionAlias}
    (hfirst : old.sessionAliases.first? (old.NativeAliasOf pubkey) = some first) :
    first.migrated pubkey ∈ old.migratedLocators.rows ∧
      ∀ other ∈ old.migratedLocators.rows, other.locatorKind = locatorNativeResume →
        other.pubkey = pubkey → other = first.migrated pubkey := by
  obtain ⟨hmatch, before, after, hsplit, hbefore⟩ := List.find?_eq_some_iff_append.mp hfirst
  have hnative : old.NativeAliasOf pubkey first := of_decide_eq_true hmatch
  have hnone : ∀ held ∈ before, ¬ old.NativeAliasOf pubkey held := by
    intro held hheld
    simpa using hbefore held hheld
  have hlocator : old.locatorOf first = some (first.migrated pubkey) :=
    locatorOf_eq_some_iff.mpr ⟨hnative.2, rfl⟩
  have hkind : (first.migrated pubkey).locatorKind = locatorNativeResume :=
    migratedKind_eq_native_iff.mpr hnative.1
  have hmem : first.migrated pubkey ∈ old.migratedLocators.rows := by
    rw [migratedLocators, locatorRows, hsplit, List.filterMap_append,
      List.filterMap_cons_some hlocator]
    -- Neither the key nor the index is held by a row that was copied before it.
    apply Table.mem_insertAllOrIgnoreIndexed_of_first
    · rintro other (hempty | hother) hkey
      · cases hempty
      · obtain ⟨held, hheld, hother⟩ := List.mem_filterMap.mp hother
        obtain ⟨_, hmigrated⟩ := locatorOf_eq_some_iff.mp hother
        have hotherKind : other.locatorKind = locatorNativeResume :=
          (Prod.mk.inj (Prod.mk.inj hkey).2).1.trans hkind
        have hheldNative := nativeAliasOf_of_locatorOf hother hotherKind
        rw [← hmigrated] at hkey
        have hheldRow : held ∈ old.sessionAliases.rows := by
          rw [hsplit]
          exact List.mem_append_left _ hheld
        have hsame : held = first :=
          eq_of_migrated_key hheldRow (Table.mem_of_first? hfirst).1 hheldNative.1 hnative.1 hkey
        exact hnone held hheld (hsame ▸ hnative)
    · rintro other (hempty | hother) ⟨value, hleft, hright⟩
      · cases hempty
      · obtain ⟨held, hheld, hother⟩ := List.mem_filterMap.mp hother
        obtain ⟨_, rfl⟩ := nativeOwner_eq_some_iff.mp hleft
        obtain ⟨hotherKind, hpubkey⟩ := nativeOwner_eq_some_iff.mp hright
        have hheldNative := nativeAliasOf_of_locatorOf hother hotherKind
        rw [hpubkey] at hheldNative
        exact hnone held hheld hheldNative
  refine ⟨hmem, ?_⟩
  intro other hother hotherKind hpubkey
  have hunique : Table.IndexUnique SessionLocatorV9.nativeOwner old.migratedLocators :=
    Table.IndexUnique.insertAllOrIgnoreIndexed (fun _ hleft => by cases hleft)
  exact hunique other hother _ hmem ⟨pubkey, nativeOwner_eq_some_iff.mpr ⟨hotherKind, hpubkey⟩,
    nativeOwner_eq_some_iff.mpr ⟨hkind, rfl⟩⟩

/-! ## The step as a whole -/

theorem v5ToV6_eq (old : Schema5) : ∃ new, old.v5ToV6 = .ok new ∧
    new.sessions = old.migratedSessions ∧ new.sessionChannels = old.migratedChannels ∧
      new.sessionLocators = old.migratedLocators := by
  obtain ⟨catalogue, hcatalogue⟩ := old.alterSchema5_ok
  unfold v5ToV6
  rw [old.requireShape5_ok, hcatalogue]
  exact ⟨_, rfl, rfl, rfl, rfl⟩

/-- The native locator of a pubkey is one of its newest session exactly if the first native
alias of the pubkey is. -/
theorem native_kept_iff {new : Schema6} (hnew : new.sessionLocators = old.migratedLocators)
    {first : SessionAlias}
    (hfirst : old.sessionAliases.first? (old.NativeAliasOf pubkey) = some first) :
    (∃ own ∈ old.sessionAliases.rows, OwnNativeAlias chosen.sessionId own ∧
      NativeLocator new pubkey (own.migrated pubkey)) ↔ first.sessionId = chosen.sessionId := by
  obtain ⟨hmem, honly⟩ := nativeLocator_first hfirst
  obtain ⟨hrow, hnative⟩ := Table.mem_of_first? hfirst
  simp only [NativeLocator, hnew]
  constructor
  · rintro ⟨own, hown, ⟨hkind, hid⟩, howned, _⟩
    have hlocator := honly _ howned (migratedKind_eq_native_iff.mpr hkind) rfl
    have hsame : own = first :=
      eq_of_migrated_key hown hrow hkind hnative.1 (congrArg SessionLocatorV9.key hlocator)
    rw [← hsame]
    exact hid
  · intro hid
    exact ⟨first, hrow, ⟨hnative.1, hid⟩, hmem, honly⟩

/-- The step to schema 6 keeps the facts of a session together exactly if the first native
alias of each pubkey belongs to its newest session. -/
theorem identityMigration_iff (old : Schema5) :
    (∃ new, old.v5ToV6 = .ok new ∧ old.KeepsTogether new) ↔ old.NewestAliasFirst := by
  obtain ⟨new, hstep, hsessions, hchannels, hlocators⟩ := v5ToV6_eq old
  constructor
  · rintro ⟨other, hother, hkeeps⟩ pubkey chosen first hchosen hown hfirst
    rw [hstep] at hother
    cases hother
    exact (native_kept_iff hlocators hfirst).mp (hkeeps.native pubkey chosen hchosen hown)
  · intro haliases
    refine ⟨new, hstep, ?_, ?_, ?_, ?_⟩
    · intro pubkey
      rw [hsessions]
      exact matching_migratedSessions pubkey
    · intro pubkey chosen hchosen
      rw [hsessions, find?_migratedSessions, hchosen]
      exact ⟨rfl, (mem_of_newest hchosen).1, fun _ => lastSeen_le_of_newest hchosen⟩
    · intro pubkey chosen hchosen hown
      obtain ⟨hrow, hpubkey⟩ := mem_of_newest hchosen
      -- The alias of the chosen session is one of the pubkey, so that a first one exists.
      have hany : old.sessionAliases.Any (old.NativeAliasOf pubkey) := by
        obtain ⟨own, hmem, hkind, hid⟩ := hown
        refine ⟨own, hmem, hkind, ?_⟩
        rw [hid, ownerOf_of_mem hrow, hpubkey]
      obtain ⟨first, hfirst⟩ := Option.ne_none_iff_exists'.mp
        (mt Table.first?_eq_none_iff.mp (not_not_intro hany))
      have hid := haliases pubkey chosen first hchosen hown hfirst
      exact (native_kept_iff hlocators hfirst).mpr hid
    · intro route hroute session hsession hid
      rw [hchannels]
      exact channel_kept hroute hsession hid

/-! ## Two sessions of a pubkey -/

def writerSession (sessionId : String) (lastSeen : Nat) : SessionV5 where
  sessionId := sessionId
  agentPubkey := "writer"
  agentSlug := "writer"
  channelH := "room"
  harness := "claude"
  childPid := none
  transcriptPath := none
  alive := 1
  createdAt := 1
  lastSeen := lastSeen
  working := 0
  turnStartedAt := 0
  lastDistillAt := 0
  workTopic := ""
  workTopicSetAt := 0
  seenCursor := 0
  title := ""
  activity := ""
  resumeId := ""
  distillFailStreak := 0
  distillNoticeAt := 0
  explicitChatPublishedAt := 0

def resumeAlias (externalId sessionId : String) : SessionAlias where
  harness := "claude"
  externalIdKind := "harness_session"
  externalId := externalId
  sessionId := sessionId
  createdAt := 1

/-- The catalogue of a database that has the tables of the step and no others. -/
def plainCatalogue : Catalogue
  | "sessions" => sessionColumns
  | "session_channels" => channelColumns
  | "session_aliases" => aliasColumns
  | "session_claims" => claimColumns
  | "llm_calls" => llmCallColumns
  | "messages" => messageColumns
  | _ => []

def resumedTwice : Schema5 where
  catalogue := plainCatalogue
  sessions := ⟨[writerSession "older" 10, writerSession "newer" 20], by decide⟩
  sessionChannels := Table.empty
  sessionAliases := ⟨[resumeAlias "first" "older", resumeAlias "second" "newer"], by decide⟩
  sessionClaims := Table.empty
  llmCalls := Table.empty
  shaped := ⟨rfl, rfl, rfl, rfl, rfl, rfl, rfl, by decide⟩

/-- The pubkey keeps the columns of its newer session and the native id of the older one. -/
theorem older_alias_wins :
    ¬ ∀ old : Schema5, ∃ new, old.v5ToV6 = .ok new ∧ old.KeepsTogether new := by
  intro hall
  have hfirst := (identityMigration_iff resumedTwice).mp (hall resumedTwice)
  exact absurd (hfirst "writer" (writerSession "newer" 20) (resumeAlias "first" "older")
    (by decide) (by decide) (by decide)) (by decide)

end Schema5

end Mosaico
