import Mosaico.Fabric.Reactions

/-!
# Which reactions a view accounts for

A capture takes a bounded number of the reactions since its floor, the oldest first, before it
leaves out the backends and before the view applies its cursor.  A reaction of the window is
therefore accounted for as long as the older ones do not use up the bound; one that they hide is
behind the cursor at the next request.
-/

namespace Mosaico

open Relational

namespace ReactionStore

/-- A reaction of another pubkey, not a backend, on a message of the reader. -/
structure Candidate (store : ReactionStore) (scope : ReactionScope) (row : StoredReaction) :
    Prop where
  stored : row ∈ store.reactions.rows
  other : row.reactorPubkey ≠ scope.selfPubkey
  notBackend : store.intake.db.isBackendPubkey scope.backendPubkey row.reactorPubkey = false
  onOwn : ∃ message ∈ store.intake.messages.rows,
    message.messageId = row.targetMessageId ∧ message.authorPubkey = scope.selfPubkey

/-- A candidate whose time is in the window of a view. -/
structure Wanted (store : ReactionStore) (scope : ReactionScope) (cursor now : Nat)
    (row : StoredReaction) : Prop extends store.Candidate scope row where
  after : cursor < row.createdAt
  due : row.createdAt ≤ now

/-- The group is one of those that the view counts instead of rendering. -/
def Counted (sources : List ReactionCap) (cursor now : Nat) (group : ReactionGroup) : Prop :=
  ∃ i, maxReactionRows ≤ i ∧ (orderedGroups sources cursor now)[i]? = some group ∧
    i - maxReactionRows < (groupReactions sources cursor now).2

/-- The reactor is in the group of the message and the emoji, and the group is rendered or
counted. -/
def Accounted (store : ReactionStore) (scope : ReactionScope) (cursor now : Nat)
    (row : StoredReaction) : Prop :=
  ∃ group ∈ orderedGroups (store.captureReactionSources scope) cursor now,
    group.key = (row.targetMessageId, row.emoji) ∧
      store.pubkeyRef row.reactorPubkey scope.localHost ∈ group.reactors ∧
      (group.row now ∈ (groupReactions (store.captureReactionSources scope) cursor now).1 ∨
        Counted (store.captureReactionSources scope) cursor now group)

/-- The same reference has marked the same message with the same emoji. -/
def SameMark (store : ReactionStore) (scope : ReactionScope) (row other : StoredReaction) :
    Prop :=
  other.targetMessageId = row.targetMessageId ∧ other.emoji = row.emoji ∧
    store.pubkeyRef other.reactorPubkey scope.localHost =
      store.pubkeyRef row.reactorPubkey scope.localHost

/-- The reaction, or another of the same mark in the window, is newer than the floor and has
fewer than `reactionCaptureCap` reactions since the floor before it. -/
def Reached (store : ReactionStore) (scope : ReactionScope) (cursor now : Nat)
    (row : StoredReaction) : Prop :=
  scope.selfPubkey ≠ "" ∧ scope.since ≤ Rust.i64Max ∧
    ∃ other ∈ store.authored scope.selfPubkey scope.since,
      store.SameMark scope row other.toStoredReaction ∧
        cursor < other.createdAt ∧ other.createdAt ≤ now ∧
        store.intake.db.isBackendPubkey scope.backendPubkey other.reactorPubkey = false ∧
        rank AuthoredReaction.position (store.authored scope.selfPubkey scope.since) other <
          reactionCaptureCap

variable {store : ReactionStore} {scope : ReactionScope} {cursor now : Nat}
  {row : StoredReaction}

/-- Every group of a view is rendered or counted. -/
theorem rendered_or_counted {sources : List ReactionCap} {group : ReactionGroup}
    (hgroup : group ∈ orderedGroups sources cursor now) :
    group.row now ∈ (groupReactions sources cursor now).1 ∨ Counted sources cursor now group := by
  obtain ⟨i, hi⟩ := List.mem_iff_getElem?.mp hgroup
  have hlength := (List.getElem?_eq_some_iff.mp hi).1
  by_cases hfirst : i < maxReactionRows
  · refine Or.inl (List.mem_map_of_mem ?_)
    rw [List.mem_iff_getElem?]
    exact ⟨i, by rw [List.getElem?_take_of_lt hfirst, hi]⟩
  · refine Or.inr ⟨i, by omega, hi, ?_⟩
    unfold groupReactions
    simp only
    omega

theorem accounted_iff_reached :
    store.Accounted scope cursor now row ↔ store.Reached scope cursor now row := by
  have hcollected := collected_groups (store.captureReactionSources scope) cursor now
  constructor
  · rintro ⟨group, hgroup, hkey, hreactor, _⟩
    obtain ⟨cap, hcap, hcapKey, href⟩ :=
      hcollected.sources group (mem_orderedGroups.mp hgroup) _ hreactor
    obtain ⟨hsource, hwindow⟩ := List.mem_filter.mp hcap
    obtain ⟨hself, hsince, other, hother, hrank, hbackend, rfl⟩ :=
      mem_captureReactionSources.mp hsource
    have hmark := hcapKey.trans hkey
    simp only [ReactionCap.inWindow, Bool.and_eq_true, decide_eq_true_eq] at hwindow
    exact ⟨hself, hsince, other, hother,
      ⟨congrArg Prod.fst hmark, congrArg Prod.snd hmark, href⟩,
      hwindow.1, hwindow.2, hbackend, hrank⟩
  · rintro ⟨hself, hsince, other, hother, ⟨htarget, hemoji, href⟩, hafter, hdue, hbackend, hrank⟩
    have hsource : store.reactionCap scope other ∈ store.captureReactionSources scope :=
      mem_captureReactionSources.mpr ⟨hself, hsince, other, hother, hrank, hbackend, rfl⟩
    have hwindow : (store.reactionCap scope other).inWindow cursor now = true := by
      simp only [ReactionCap.inWindow, Bool.and_eq_true, decide_eq_true_eq]
      exact ⟨hafter, hdue⟩
    obtain ⟨group, hgroup, hkey, hreactor⟩ :=
      hcollected.covers _ (List.mem_filter.mpr ⟨hsource, hwindow⟩)
    have hordered := mem_orderedGroups.mpr hgroup
    refine ⟨group, hordered, ?_, ?_, rendered_or_counted hordered⟩
    · rw [hkey, ← htarget, ← hemoji]
      rfl
    · rw [← href]
      exact hreactor

/-! ## Requests one after another -/

/-- A view that is asked for at `now`. -/
structure ReactionRequest where
  store : ReactionStore
  scope : ReactionScope
  now : Nat

/-- Where the cursor stands after the requests. -/
def cursorAfter (cursor : Nat) (requests : List ReactionRequest) : Nat :=
  requests.foldl (fun current request => max current request.now) cursor

/-- Each request reaches the reactions of its window. -/
def AllReached (cursor : Nat) : List ReactionRequest → Prop
  | [] => True
  | request :: rest =>
      (∀ row, request.store.Wanted request.scope cursor request.now row →
        request.store.Reached request.scope cursor request.now row) ∧
        AllReached (max cursor request.now) rest

/-- A reaction that is there throughout is accounted for by the first request after its time. -/
theorem exists_accounted {requests : List ReactionRequest} (hreached : AllReached cursor requests)
    (hcandidate : ∀ request ∈ requests, request.store.Candidate request.scope row)
    (hafter : cursor < row.createdAt) (hdue : row.createdAt ≤ cursorAfter cursor requests) :
    ∃ before request later, requests = before ++ request :: later ∧
      request.store.Accounted request.scope (cursorAfter cursor before) request.now row := by
  induction requests generalizing cursor with
  | nil =>
      have hle : row.createdAt ≤ cursor := hdue
      omega
  | cons request rest ih =>
      by_cases hnow : row.createdAt ≤ request.now
      · have hwanted : request.store.Wanted request.scope cursor request.now row :=
          ⟨hcandidate request (by simp), hafter, hnow⟩
        exact ⟨[], request, rest, rfl, accounted_iff_reached.mpr (hreached.1 row hwanted)⟩
      · obtain ⟨before, found, later, rfl, haccounted⟩ := ih hreached.2
          (fun other hother => hcandidate other (List.mem_cons_of_mem _ hother))
          (by omega) hdue
        exact ⟨request :: before, found, later, rfl, haccounted⟩

/-- A view accounts for the reactions of its window exactly if it reaches them, and where each
request of a run does, none between the first cursor and the last is skipped. -/
theorem reactions_accounted_iff (cursor : Nat) :
    (∀ (store : ReactionStore) (scope : ReactionScope) (now : Nat),
      (∀ row, store.Wanted scope cursor now row → store.Accounted scope cursor now row) ↔
        ∀ row, store.Wanted scope cursor now row → store.Reached scope cursor now row) ∧
      ∀ requests : List ReactionRequest, AllReached cursor requests →
        ∀ row : StoredReaction,
          (∀ request ∈ requests, request.store.Candidate request.scope row) →
          cursor < row.createdAt → row.createdAt ≤ cursorAfter cursor requests →
            ∃ before request later, requests = before ++ request :: later ∧
              request.store.Accounted request.scope (cursorAfter cursor before) request.now
                row := by
  constructor
  · intro store scope now
    simp only [accounted_iff_reached]
  · intro requests hreached row hcandidate hafter hdue
    exact exists_accounted hreached hcandidate hafter hdue

/-! ## A well-liked message -/

/-- The reactions on one message, each a second after the one before. -/
def likedReaction (index : Nat) : StoredReaction where
  reactionId := String.ofList (List.replicate index 'a')
  targetMessageId := "mine"
  channelH := "room"
  reactorPubkey := "peer"
  emoji := "+"
  createdAt := index + 1

def likedReactions (count : Nat) : List StoredReaction :=
  (List.range count).map likedReaction

theorem likedReactions_ids_nodup (count : Nat) :
    ((likedReactions count).map StoredReaction.reactionId).Nodup := by
  rw [likedReactions, List.map_map]
  refine List.nodup_range.map ?_
  intro first second heq
  have hlength := congrArg List.length (String.ofList_injective heq)
  simpa using hlength

def likedMessage : Message where
  messageId := "mine"
  threadId := "room"
  channelH := "room"
  authorPubkey := "me"
  body := "done"
  createdAt := 0
  direction := .outbound
  syncState := "accepted"
  nativeEventId := some "mine"
  error := none

/-- A message of "me" with so many reactions. -/
def likedStore (count : Nat) : ReactionStore where
  intake := { Intake.empty with messages := Table.empty.insertOrIgnore likedMessage }
  reactions := { rows := likedReactions count, keysNodup := likedReactions_ids_nodup count }
  profileNames := fun _ => ⟨"", ""⟩

def likedScope : ReactionScope where
  selfPubkey := "me"
  since := 0
  localHost := "host"
  backendPubkey := "backend"

theorem authored_likedStore (count : Nat) :
    (likedStore count).authored "me" 0 =
      (likedReactions count).map fun row => { row with targetBody := "done" } := by
  unfold authored
  rw [← List.filterMap_eq_map]
  apply List.filterMap_congr
  intro row hrow
  obtain ⟨index, _, rfl⟩ := List.mem_map.mp hrow
  have hmessage : (likedStore count).intake.messages.find? "mine" = some likedMessage := rfl
  unfold onAuthored
  rw [show (likedReaction index).targetMessageId = "mine" from rfl, hmessage]
  have hjoined : likedMessage.authorPubkey = "me" ∧ 0 < (likedReaction index).createdAt ∧
      (likedReaction index).reactorPubkey ≠ "me" := by
    refine ⟨rfl, Nat.succ_pos index, ?_⟩
    show "peer" ≠ "me"
    decide
  rw [Option.bind_some, if_pos hjoined]
  rfl

/-- All the reactions before the newest one come before it in a capture. -/
theorem rank_newest (older : Nat) :
    rank AuthoredReaction.position ((likedStore (older + 1)).authored "me" 0)
      { likedReaction older with targetBody := "done" } = older := by
  rw [authored_likedStore, likedReactions, List.range_succ, List.map_append, List.map_append, rank,
    List.filter_append, List.filter_eq_self.mpr, List.filter_eq_nil_iff.mpr]
  · simp
  · intro row hrow
    simp only [List.map_cons, List.map_nil, List.mem_singleton] at hrow
    rw [hrow]
    simp
  · intro row hrow
    obtain ⟨stored, hstored, rfl⟩ := List.mem_map.mp hrow
    obtain ⟨index, hindex, rfl⟩ := List.mem_map.mp hstored
    rw [List.mem_range] at hindex
    have htime : (likedReaction index).createdAt < (likedReaction older).createdAt :=
      Nat.succ_lt_succ hindex
    simpa [AuthoredReaction.position, Prod.Lex.toLex_lt_toLex] using Or.inl htime

theorem wanted_newest (older : Nat) :
    (likedStore (older + 1)).Wanted likedScope older (older + 1) (likedReaction older) := by
  have hstored : likedReaction older ∈ likedReactions (older + 1) :=
    List.mem_map_of_mem (by simp)
  refine ⟨⟨hstored, ?_, rfl, likedMessage, List.mem_singleton_self _, rfl, rfl⟩,
    Nat.lt_succ_self older, Nat.le_refl _⟩
  show "peer" ≠ "me"
  decide

/-- Nothing else is in the window of the newest reaction. -/
theorem not_accounted_newest {older : Nat} (hmany : reactionCaptureCap ≤ older) :
    ¬ (likedStore (older + 1)).Accounted likedScope older (older + 1) (likedReaction older) := by
  rw [accounted_iff_reached]
  rintro ⟨_, _, other, hother, _, hafter, hdue, _, hrank⟩
  have hmem : other ∈ (likedStore (older + 1)).authored "me" 0 := hother
  rw [authored_likedStore, List.mem_map] at hmem
  obtain ⟨stored, hstored, rfl⟩ := hmem
  obtain ⟨index, _, rfl⟩ := List.mem_map.mp hstored
  have hindex : index = older := by
    have hlow : older < index + 1 := hafter
    have hhigh : index + 1 ≤ older + 1 := hdue
    omega
  rw [hindex] at hrank
  have hcount := rank_newest older
  have hrank' : older < reactionCaptureCap := by
    rw [← hcount]
    exact hrank
  omega

/-- A thousand reactions of earlier turns hide the newest one. -/
theorem newest_reaction_skipped :
    (likedStore (reactionCaptureCap + 1)).Wanted likedScope reactionCaptureCap
        (reactionCaptureCap + 1) (likedReaction reactionCaptureCap) ∧
      ¬ (likedStore (reactionCaptureCap + 1)).Accounted likedScope reactionCaptureCap
        (reactionCaptureCap + 1) (likedReaction reactionCaptureCap) :=
  ⟨wanted_newest reactionCaptureCap, not_accounted_newest (Nat.le_refl _)⟩

end ReactionStore

end Mosaico
