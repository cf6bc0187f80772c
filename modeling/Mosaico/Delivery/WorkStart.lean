import Mosaico.State.Operations
import Mathlib.Data.List.Nodup

/-!
# Work-start handoffs

A message that reaches an agent leaves a pending claim under the key of its recipient.  When
work begins the claim is taken, once, and the agent reacts to the message.  A hook turn takes
every claim of its session; a prompt of the daemon takes the claims of its own events.

Both go through one function, in which an empty list of events stands for all of them.  The
prompt of a spawn has no events, so it takes the claims of every other prompt as well.
-/

namespace Mosaico

open Relational Transition

structure WorkStartClaim where
  eventId : String
  channelH : String
  deriving DecidableEq, Repr

/-- The assignment of a take. -/
def EventClaim.taken (row : EventClaim) (now : Nat) : EventClaim :=
  { row with
    state := .completed
    updatedAt := now }

namespace Store

/-- The claims a take looks at, with their channels. -/
def workStartCandidates (store : Store) (targetPubkey : String) (eventIds : List String) :
    List (String × String) :=
  let key := workStartClaimKey targetPubkey
  if eventIds = [] then
    let pending := store.eventClaims.select (fun row : EventClaim =>
      row.claimKey = key ∧ row.state = .pending)
    -- `ORDER BY created_at, event_id`, by two stable sorts
    ((pending.insertionSort (fun left right => left.eventId ≤ right.eventId)).insertionSort
      (fun left right => left.createdAt ≤ right.createdAt)).map
        (fun row => (row.eventId, row.channelH))
  else eventIds.filterMap (fun eventId =>
    -- one `SELECT` for each id, in the order of the prompt
    match store.eventClaims.find? (eventId, key) with
    | some row => if row.state = .pending then some (eventId, row.channelH) else none
    | none => none)

/-- Complete one candidate after the other; one that is not pending any more is skipped. -/
def completeEach (store : Store) (key : String) (now : Nat) :
    List (String × String) → List WorkStartClaim × Store
  | [] => ([], store)
  | (eventId, channelH) :: rest =>
      if store.eventClaims.matching (fun row : EventClaim =>
          row.key = (eventId, key) ∧ row.state = .pending) = 0
      then store.completeEach key now rest
      else
        let after := { store with
          eventClaims := store.eventClaims.updateWhere
            (fun row => row.key = (eventId, key) ∧ row.state = ClaimState.pending)
            (fun row => row.taken now) }
        let (others, final) := after.completeEach key now rest
        ({ eventId := eventId, channelH := channelH } :: others, final)

/-- Atomically take handoffs for the exact inbox rows in one submitted prompt. -/
def takeWorkStartClaimsForEvents (store : Store) (targetPubkey : String)
    (eventIds : List String) (now : Nat) : Except StoreError (List WorkStartClaim × Store) := do
  let candidates := store.workStartCandidates targetPubkey eventIds
  bindParams (candidates.map (fun _ => now))
  return store.completeEach (workStartClaimKey targetPubkey) now candidates

/-- Atomically take every unconsumed work-start handoff for one exact session. -/
def takeWorkStartClaims (store : Store) (targetPubkey : String) (now : Nat) :
    Except StoreError (List WorkStartClaim × Store) :=
  store.takeWorkStartClaimsForEvents targetPubkey [] now

end Store

/-! ## One take -/

namespace Store

variable {store : Store} {key targetPubkey : String} {now : Nat}

/-- The claim of the event under the key is pending. -/
def PendingClaim (store : Store) (key eventId : String) : Prop :=
  ∃ row, store.eventClaims.find? (eventId, key) = some row ∧ row.state = .pending

theorem matching_claim_eq_zero_iff {eventId : String} :
    store.eventClaims.matching (fun row => row.key = (eventId, key) ∧ row.state = .pending) = 0 ↔
      ¬ store.PendingClaim key eventId := by
  rw [PendingClaim, ← Table.any_key_iff, ← Table.matching_pos_iff, Nat.pos_iff_ne_zero, not_not]

/-- One completed candidate. -/
theorem pendingClaim_updateWhere {eventId other otherKey : String} :
    PendingClaim { store with
        eventClaims := store.eventClaims.updateWhere
          (fun row => row.key = (eventId, key) ∧ row.state = .pending)
          (fun row => row.taken now) } otherKey other ↔
      store.PendingClaim otherKey other ∧ ¬ (other = eventId ∧ otherKey = key) := by
  rw [PendingClaim, PendingClaim]
  simp only [Table.find?_updateWhere]
  cases hfind : store.eventClaims.find? (other, otherKey) with
  | none => simp
  | some row =>
      have hkey : row.key = (other, otherKey) := Table.key_of_find? hfind
      by_cases hpending : row.state = .pending
      · by_cases hsame : other = eventId ∧ otherKey = key
        · simp [hkey, hsame, hpending, EventClaim.taken]
        · have hne : ¬ (other, otherKey) = (eventId, key) := by
            rw [Prod.mk.injEq]
            exact hsame
          simp [hkey, hne, hsame, hpending]
      · simp [hpending]

theorem mem_completeEach {candidates : List (String × String)} {eventId : String} :
    eventId ∈ (store.completeEach key now candidates).1.map WorkStartClaim.eventId ↔
      eventId ∈ candidates.map Prod.fst ∧ store.PendingClaim key eventId := by
  induction candidates generalizing store with
  | nil => simp [completeEach]
  | cons first rest ih =>
      obtain ⟨firstId, channelH⟩ := first
      rw [completeEach]
      by_cases hskip : store.eventClaims.matching
          (fun row => row.key = (firstId, key) ∧ row.state = .pending) = 0
      · have hnot := matching_claim_eq_zero_iff.mp hskip
        rw [if_pos hskip, ih, List.map_cons, List.mem_cons]
        constructor
        · exact fun h => ⟨Or.inr h.1, h.2⟩
        · rintro ⟨rfl | hmem, hpending⟩
          · exact absurd hpending hnot
          · exact ⟨hmem, hpending⟩
      · have hfirst := not_not.mp (mt matching_claim_eq_zero_iff.mpr hskip)
        rw [if_neg hskip]
        simp only [List.map_cons, List.mem_cons, ih, pendingClaim_updateWhere]
        constructor
        · rintro (rfl | ⟨hmem, hpending, _⟩)
          · exact ⟨Or.inl rfl, hfirst⟩
          · exact ⟨Or.inr hmem, hpending⟩
        · rintro ⟨hmem, hpending⟩
          by_cases heq : eventId = firstId
          · exact Or.inl heq
          · exact Or.inr ⟨hmem.resolve_left heq, hpending, fun h => heq h.1⟩

/-- A take returns an event once. -/
theorem nodup_completeEach (candidates : List (String × String)) :
    ((store.completeEach key now candidates).1.map WorkStartClaim.eventId).Nodup := by
  induction candidates generalizing store with
  | nil => exact List.nodup_nil
  | cons first rest ih =>
      obtain ⟨firstId, channelH⟩ := first
      rw [completeEach]
      split_ifs
      · exact ih
      · refine List.nodup_cons.mpr ⟨?_, ih⟩
        rw [mem_completeEach, pendingClaim_updateWhere]
        exact fun h => h.2.2 ⟨rfl, rfl⟩

/-- What is pending after a take. -/
theorem pendingClaim_completeEach {candidates : List (String × String)}
    {other otherKey : String} :
    (store.completeEach key now candidates).2.PendingClaim otherKey other ↔
      store.PendingClaim otherKey other ∧
        ¬ (otherKey = key ∧ other ∈ candidates.map Prod.fst) := by
  induction candidates generalizing store with
  | nil => simp [completeEach]
  | cons first rest ih =>
      obtain ⟨firstId, channelH⟩ := first
      rw [completeEach]
      by_cases hskip : store.eventClaims.matching
          (fun row => row.key = (firstId, key) ∧ row.state = .pending) = 0
      · have hnot := matching_claim_eq_zero_iff.mp hskip
        rw [if_pos hskip, ih, List.map_cons, List.mem_cons]
        refine and_congr_right fun hpending => not_congr (and_congr_right ?_)
        rintro rfl
        constructor
        · exact Or.inr
        · rintro (rfl | hmem)
          · exact absurd hpending hnot
          · exact hmem
      · rw [if_neg hskip]
        simp only [List.map_cons, List.mem_cons, ih, pendingClaim_updateWhere]
        grind

theorem exists_claim_completeEach {candidates : List (String × String)} {k : String × String} :
    (∃ row, (store.completeEach key now candidates).2.eventClaims.find? k = some row) ↔
      ∃ row, store.eventClaims.find? k = some row := by
  induction candidates generalizing store with
  | nil => rfl
  | cons first rest ih =>
      obtain ⟨firstId, channelH⟩ := first
      rw [completeEach]
      split_ifs
      · exact ih
      · simp only [ih, Table.find?_updateWhere]
        cases store.eventClaims.find? k <;> simp

theorem mem_workStartCandidates {eventIds : List String} {eventId : String} :
    eventId ∈ (store.workStartCandidates targetPubkey eventIds).map Prod.fst ↔
      store.PendingClaim (workStartClaimKey targetPubkey) eventId ∧
        (eventIds = [] ∨ eventId ∈ eventIds) := by
  rw [workStartCandidates]
  by_cases hall : eventIds = []
  · simp only [if_pos hall, List.map_map, List.mem_map, List.mem_insertionSort, Table.mem_select,
      Function.comp_apply]
    constructor
    · rintro ⟨row, ⟨hrow, hkey, hpending⟩, rfl⟩
      refine ⟨⟨row, ?_, hpending⟩, Or.inl hall⟩
      rw [Table.mem_rows_iff, EventClaim.key, hkey] at hrow
      exact hrow
    · rintro ⟨⟨row, hfind, hpending⟩, _⟩
      have hkey : row.key = (eventId, workStartClaimKey targetPubkey) := Table.key_of_find? hfind
      obtain ⟨hid, hclaim⟩ := Prod.mk.inj hkey
      exact ⟨row, ⟨Table.mem_of_find? hfind, hclaim, hpending⟩, hid⟩
  · simp only [if_neg hall, List.mem_map, List.mem_filterMap]
    constructor
    · rintro ⟨⟨id, channelH⟩, ⟨candidate, hmem, hcandidate⟩, rfl⟩
      cases hfind : store.eventClaims.find? (candidate, workStartClaimKey targetPubkey) with
      | none => simp [hfind] at hcandidate
      | some row =>
          simp only [hfind, Option.ite_none_right_eq_some, Option.some.injEq, Prod.mk.injEq]
            at hcandidate
          obtain ⟨hpending, rfl, _⟩ := hcandidate
          exact ⟨⟨row, hfind, hpending⟩, Or.inr hmem⟩
    · rintro ⟨⟨row, hfind, hpending⟩, hmem⟩
      refine ⟨(eventId, row.channelH), ⟨eventId, hmem.resolve_left hall, ?_⟩, rfl⟩
      simp [hfind, hpending]

/-- A take returns the pending claims it asks for, unless the clock does not fit into the
statement that completes them. -/
theorem mem_takeWorkStart {eventIds : List String} {eventId : String} :
    (∃ result, store.takeWorkStartClaimsForEvents targetPubkey eventIds now = .ok result ∧
        eventId ∈ result.1.map WorkStartClaim.eventId) ↔
      store.PendingClaim (workStartClaimKey targetPubkey) eventId ∧
        (eventIds = [] ∨ eventId ∈ eventIds) ∧ now ≤ Rust.i64Max := by
  rw [takeWorkStartClaimsForEvents]
  constructor
  · rintro ⟨result, htake, hmem⟩
    obtain ⟨_, hbind, hreturn⟩ := bind_eq_ok.mp htake
    cases hreturn
    obtain ⟨hcandidate, _⟩ := mem_completeEach.mp hmem
    obtain ⟨hpending, hasked⟩ := mem_workStartCandidates.mp hcandidate
    refine ⟨hpending, hasked, bindParams_eq_ok.mp hbind now ?_⟩
    obtain ⟨candidate, hcandidate, _⟩ := List.mem_map.mp hcandidate
    exact List.mem_map.mpr ⟨candidate, hcandidate, rfl⟩
  · rintro ⟨hpending, hasked, hclock⟩
    -- the clock is bound once for each candidate
    have hbind : bindParams ((store.workStartCandidates targetPubkey eventIds).map
        (fun _ => now)) = .ok () := by
      refine bindParams_eq_ok.mpr ?_
      intro param hparam
      obtain ⟨_, _, rfl⟩ := List.mem_map.mp hparam
      exact hclock
    refine ⟨_, bind_eq_ok.mpr ⟨(), hbind, rfl⟩, ?_⟩
    exact mem_completeEach.mpr ⟨mem_workStartCandidates.mpr ⟨hpending, hasked⟩, hpending⟩

end Store

/-! ## Runs -/

/-- What the clients of the handoffs do: the operations on the inbox, which stage handoffs,
and the starts of work. -/
inductive WorkStartOp where
  | inbox (op : InboxOp)
  /-- `publish_for_started_turn`, at a hook turn. -/
  | startedTurn (pubkey : String) (now : Nat)
  /-- `publish_for_started_events`, when a managed turn has started or a steer is accepted.
  A spawn prompt has no events. -/
  | startedEvents (pubkey : String) (eventIds : List String) (now : Nat)
  deriving DecidableEq

namespace WorkStartOp

/-- The recipients and events of the claims that a take returns. -/
def takenBy (targetPubkey : String) (outcome : Except StoreError (List WorkStartClaim × Store)) :
    List (String × String) :=
  match outcome with
  | .ok result => result.1.map (fun claim => (targetPubkey, claim.eventId))
  | .error _ => []

/-- The handoffs that an operation takes. -/
def taken (store : Store) : WorkStartOp → List (String × String)
  | .inbox _ => []
  | .startedTurn pubkey now => takenBy pubkey (store.takeWorkStartClaims pubkey now)
  | .startedEvents pubkey eventIds now =>
      takenBy pubkey (store.takeWorkStartClaimsForEvents pubkey eventIds now)

def step (store : Store) : WorkStartOp → Store
  | .inbox op => store.inboxStep op
  | .startedTurn pubkey now => commit (store.takeWorkStartClaims pubkey now) store
  | .startedEvents pubkey eventIds now =>
      commit (store.takeWorkStartClaimsForEvents pubkey eventIds now) store

/-- All handoffs that a run takes, in order. -/
def takesAlong (store : Store) : List WorkStartOp → List (String × String)
  | [] => []
  | op :: rest => op.taken store ++ takesAlong (op.step store) rest

/-- The handoff of the event to the recipient is staged and not taken yet. -/
def PendingHandoff (store : Store) (pubkey eventId : String) : Prop :=
  store.PendingClaim (workStartClaimKey pubkey) eventId

/-- The handoff was staged and is taken. -/
def TakenHandoff (store : Store) (pubkey eventId : String) : Prop :=
  (∃ row, store.eventClaims.find? (eventId, workStartClaimKey pubkey) = some row) ∧
    ¬ PendingHandoff store pubkey eventId

/-- The start of a prompt takes the pending handoffs of its own events to its recipient, and
leaves all others. -/
def TakesExactly (store : Store) (op : WorkStartOp) (after : Store) : Prop :=
  match op with
  | .startedEvents pubkey eventIds _ =>
      (∀ target eventId, (target, eventId) ∈ op.taken store ↔
        target = pubkey ∧ eventId ∈ eventIds ∧ PendingHandoff store target eventId) ∧
      ∀ target eventId, PendingHandoff after target eventId ↔
        PendingHandoff store target eventId ∧ ¬ (target = pubkey ∧ eventId ∈ eventIds)
  | _ => True

/-- A prompt without events starts when nothing is pending for its recipient.  A clock that
does not fit into a statement makes the take fail. -/
def PromptScoped (store : Store) (op : WorkStartOp) : Prop :=
  match op with
  | .startedEvents pubkey eventIds now =>
      (eventIds = [] → (∀ eventId, ¬ PendingHandoff store pubkey eventId) ∨ Rust.i64Max < now) ∧
      (eventIds ≠ [] →
        (∀ eventId ∈ eventIds, ¬ PendingHandoff store pubkey eventId) ∨ now ≤ Rust.i64Max)
  | _ => True

/-- Each handoff is taken once, by work that it belongs to. -/
structure HandoffsExact (ops : List WorkStartOp) : Prop where
  own : ∀ before op after, ops = before ++ op :: after →
    TakesExactly (run step Store.empty before) op
      (step (run step Store.empty before) op)
  once : (takesAlong Store.empty ops).Nodup
  available : ∀ before after, ops = before ++ after → ∀ pubkey eventId,
    PendingHandoff (run step Store.empty before) pubkey eventId →
      PendingHandoff (run step Store.empty ops) pubkey eventId ∨
        (pubkey, eventId) ∈
          takesAlong (run step Store.empty before) after

/-! ### One operation -/

variable {store : Store} {pubkey : String} {now : Nat}

theorem workStartClaimKey_injective {first second : String}
    (heq : workStartClaimKey first = workStartClaimKey second) : first = second := by
  rw [workStartClaimKey, workStartClaimKey, ← String.toList_inj, String.toList_append,
    String.toList_append] at heq
  exact String.toList_inj.mp (List.append_cancel_left heq)

theorem mem_takenBy {eventIds : List String} {target eventId : String} :
    (target, eventId) ∈ takenBy pubkey (store.takeWorkStartClaimsForEvents pubkey eventIds now) ↔
      target = pubkey ∧ PendingHandoff store target eventId ∧
        (eventIds = [] ∨ eventId ∈ eventIds) ∧ now ≤ Rust.i64Max := by
  have hmem : (target, eventId) ∈
        takenBy pubkey (store.takeWorkStartClaimsForEvents pubkey eventIds now) ↔
      target = pubkey ∧ ∃ result,
        store.takeWorkStartClaimsForEvents pubkey eventIds now = .ok result ∧
          eventId ∈ result.1.map WorkStartClaim.eventId := by
    unfold takenBy
    cases store.takeWorkStartClaimsForEvents pubkey eventIds now with
    | error error => simp
    | ok result =>
        simp only [List.mem_map, Prod.mk.injEq, Except.ok.injEq, exists_eq_left']
        constructor
        · rintro ⟨claim, hclaim, rfl, rfl⟩
          exact ⟨rfl, claim, hclaim, rfl⟩
        · rintro ⟨rfl, claim, hclaim, rfl⟩
          exact ⟨claim, hclaim, rfl, rfl⟩
  rw [hmem, Store.mem_takeWorkStart]
  constructor
  · rintro ⟨rfl, hrest⟩
    exact ⟨rfl, hrest⟩
  · rintro ⟨rfl, hrest⟩
    exact ⟨rfl, hrest⟩

theorem nodup_takenBy (eventIds : List String) :
    (takenBy pubkey (store.takeWorkStartClaimsForEvents pubkey eventIds now)).Nodup := by
  unfold takenBy
  split
  · next result htake =>
      obtain ⟨_, _, hreturn⟩ := bind_eq_ok.mp htake
      cases hreturn
      have hnodup : ((store.completeEach (workStartClaimKey pubkey) now
          (store.workStartCandidates pubkey eventIds)).1.map WorkStartClaim.eventId).Nodup :=
        Store.nodup_completeEach _
      refine List.Nodup.of_map Prod.snd ?_
      rw [List.map_map]
      exact hnodup
  · exact List.nodup_nil

/-- A take leaves every claim pending that it does not return. -/
theorem pending_after_take {eventIds : List String} {target eventId : String} :
    PendingHandoff (commit (store.takeWorkStartClaimsForEvents pubkey eventIds now) store)
        target eventId ↔
      PendingHandoff store target eventId ∧
        (target, eventId) ∉
          takenBy pubkey (store.takeWorkStartClaimsForEvents pubkey eventIds now) := by
  unfold takenBy
  cases htake : store.takeWorkStartClaimsForEvents pubkey eventIds now with
  | error error => simp
  | ok result =>
      obtain ⟨_, _, hreturn⟩ := bind_eq_ok.mp htake
      cases hreturn
      rw [commit_ok, PendingHandoff, Store.pendingClaim_completeEach]
      refine and_congr_right fun hpending => not_congr ?_
      constructor
      · rintro ⟨hkey, hcandidate⟩
        obtain rfl := workStartClaimKey_injective hkey
        obtain ⟨claim, hclaim, rfl⟩ :=
          List.mem_map.mp (Store.mem_completeEach.mpr ⟨hcandidate, hpending⟩)
        exact List.mem_map.mpr ⟨claim, hclaim, rfl⟩
      · intro htaken
        obtain ⟨claim, hclaim, heq⟩ := List.mem_map.mp htaken
        obtain ⟨rfl, rfl⟩ := Prod.mk.inj heq
        exact ⟨rfl, (Store.mem_completeEach.mp (List.mem_map_of_mem hclaim)).1⟩

theorem claimEach_eventClaims (targetPubkey : String) (eventIds : List String) :
    (store.claimEach targetPubkey now eventIds).2.eventClaims = store.eventClaims := by
  induction eventIds generalizing store with
  | nil => rfl
  | cons eventId rest ih =>
      simp only [Store.claimEach, ih]
      rfl

/-- The inbox keeps every claim that is there. -/
theorem inboxStep_claims (op : InboxOp) {k : String × String} {row : EventClaim}
    (hfind : store.eventClaims.find? k = some row) :
    (store.inboxStep op).eventClaims.find? k = some row := by
  cases op with
  | enqueueInbox eventId targetPubkey fromPubkey channelH body createdAt =>
      simp only [Store.inboxStep]
      cases hresult : store.enqueueInbox eventId targetPubkey fromPubkey channelH body createdAt with
      | error error => exact hfind
      | ok result =>
          obtain ⟨_, _, hreturn⟩ := bind_eq_ok.mp hresult
          dsimp only at hreturn
          split at hreturn <;> cases hreturn <;> exact hfind
  | claimPendingForPubkey targetPubkey instant =>
      simp only [Store.inboxStep]
      cases hresult : store.claimPendingForPubkey targetPubkey instant with
      | error error => exact hfind
      | ok result =>
          obtain ⟨_, _, hreturn⟩ := bind_eq_ok.mp hresult
          cases hreturn
          exact Table.find?_insertAllOrIgnore_of_some hfind
  | claimPendingEventIdsForPubkey eventIds targetPubkey instant =>
      simp only [Store.inboxStep]
      cases hresult : store.claimPendingEventIdsForPubkey eventIds targetPubkey instant with
      | error error => exact hfind
      | ok result =>
          obtain ⟨_, _, hreturn⟩ := bind_eq_ok.mp hresult
          cases hreturn
          rw [commit_ok, claimEach_eventClaims]
          exact hfind
  | reenqueuePending eventIds targetPubkey | consumeInjectedEcho eventIds targetPubkey =>
      exact hfind
  | markInjectedForEcho eventIds targetPubkey instant =>
      simp only [Store.inboxStep]
      cases hresult : store.markInjectedForEcho eventIds targetPubkey instant with
      | error error => exact hfind
      | ok result =>
          obtain ⟨_, _, hreturn⟩ := bind_eq_ok.mp hresult
          cases hreturn
          exact Table.find?_insertAllOrIgnore_of_some hfind

/-- What one operation does to a handoff that is pending. -/
theorem pending_step (op : WorkStartOp) {target eventId : String}
    (hpending : PendingHandoff store target eventId) :
    PendingHandoff (step store op) target eventId ∨ (target, eventId) ∈ op.taken store := by
  cases op with
  | inbox op =>
      obtain ⟨row, hfind, hstate⟩ := hpending
      exact Or.inl ⟨row, inboxStep_claims op hfind, hstate⟩
  | startedTurn pubkey instant =>
      by_cases htaken : (target, eventId) ∈ (startedTurn pubkey instant).taken store
      · exact Or.inr htaken
      · exact Or.inl (pending_after_take.mpr ⟨hpending, htaken⟩)
  | startedEvents pubkey eventIds instant =>
      by_cases htaken : (target, eventId) ∈ (startedEvents pubkey eventIds instant).taken store
      · exact Or.inr htaken
      · exact Or.inl (pending_after_take.mpr ⟨hpending, htaken⟩)

theorem exists_after_take {eventIds : List String} {k : String × String} :
    (∃ row, (commit (store.takeWorkStartClaimsForEvents pubkey eventIds now)
        store).eventClaims.find? k = some row) ↔
      ∃ row, store.eventClaims.find? k = some row := by
  cases htake : store.takeWorkStartClaimsForEvents pubkey eventIds now with
  | error error => rfl
  | ok result =>
      obtain ⟨_, _, hreturn⟩ := bind_eq_ok.mp htake
      cases hreturn
      exact Store.exists_claim_completeEach

/-- A handoff that is taken stays so. -/
theorem taken_step (op : WorkStartOp) {target eventId : String}
    (htaken : TakenHandoff store target eventId) : TakenHandoff (step store op) target eventId := by
  obtain ⟨hexists, hnot⟩ := htaken
  cases op with
  | inbox op =>
      obtain ⟨row, hfind⟩ := hexists
      have hkept := inboxStep_claims op hfind
      refine ⟨⟨row, hkept⟩, ?_⟩
      rintro ⟨other, hother, hstate⟩
      have hsame : other = row := Option.some.inj (hother.symm.trans hkept)
      rw [hsame] at hstate
      exact hnot ⟨row, hfind, hstate⟩
  | startedTurn pubkey instant | startedEvents pubkey eventIds instant =>
      exact ⟨exists_after_take.mpr hexists, fun hafter => hnot (pending_after_take.mp hafter).1⟩

/-- What an operation takes is pending before and taken after it. -/
theorem mem_taken (op : WorkStartOp) {target eventId : String}
    (hmem : (target, eventId) ∈ op.taken store) :
    PendingHandoff store target eventId ∧ TakenHandoff (step store op) target eventId := by
  have hboth : ∀ pubkey eventIds instant,
      (target, eventId) ∈
        takenBy pubkey (store.takeWorkStartClaimsForEvents pubkey eventIds instant) →
      PendingHandoff store target eventId ∧
        TakenHandoff (commit (store.takeWorkStartClaimsForEvents pubkey eventIds instant) store)
          target eventId := by
    intro pubkey eventIds instant htaken
    obtain ⟨_, hpending, _⟩ := mem_takenBy.mp htaken
    obtain ⟨row, hfind, _⟩ := id hpending
    exact ⟨hpending, exists_after_take.mpr ⟨row, hfind⟩,
      fun hafter => (pending_after_take.mp hafter).2 htaken⟩
  cases op with
  | inbox op => cases hmem
  | startedTurn pubkey instant => exact hboth pubkey [] instant hmem
  | startedEvents pubkey eventIds instant => exact hboth pubkey eventIds instant hmem

theorem nodup_taken (op : WorkStartOp) : (op.taken store).Nodup := by
  cases op with
  | inbox op => exact List.nodup_nil
  | startedTurn pubkey instant => exact nodup_takenBy []
  | startedEvents pubkey eventIds instant => exact nodup_takenBy eventIds

/-- A prompt takes its own handoffs exactly when it has events of its own or finds nothing. -/
theorem takesExactly_iff (store : Store) (op : WorkStartOp) :
    TakesExactly store op (step store op) ↔ PromptScoped store op := by
  cases op with
  | inbox op | startedTurn pubkey instant => exact Iff.rfl
  | startedEvents pubkey eventIds instant =>
      have htaken : ∀ target eventId,
          (target, eventId) ∈ (startedEvents pubkey eventIds instant).taken store ↔
            target = pubkey ∧ PendingHandoff store target eventId ∧
              (eventIds = [] ∨ eventId ∈ eventIds) ∧ instant ≤ Rust.i64Max :=
        fun _ _ => mem_takenBy
      simp only [TakesExactly, PromptScoped]
      constructor
      · rintro ⟨hexact, _⟩
        constructor
        · -- an empty list asks for every handoff of the recipient
          rintro rfl
          by_contra hnot
          obtain ⟨hsome, hclock⟩ := not_or.mp hnot
          obtain ⟨eventId, hpending⟩ := not_forall.mp hsome
          have hmem := (htaken pubkey eventId).mpr
            ⟨rfl, not_not.mp hpending, Or.inl rfl, Nat.not_lt.mp hclock⟩
          exact List.not_mem_nil ((hexact pubkey eventId).mp hmem).2.1
        · intro _
          by_contra hnot
          obtain ⟨hsome, hclock⟩ := not_or.mp hnot
          push Not at hsome
          obtain ⟨eventId, hmem, hpending⟩ := hsome
          -- a pending event of the prompt is taken only at an instant that fits
          have hgot := (hexact pubkey eventId).mpr ⟨rfl, hmem, hpending⟩
          exact hclock ((htaken pubkey eventId).mp hgot).2.2.2
      · rintro ⟨hempty, hevents⟩
        have hexact : ∀ target eventId,
            (target, eventId) ∈ (startedEvents pubkey eventIds instant).taken store ↔
              target = pubkey ∧ eventId ∈ eventIds ∧ PendingHandoff store target eventId := by
          intro target eventId
          rw [htaken]
          constructor
          · rintro ⟨rfl, hpending, hasked, hclock⟩
            refine ⟨rfl, hasked.resolve_left ?_, hpending⟩
            intro hnil
            rcases hempty hnil with hnone | hlate
            · exact hnone eventId hpending
            · omega
          · rintro ⟨rfl, hmem, hpending⟩
            refine ⟨rfl, hpending, Or.inr hmem, ?_⟩
            exact (hevents (List.ne_nil_of_mem hmem)).resolve_left
              (fun hnone => hnone eventId hmem hpending)
        refine ⟨hexact, ?_⟩
        intro target eventId
        refine pending_after_take.trans (and_congr_right fun hpending => not_congr ?_)
        rw [show takenBy pubkey (store.takeWorkStartClaimsForEvents pubkey eventIds instant) =
          (startedEvents pubkey eventIds instant).taken store from rfl, hexact]
        simp only [hpending, and_true]

/-! ### Whole runs -/

/-- A handoff that is taken is not taken again. -/
theorem not_mem_takesAlong {ops : List WorkStartOp} {target eventId : String}
    (htaken : TakenHandoff store target eventId) : (target, eventId) ∉ takesAlong store ops := by
  induction ops generalizing store with
  | nil => exact List.not_mem_nil
  | cons op rest ih =>
      rw [takesAlong, List.mem_append]
      rintro (hnow | hlater)
      · exact htaken.2 (mem_taken op hnow).1
      · exact ih (taken_step op htaken) hlater

theorem nodup_takesAlong (store : Store) (ops : List WorkStartOp) :
    (takesAlong store ops).Nodup := by
  induction ops generalizing store with
  | nil => exact List.nodup_nil
  | cons op rest ih =>
      refine List.nodup_append.mpr ⟨nodup_taken op, ih _, ?_⟩
      rintro ⟨target, eventId⟩ hnow other hlater rfl
      exact not_mem_takesAlong (mem_taken op hnow).2 hlater

/-- A pending handoff stays so until it is taken. -/
theorem pending_run {ops : List WorkStartOp} {target eventId : String}
    (hpending : PendingHandoff store target eventId) :
    PendingHandoff (run step store ops) target eventId ∨
      (target, eventId) ∈ takesAlong store ops := by
  induction ops generalizing store with
  | nil => exact Or.inl hpending
  | cons op rest ih =>
      rw [takesAlong, List.mem_append]
      rcases pending_step op hpending with hstill | htaken
      · exact (ih hstill).imp_right Or.inr
      · exact Or.inr (Or.inl htaken)

/-- In every run no handoff is taken twice or lost, and each prompt takes the handoffs of its
own events exactly when every prompt without events starts with nothing pending. -/
theorem handoffsExact_iff (ops : List WorkStartOp) :
    HandoffsExact ops ↔ Guarded step PromptScoped Store.empty ops := by
  have hown := @forall_step_iff_guarded _ _ step PromptScoped TakesExactly (fun _ => True)
    Store.empty ops trivial (fun _ _ _ => trivial)
    (fun store op _ => takesExactly_iff store op)
  constructor
  · intro hexact
    exact hown.mp hexact.own
  · intro hguarded
    refine ⟨hown.mpr hguarded, nodup_takesAlong Store.empty ops, ?_⟩
    rintro before after rfl pubkey eventId hpending
    rw [run_append]
    exact pending_run hpending

/-- A message is in a prompt that has not begun. -/
def promptWaits : List WorkStartOp :=
  [.inbox (.enqueueInbox "event" "agent" "human" "room" "hello" 1),
    .inbox (.claimPendingEventIdsForPubkey ["event"] "agent" 2),
    .inbox (.markInjectedForEcho ["event"] "agent" 3)]

/-- A spawn prompt takes the handoff of a prompt that has not begun, which finds nothing when
its own turn starts. -/
theorem spawn_takes_other_prompt :
    ¬ (∀ ops, HandoffsExact ops) ∧
      (startedEvents "agent" [] 4).taken (run step Store.empty promptWaits) =
        [("agent", "event")] ∧
      (startedEvents "agent" ["event"] 5).taken
        (run step Store.empty (promptWaits ++ [.startedEvents "agent" [] 4])) = [] := by
  have htaken : (startedEvents "agent" [] 4).taken (run step Store.empty promptWaits) =
      [("agent", "event")] := by decide
  refine ⟨?_, htaken, by decide⟩
  intro hall
  have hexact := ((hall (promptWaits ++ [.startedEvents "agent" [] 4])).own promptWaits
    (.startedEvents "agent" [] 4) [] rfl).1 "agent" "event"
  rw [htaken] at hexact
  exact List.not_mem_nil (hexact.mp (List.mem_singleton_self _)).2.1

end WorkStartOp

end Mosaico
