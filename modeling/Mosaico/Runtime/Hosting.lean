import Mosaico.Runtime.Endpoints
import Mosaico.State.InboxEdges

/-!
# Running sessions at their endpoints

Which endpoint a running session is reached at depends on four of its columns and on
the locator table.  The operations of a doorbell scan touch neither, but for the one
that clears the locator of an endpoint it found dead.
-/

namespace Mosaico

open Relational Transition

/-- The columns that say where a session is reached are the same. -/
structure Session.SameRuntime (row next : Session) : Prop where
  runtimeState : next.runtimeState = row.runtimeState
  runtimeGeneration : next.runtimeGeneration = row.runtimeGeneration
  observedHarness : next.observedHarness = row.observedHarness
  admittedTransport : next.admittedTransport = row.admittedTransport

theorem Session.SameRuntime.refl (row : Session) : row.SameRuntime row := ⟨rfl, rfl, rfl, rfl⟩

namespace Store

/-- The session runs in the generation, and its recorded endpoint is this one. -/
def Hosts (store : Store) (pubkey : String) (generation : Nat) (kind : TransportKind)
    (endpointId : String) : Prop :=
  ∃ row, store.getSession pubkey = some row ∧ row.runtimeState = .running ∧
    row.runtimeGeneration = generation ∧
    store.hostedEndpointFor row = .ok (.resolved kind endpointId)

variable {kind : TransportKind} {endpointId pubkey : String} {generation : Nat} {after : Store}

theorem hostedEndpointFor_eq_resolved {store : Store} {session : Session} :
    store.hostedEndpointFor session = .ok (.resolved kind endpointId) ↔
      TransportKind.parse session.admittedTransport = some kind ∧
        ∃ locator, store.runtimeLocatorForSession session.pubkey session.runtimeGeneration
          kind.locatorKind = .ok (some locator) ∧ locator.locatorValue = endpointId := by
  unfold hostedEndpointFor
  cases hparse : TransportKind.parse session.admittedTransport with
  | none => simp
  | some parsed =>
      simp only [bind_eq_ok, Option.some.injEq]
      constructor
      · rintro ⟨found, hfound, hresolved⟩
        cases found with
        | none => simp at hresolved
        | some locator =>
            simp only [pure_eq_ok, HostedEndpoint.resolved.injEq] at hresolved
            obtain ⟨rfl, hvalue⟩ := hresolved
            exact ⟨rfl, locator, hfound, hvalue⟩
      · rintro ⟨rfl, locator, hfound, rfl⟩
        exact ⟨some locator, hfound, rfl⟩

/-- A snapshot of the session in its generation finds the endpoint of the session. -/
theorem Hosts.snapshot {store : Store}
    (hhosts : store.Hosts pubkey generation kind endpointId) {session : Session}
    (hpubkey : session.pubkey = pubkey) (hgeneration : session.runtimeGeneration = generation)
    (htransport : TransportKind.parse session.admittedTransport = some kind) :
    store.hostedEndpointFor session = .ok (.resolved kind endpointId) := by
  obtain ⟨row, hrow, _, rfl, hresolved⟩ := hhosts
  have hkey : row.pubkey = pubkey := Table.key_of_find? hrow
  obtain ⟨_, locator, hlocator, hvalue⟩ := hostedEndpointFor_eq_resolved.mp hresolved
  rw [hkey] at hlocator
  refine hostedEndpointFor_eq_resolved.mpr ⟨htransport, locator, ?_, hvalue⟩
  rw [hpubkey, hgeneration]
  exact hlocator

/-- The sessions run as before, whatever else the operation wrote about them. -/
def SameRuntimes (before after : Store) : Prop :=
  before.sessions.RelatedBy Session.SameRuntime after.sessions

theorem SameRuntimes.of_eq {before : Store} (heq : after.sessions = before.sessions) :
    SameRuntimes before after := by
  rw [SameRuntimes, heq]
  exact Table.RelatedBy.refl Session.SameRuntime.refl before.sessions

theorem SameRuntimes.row_before {before : Store} (hsame : SameRuntimes before after)
    {next : Session} (hnext : after.sessions.find? pubkey = some next) :
    ∃ row, before.sessions.find? pubkey = some row ∧ row.SameRuntime next := by
  have hrelated := hsame pubkey
  rw [hnext] at hrelated
  generalize hrow : before.sessions.find? pubkey = found at hrelated
  cases hrelated with
  | some hR => exact ⟨_, rfl, hR⟩

theorem SameRuntimes.row_after {before : Store} (hsame : SameRuntimes before after)
    {row : Session} (hrow : before.sessions.find? pubkey = some row) :
    ∃ next, after.sessions.find? pubkey = some next ∧ row.SameRuntime next := by
  have hrelated := hsame pubkey
  rw [hrow] at hrelated
  generalize hnext : after.sessions.find? pubkey = found at hrelated
  cases hrelated with
  | some hR => exact ⟨_, rfl, hR⟩

/-- The session's own harness is the same. -/
theorem SameRuntimes.ownHarness {before : Store} (hsame : SameRuntimes before after)
    (pubkey harness : String) :
    after.sessions.Any (fun session => session.pubkey = pubkey ∧ session.observedHarness = harness) ↔
      before.sessions.Any (fun session =>
        session.pubkey = pubkey ∧ session.observedHarness = harness) := by
  have hkeyed : ∀ store : Store, store.sessions.Any (fun session =>
        session.pubkey = pubkey ∧ session.observedHarness = harness) ↔
      ∃ row, store.sessions.find? pubkey = some row ∧ row.observedHarness = harness :=
    fun store => Table.any_key_iff
  rw [hkeyed after, hkeyed before]
  constructor
  · rintro ⟨next, hnext, hharness⟩
    obtain ⟨row, hrow, hruntime⟩ := hsame.row_before hnext
    exact ⟨row, hrow, hruntime.observedHarness.symm.trans hharness⟩
  · rintro ⟨row, hrow, hharness⟩
    obtain ⟨next, hnext, hruntime⟩ := hsame.row_after hrow
    exact ⟨next, hnext, hruntime.observedHarness.trans hharness⟩

/-- The locator of a running session was its locator before, when the rows that were
deleted since are not the ones of its endpoint. -/
theorem runtimeLocatorForSession_before {before : Store}
    (hsame : SameRuntimes before after) {gone : SessionLocator → Prop} [DecidablePred gone]
    (hlocators : after.sessionLocators.rows =
      before.sessionLocators.rows.filter (fun row => decide (¬ gone row)))
    {locatorKind : String}
    (hkept : ∀ row, row.pubkey = pubkey ∧ row.runtimeGeneration = generation ∧
      row.locatorKind = locatorKind ∧ before.sessions.Any (fun session =>
        session.pubkey = pubkey ∧ session.observedHarness = row.harness) → ¬ gone row) :
    after.runtimeLocatorForSession pubkey generation locatorKind =
      before.runtimeLocatorForSession pubkey generation locatorKind := by
  have hselect : after.sessionLocators.select (fun row => row.pubkey = pubkey ∧
      row.runtimeGeneration = generation ∧ row.locatorKind = locatorKind ∧
      after.sessions.Any (fun session =>
        session.pubkey = pubkey ∧ session.observedHarness = row.harness)) =
      before.sessionLocators.select (fun row => row.pubkey = pubkey ∧
        row.runtimeGeneration = generation ∧ row.locatorKind = locatorKind ∧
        before.sessions.Any (fun session =>
          session.pubkey = pubkey ∧ session.observedHarness = row.harness)) := by
    simp only [Table.select, hlocators, List.filter_filter]
    refine List.filter_congr ?_
    intro row _
    have hown := hsame.ownHarness pubkey row.harness
    simp only [hown, ← Bool.decide_and, decide_eq_decide]
    constructor
    · rintro ⟨hmatch, _⟩
      exact hmatch
    · intro hmatch
      exact ⟨hmatch, hkept row hmatch⟩
  unfold runtimeLocatorForSession
  rw [hselect]

/-- A session that is hosted after an operation was hosted before, when its locator is
found as before. -/
theorem Hosts.before_of_locator {before : Store} (hsame : SameRuntimes before after)
    (hafter : after.Hosts pubkey generation kind endpointId)
    (hlocator : after.runtimeLocatorForSession pubkey generation kind.locatorKind =
      before.runtimeLocatorForSession pubkey generation kind.locatorKind) :
    before.Hosts pubkey generation kind endpointId := by
  obtain ⟨next, hnext, hrunning, rfl, hresolved⟩ := hafter
  have hkey : next.pubkey = pubkey := Table.key_of_find? hnext
  obtain ⟨row, hrow, hruntime⟩ := hsame.row_before hnext
  have hrowKey : row.pubkey = pubkey := Table.key_of_find? hrow
  obtain ⟨hparse, locator, hfound, hvalue⟩ := hostedEndpointFor_eq_resolved.mp hresolved
  rw [hkey, hlocator] at hfound
  refine ⟨row, hrow, hruntime.runtimeState.symm.trans hrunning,
    hruntime.runtimeGeneration.symm, ?_⟩
  refine hostedEndpointFor_eq_resolved.mpr
    ⟨(congrArg _ hruntime.admittedTransport).symm.trans hparse, locator, ?_, hvalue⟩
  rw [hrowKey, ← hruntime.runtimeGeneration]
  exact hfound

theorem Hosts.before {before : Store} (hsame : SameRuntimes before after)
    (hlocators : after.sessionLocators = before.sessionLocators)
    (hafter : after.Hosts pubkey generation kind endpointId) :
    before.Hosts pubkey generation kind endpointId := by
  refine hafter.before_of_locator hsame ?_
  have hkept : after.sessionLocators.rows =
      before.sessionLocators.rows.filter (fun _ => decide ¬ False) := by
    rw [hlocators]
    simp
  exact runtimeLocatorForSession_before hsame hkept (fun _ _ hgone => hgone)

/-! ## The operations of a scan -/

/-- An assignment that keeps the runtime columns. -/
theorem SameRuntimes.of_rewritten {before : Store} {applies : Session → Prop}
    {assign : Session → Session} (hrewritten : SessionsRewritten before after applies assign)
    (hassign : ∀ row : Session, row.SameRuntime (assign row)) : SameRuntimes before after := by
  intro k
  have hrelated := hrewritten k
  generalize hrow : before.sessions.find? k = row at hrelated
  generalize hnext : after.sessions.find? k = next at hrelated
  cases hrelated with
  | none => exact .none
  | some hkept =>
      rcases hkept with rfl | ⟨_, rfl⟩
      · exact .some (.refl _)
      · exact .some (hassign _)

theorem turnStarted_sameRuntimes (store : Store) (pubkey : String) (generation instant : Nat) :
    SameRuntimes store (store.step
      (.lifecycle (.applySessionTurnStarted pubkey generation instant))) :=
  commit_invariant (I := SameRuntimes store) (.of_eq rfl)
    (fun _ _ hok => .of_rewritten (updateSessions_ok hok) (fun _ => ⟨rfl, rfl, rfl, rfl⟩))

theorem turnEnded_sameRuntimes (store : Store) (pubkey : String) (generation instant : Nat) :
    SameRuntimes store (store.step
      (.lifecycle (.applySessionTurnEnded pubkey generation instant))) :=
  commit_invariant (I := SameRuntimes store) (.of_eq rfl)
    (fun _ _ hok => .of_rewritten (applySessionTurnEnded_ok hok) (fun _ => ⟨rfl, rfl, rfl, rfl⟩))

/-- An arrival may set the clock of its recipient, and the other inbox operations do
not touch the sessions. -/
theorem inboxStep_sameRuntimes (store : Store) (op : InboxOp) :
    SameRuntimes store (store.inboxStep op) := by
  rcases (inboxStep_same store op).2 with
    hsessions | ⟨eventId, targetPubkey, fromPubkey, channelH, body, createdAt, rfl⟩
  · exact .of_eq hsessions
  · exact commit_invariant (I := SameRuntimes store) (.of_eq rfl)
      (fun _ _ hok => .of_rewritten (enqueueInbox_ok hok) (fun _ => ⟨rfl, rfl, rfl, rfl⟩))

theorem touchIdleRunning_sameRuntimes (store : Store) (pubkey : String)
    (generation instant : Nat) :
    store.sessions.RelatedBy Session.SameRuntime
      (store.touchIdleRunning pubkey generation instant).sessions := by
  dsimp only [touchIdleRunning]
  exact Table.RelatedBy.updateWhere Session.SameRuntime.refl (fun _ _ _ => ⟨rfl, rfl, rfl, rfl⟩)

/-- The rows that a clearing deletes. -/
def clearedBy (store : Store) (pubkey locatorKind : String) (generation : Nat)
    (row : SessionLocator) : Prop :=
  row.pubkey = pubkey ∧ row.locatorKind = locatorKind ∧ row.runtimeGeneration = generation ∧
    store.sessions.Any (fun session =>
      session.pubkey = pubkey ∧ session.observedHarness = row.harness)

instance (store : Store) (pubkey locatorKind : String) (generation : Nat) :
    DecidablePred (store.clearedBy pubkey locatorKind generation) := fun _ =>
  inferInstanceAs (Decidable (_ ∧ _))

/-- A clearing deletes the locators of one generation, or it fails. -/
theorem clearRuntimeLocator_spec (store : Store) (pubkey locatorKind : String)
    (generation now : Nat) :
    let after := store.step
      (.locator (.clearRuntimeLocatorIfGeneration pubkey locatorKind generation now))
    SameRuntimes store after ∧ after.inbox = store.inbox ∧
      (after.sessionLocators = store.sessionLocators ∨
        after.sessionLocators =
          store.sessionLocators.deleteWhere (store.clearedBy pubkey locatorKind generation)) := by
  intro after
  refine commit_invariant (I := fun result : Store => SameRuntimes store result ∧
    result.inbox = store.inbox ∧ (result.sessionLocators = store.sessionLocators ∨
      result.sessionLocators =
        store.sessionLocators.deleteWhere (store.clearedBy pubkey locatorKind generation)))
    ⟨.of_eq rfl, rfl, Or.inl rfl⟩ ?_
  intro removed result hok
  simp only [clearRuntimeLocatorIfGeneration, bind_eq_ok] at hok
  obtain ⟨_, _, _, _, hok⟩ := hok
  split at hok
  · simp only [bind_eq_ok, pure_eq_ok, Prod.mk.injEq] at hok
    obtain ⟨_, _, _, rfl⟩ := hok
    exact ⟨touchIdleRunning_sameRuntimes _ pubkey generation now, rfl, Or.inr rfl⟩
  · simp only [pure_eq_ok, Prod.mk.injEq] at hok
    obtain ⟨_, rfl⟩ := hok
    exact ⟨.of_eq rfl, rfl, Or.inr rfl⟩

/-- A clearing makes no session reachable in another way. -/
theorem Hosts.before_clear {store : Store} {target locatorKind : String} {cleared now : Nat}
    (hafter : (store.step (.locator
      (.clearRuntimeLocatorIfGeneration target locatorKind cleared now))).Hosts pubkey generation
        kind endpointId) :
    store.Hosts pubkey generation kind endpointId := by
  obtain ⟨hsame, _, hlocators⟩ := clearRuntimeLocator_spec store target locatorKind cleared now
  rcases hlocators with hkept | hdeleted
  · exact hafter.before hsame hkept
  · refine hafter.before_of_locator hsame ?_
    have hfiltered : (store.step (.locator (.clearRuntimeLocatorIfGeneration target locatorKind
        cleared now))).sessionLocators.rows = store.sessionLocators.rows.filter
          (fun row => decide (¬ store.clearedBy target locatorKind cleared row)) := by
      rw [hdeleted]
      rfl
    refine runtimeLocatorForSession_before hsame hfiltered ?_
    rintro row ⟨hpubkey, hgeneration, hkind, hown⟩ ⟨htarget, hclearedKind, hclearedRun, _⟩
    -- every locator of the generation is gone, so the session has none afterwards
    obtain ⟨next, hnext, _, hrun, hresolved⟩ := hafter
    have hkey : next.pubkey = pubkey := Table.key_of_find? hnext
    obtain ⟨_, locator, hfound, _⟩ := hostedEndpointFor_eq_resolved.mp hresolved
    simp only [runtimeLocatorForSession, bind_eq_ok, pure_eq_ok] at hfound
    obtain ⟨_, _, _, _, hhead⟩ := hfound
    have hmem := List.mem_of_mem_head? (Option.mem_def.mpr hhead)
    rw [Table.mem_select] at hmem
    obtain ⟨hrow, hlocatorPubkey, hlocatorRun, hlocatorKind, hlocatorOwn⟩ := hmem
    rw [hdeleted] at hrow
    have hnot := (List.mem_filter.mp hrow).2
    have hhave : store.clearedBy target locatorKind cleared locator := by
      have htargetIs : target = pubkey := htarget.symm.trans hpubkey
      refine ⟨?_, ?_, ?_, ?_⟩
      · rw [hlocatorPubkey, hkey, htargetIs]
      · rw [hlocatorKind, ← hkind, hclearedKind]
      · rw [hlocatorRun, hrun, ← hgeneration, hclearedRun]
      · rw [htargetIs, ← hsame.ownHarness pubkey locator.harness, ← hkey]
        exact hlocatorOwn
    simp [hhave] at hnot

end Store

end Mosaico
