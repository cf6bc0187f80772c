import Mosaico.Recovery.Readiness
import Mosaico.Runtime.Lookups

/-!
# Locators and generations

`LookupsFenced` says of one state that every answer given by a runtime locator
is backed by a locator row of the generation that the answered session is in.
The lookups that join row and session guarantee it in every state; for the two
that look a process id up it is a property of the rows, and the run theorems say
which steps destroy that property.
-/

namespace Mosaico

open Relational Transition

/-! ## Rows that serve the current generation -/

/-- The row records the id of a watched process. -/
def SessionLocator.IsPid (row : SessionLocator) : Prop :=
  row.locatorKind = locatorPid ∧ ∃ pid : Int32, row.locatorValue = toString pid

/-- What an answer has to satisfy next to the generation: nothing, or that its
generation has not ended. -/
def Session.NotEnded (session : Session) : Prop :=
  session.runtimeState ≠ .stopped

namespace Store

/-- The row is durable, or its session is in the recorded generation and satisfies
`P`. -/
def Serves (store : Store) (P : Session → Prop) (row : SessionLocator) : Prop :=
  row.runtimeGeneration = 0 ∨
    ∃ session, store.getSession row.pubkey = some session ∧
      row.runtimeGeneration = session.runtimeGeneration ∧ P session

/-- A row that was given leads to `pubkey` and serves `P`. -/
def AnchoredBy (store : Store) (P : Session → Prop) (given : SessionLocator → Prop)
    (pubkey : String) : Prop :=
  ∃ row ∈ store.sessionLocators.rows, given row ∧ row.pubkey = pubkey ∧ store.Serves P row

theorem AnchoredBy.imp {store : Store} {P : Session → Prop}
    {given wider : SessionLocator → Prop} {pubkey : String}
    (hanchored : store.AnchoredBy P given pubkey) (hwider : ∀ row, given row → wider row) :
    store.AnchoredBy P wider pubkey := by
  obtain ⟨row, hmem, hgiven, hpubkey, hserves⟩ := hanchored
  exact ⟨row, hmem, hwider row hgiven, hpubkey, hserves⟩

/-- Every locator row of a process id serves `P`. -/
def PidLocatorsServe (store : Store) (P : Session → Prop) : Prop :=
  ∀ row ∈ store.sessionLocators.rows, row.IsPid → store.Serves P row

end Store

/-! ## The fenced lookups -/

/-- The row has this kind and value. -/
def SessionLocator.At (locatorKind locatorValue : String) (row : SessionLocator) : Prop :=
  row.locatorKind = locatorKind ∧ row.locatorValue = locatorValue

/-- The caller gives this locator. -/
def CallerAnchor.Gives (anchor : CallerAnchor) (row : SessionLocator) : Prop :=
  (∃ endpoint, anchor.ptySession = some endpoint ∧ row.At locatorPty endpoint) ∨
    ∃ harness, anchor.harness = some harness ∧ row.harness = (Harness.fromStr harness).asStr ∧
      ((∃ native, anchor.harnessSession = some native ∧ row.At locatorNativeResume native) ∨
        ∃ pid, anchor.watchPid = some pid ∧ row.At locatorPid (toString pid))

/-- The starting process gives this runtime locator. -/
def SessionStartParams.GivesRuntime (params : SessionStartParams) (harness : String)
    (row : SessionLocator) : Prop :=
  (∃ kind endpoint, params.endpointKind = some kind ∧ params.ptySession = some endpoint ∧
      row.At kind.locatorKind endpoint) ∨
    (row.harness = harness ∧
      ∃ pid, params.watchPid = some pid ∧ row.At locatorPid (toString pid))

/-- The starting process names the pubkey by a native session of its harness. -/
def Store.ResumedBy (store : Store) (params : SessionStartParams) (harness pubkey : String) :
    Prop :=
  ∃ row ∈ store.sessionLocators.rows, row.harness = harness ∧
    row.locatorKind = locatorNativeResume ∧ row.pubkey = pubkey ∧
    (params.resumeId = some row.locatorValue ∨ params.harnessSession = some row.locatorValue)

/-- No lookup by a runtime locator crosses a generation: what it answers is in the
generation of the locator row, and satisfies `P` where it decides an identity or a
stop. -/
structure Database.LookupsFenced (db : Database) (names : PublicNames) (P : Session → Prop) :
    Prop where
  caller : ∀ anchor session, nonEmpty anchor.explicit = none →
    db.store.resolveSessionInner names anchor = .ok session →
    db.store.AnchoredBy P anchor.Gives session.pubkey
  start : ∀ params harness pubkey, nonEmpty params.pubkey = none →
    db.store.resolveExistingPubkey names params harness = .ok (some pubkey) →
    db.store.ResumedBy params harness pubkey ∨
      db.store.AnchoredBy P (params.GivesRuntime harness) pubkey
  retirement : ∀ newPubkey agentSlug harness pid newWorkRoot old,
    db.conflictingPidRuntime newPubkey agentSlug harness (some pid) newWorkRoot =
      .ok (some old) →
    db.store.AnchoredBy P
      (fun row => row.harness = harness ∧ row.At locatorPid (toString pid)) old.pubkey
  report : ∀ locatorKind locatorValue session,
    db.store.sessionForRuntimeLocator locatorKind locatorValue = .ok (some session) →
    db.store.AnchoredBy (fun _ => True) (SessionLocator.At locatorKind locatorValue)
      session.pubkey

namespace Store

theorem mem_of_newestLocator {rows : List SessionLocator} {row : SessionLocator}
    (hrow : newestLocator rows = some row) : row ∈ rows := by
  have hmem := List.mem_of_mem_head? hrow
  exact List.mem_insertionSort _ |>.mp hmem

variable {store : Store} {session : Session} {P : Session → Prop}

/-- The joined lookup answers with a running session in the generation of a row
that matches. -/
theorem runningSessionForLocator_ok {harness : Option String} {locatorKind locatorValue : String}
    (hP : ∀ session : Session, session.runtimeState = .running → P session)
    (hok : store.runningSessionForLocator harness locatorKind locatorValue =
      .ok (some session)) :
    store.AnchoredBy P (fun row => row.At locatorKind locatorValue ∧
      ∀ name, harness = some name → row.harness = name) session.pubkey := by
  simp only [runningSessionForLocator, bind_eq_ok, pure_eq_ok, Option.bind_eq_some_iff] at hok
  obtain ⟨_, _, row, hrow, hsession⟩ := hok
  have hselected : row ∈ store.sessionLocators.rows ∧ (row.At locatorKind locatorValue ∧
      ∀ name, harness = some name → row.harness = name) ∧ store.reachesRunning row := by
    split at hrow
    · obtain ⟨hmem, hharness, hkind, hvalue, hreaches⟩ :=
        Table.mem_select.mp (List.mem_of_mem_head? hrow)
      refine ⟨hmem, ⟨⟨hkind, hvalue⟩, ?_⟩, hreaches⟩
      rintro name ⟨rfl⟩
      exact hharness
    · obtain ⟨hmem, hkind, hvalue, hreaches⟩ := Table.mem_select.mp (mem_of_newestLocator hrow)
      refine ⟨hmem, ⟨⟨hkind, hvalue⟩, ?_⟩, hreaches⟩
      rintro name ⟨⟩
  obtain ⟨hmem, hgiven, hreaches⟩ := hselected
  have hpubkey : session.pubkey = row.pubkey := Table.key_of_find? hsession
  obtain ⟨running, hfind, hrunning, hrecorded⟩ := Table.any_key_iff.mp hreaches
  refine ⟨row, hmem, hgiven, hpubkey.symm, ?_⟩
  rcases hrecorded with hdurable | hcurrent
  · exact Or.inl hdurable
  · exact Or.inr ⟨running, hfind, hcurrent, hP running hrunning⟩

theorem sessionForRuntimeLocator_ok {locatorKind locatorValue : String}
    (hok : store.sessionForRuntimeLocator locatorKind locatorValue = .ok (some session)) :
    store.AnchoredBy (fun _ => True) (SessionLocator.At locatorKind locatorValue)
      session.pubkey := by
  simp only [sessionForRuntimeLocator, bind_eq_ok] at hok
  obtain ⟨_, _, hok⟩ := hok
  split at hok
  · cases hok
  · rename_i row hrow
    obtain ⟨hmem, hkind, hvalue, _⟩ := Table.mem_select.mp (mem_of_newestLocator hrow)
    simp only [pure_eq_ok, Option.filter_eq_some_iff, decide_eq_true_eq] at hok
    obtain ⟨hsession, hcurrent⟩ := hok
    have hpubkey : session.pubkey = row.pubkey := Table.key_of_find? hsession
    exact ⟨row, hmem, ⟨hkind, hvalue⟩, hpubkey.symm,
      Or.inr ⟨session, hsession, hcurrent.symm, trivial⟩⟩

theorem nonEmpty_eq_some {value : Option String} {text : String} :
    nonEmpty value = some text ↔ value = some text ∧ text ≠ "" := by
  simp [nonEmpty, Option.filter_eq_some_iff]

theorem answered_eq_some {outcome : Except StoreError (Option Session)} :
    answered outcome = some session ↔ outcome = .ok (some session) := by
  cases outcome with
  | error error => simp [answered, Except.toOption]
  | ok found => cases found <;> simp [answered, Except.toOption]

/-- A caller is anchored by one of the locators it gives. -/
theorem anchoredSession_sound {anchor : CallerAnchor}
    (hP : ∀ session : Session, session.runtimeState = .running → P session)
    (hsession : store.anchoredSession anchor = some session) :
    store.AnchoredBy P anchor.Gives session.pubkey := by
  simp only [anchoredSession, Option.or_eq_some_iff, Option.bind_eq_some_iff,
    nonEmpty_eq_some, answered_eq_some] at hsession
  rcases hsession with (⟨endpoint, hendpoint, hok⟩ |
    ⟨_, native, hnative, harness, hharness, hok⟩) | ⟨_, pid, hpid, harness, hharness, hok⟩
  · apply (runningSessionForLocator_ok hP hok).imp
    intro row hrow
    exact Or.inl ⟨endpoint, hendpoint.1, hrow.1⟩
  · apply (runningSessionForLocator_ok hP hok).imp
    intro row hrow
    exact Or.inr ⟨harness, hharness.1, hrow.2 _ rfl, Or.inl ⟨native, hnative.1, hrow.1⟩⟩
  · apply (runningSessionForLocator_ok hP hok).imp
    intro row hrow
    exact Or.inr ⟨harness, hharness, hrow.2 _ rfl, Or.inr ⟨pid, hpid, hrow.1⟩⟩

/-! ## The lookup of a process id -/

/-- The text of a process id is not empty. -/
theorem toString_pid_ne_empty (pid : Int32) : toString pid ≠ "" := by
  show pid.toInt.repr ≠ ""
  cases pid.toInt with
  | ofNat magnitude => exact Nat.repr_ne_empty
  | negSucc magnitude =>
      show "-" ++ Nat.repr (magnitude + 1) ≠ ""
      intro hempty
      have hchars := congrArg String.toList hempty
      simp at hchars

theorem lookupPubkey_ok {harness locatorKind pubkey : String} {value : Option String}
    (hok : store.lookupPubkey harness locatorKind value = .ok (some pubkey)) :
    ∃ row ∈ store.sessionLocators.rows, row.harness = harness ∧
      row.locatorKind = locatorKind ∧ value = some row.locatorValue ∧ row.pubkey = pubkey := by
  unfold lookupPubkey at hok
  split at hok
  · cases hok
  · rename_i text hvalue
    simp only [mapError_eq_ok, resolvePubkeyByLocator, bind_eq_ok, pure_eq_ok,
      Option.map_eq_some_iff] at hok
    obtain ⟨_, _, row, hfind, hpubkey⟩ := hok
    have hkey := Table.key_of_find? hfind
    simp only [SessionLocator.key, Prod.mk.injEq] at hkey
    obtain ⟨hharness, hkind, hlocator⟩ := hkey
    refine ⟨row, Table.mem_of_find? hfind, hharness, hkind, ?_, hpubkey⟩
    rw [hlocator]
    exact (nonEmpty_eq_some.mp hvalue).1

theorem endpointPubkey_ok {params : SessionStartParams} {pubkey : String}
    (hP : ∀ session : Session, session.runtimeState = .running → P session)
    (hok : store.endpointPubkey params = .ok (some pubkey)) (harness : String) :
    store.AnchoredBy P (params.GivesRuntime harness) pubkey := by
  simp only [endpointPubkey, bind_eq_ok] at hok
  obtain ⟨endpoint, hendpoint, hok⟩ := hok
  split at hok
  · cases hok
  · rename_i locatorValue kind
    simp only [bind_eq_ok, mapError_eq_ok, pure_eq_ok, Option.map_eq_some_iff] at hok
    obtain ⟨_, hrunning, session, rfl, rfl⟩ := hok
    unfold SessionStartParams.hostedEndpoint at hendpoint
    split at hendpoint
    · rename_i hgiven hkind
      cases hendpoint
      apply (runningSessionForLocator_ok hP hrunning).imp
      intro row hrow
      exact Or.inl ⟨kind, locatorValue, hkind, (nonEmpty_eq_some.mp hgiven).1, hrow.1⟩
    · cases hendpoint
    · cases hendpoint
    · cases hendpoint

/-- A starting process takes over an identity it resumes, or one behind a runtime
locator it gives. -/
theorem resolveExistingPubkey_sound {names : PublicNames}
    {params : SessionStartParams} {harness pubkey : String}
    (hP : ∀ session : Session, session.runtimeState = .running → P session)
    (hserve : store.PidLocatorsServe P) (hexplicit : nonEmpty params.pubkey = none)
    (hok : store.resolveExistingPubkey names params harness = .ok (some pubkey)) :
    store.ResumedBy params harness pubkey ∨
      store.AnchoredBy P (params.GivesRuntime harness) pubkey := by
  unfold resolveExistingPubkey at hok
  rw [hexplicit] at hok
  simp only [bind_eq_ok] at hok
  obtain ⟨endpoint, hendpoint, resumed, hresumed, native, hnative, hok⟩ := hok
  split at hok
  · simp only [pure_eq_ok, Option.or_eq_some_iff] at hok
    rcases hok with (rfl | ⟨_, rfl⟩) | ⟨_, rfl⟩
    · exact Or.inr (endpointPubkey_ok hP hendpoint harness)
    · obtain ⟨row, hmem, hharness, hkind, hvalue, hpubkey⟩ := lookupPubkey_ok hresumed
      exact Or.inl ⟨row, hmem, hharness, hkind, hpubkey, Or.inl hvalue⟩
    · obtain ⟨row, hmem, hharness, hkind, hvalue, hpubkey⟩ := lookupPubkey_ok hnative
      exact Or.inl ⟨row, hmem, hharness, hkind, hpubkey, Or.inr hvalue⟩
  · obtain ⟨row, hmem, hharness, hkind, hvalue, hpubkey⟩ := lookupPubkey_ok hok
    obtain ⟨pid, hpid, htext⟩ := Option.map_eq_some_iff.mp hvalue
    exact Or.inr ⟨row, hmem, Or.inr ⟨hharness, pid, hpid, hkind, htext.symm⟩, hpubkey,
      hserve row hmem ⟨hkind, pid, htext.symm⟩⟩

/-- A bare process id resolves to the pubkey of its row, whatever the row records. -/
theorem resolveExistingPubkey_pid (store : Store) (names : PublicNames) {row : SessionLocator}
    (hmem : row ∈ store.sessionLocators.rows) {pid : Int32} (hkind : row.locatorKind = locatorPid)
    (hvalue : row.locatorValue = toString pid) :
    store.resolveExistingPubkey names ⟨none, none, some pid, none, none, none⟩ row.harness =
      .ok (some row.pubkey) := by
  have hfind : store.sessionLocators.find? (row.harness, locatorPid, toString pid) = some row :=
    Table.find?_eq_some_iff.mpr ⟨hmem, by rw [SessionLocator.key, hkind, hvalue]⟩
  have htext : nonEmpty (some (toString pid)) = some (toString pid) :=
    nonEmpty_eq_some.mpr ⟨rfl, toString_pid_ne_empty pid⟩
  have hlookup : store.lookupPubkey row.harness locatorPid (some (toString pid)) =
      .ok (some row.pubkey) := by
    unfold lookupPubkey
    rw [htext]
    dsimp only
    rw [mapError_eq_ok, resolvePubkeyByLocator, hfind]
    rfl
  exact hlookup

end Store

namespace Database

/-- The retired session is the one behind the locator row of the process id. -/
theorem conflictingPidRuntime_sound {db : Database}
    {newPubkey agentSlug harness newWorkRoot : String} {pid : Int32} {old : Session}
    {P : Session → Prop} (hserve : db.store.PidLocatorsServe P)
    (hok : db.conflictingPidRuntime newPubkey agentSlug harness (some pid) newWorkRoot =
      .ok (some old)) :
    db.store.AnchoredBy P
      (fun row => row.harness = harness ∧ row.At locatorPid (toString pid)) old.pubkey := by
  simp only [conflictingPidRuntime, bind_eq_ok, mapError_eq_ok] at hok
  obtain ⟨holder, hholder, hok⟩ := hok
  have hlookup : db.store.lookupPubkey harness locatorPid (some (toString pid)) = .ok holder := by
    unfold Store.lookupPubkey
    rw [Store.nonEmpty_eq_some.mpr ⟨rfl, Store.toString_pid_ne_empty pid⟩]
    exact mapError_eq_ok.mpr hholder
  split at hok
  · cases hok
  · rename_i oldPubkey
    obtain ⟨row, hmem, hharness, hkind, hvalue, hpubkey⟩ := Store.lookupPubkey_ok hlookup
    have hpid : row.locatorValue = toString pid := (Option.some.inj hvalue).symm
    have hserves : db.store.Serves P row := hserve row hmem ⟨hkind, pid, hpid⟩
    split at hok
    · cases hok
    · split at hok
      · cases hok
      · rename_i session hsession
        have hold : session.pubkey = oldPubkey := Table.key_of_find? hsession
        split at hok
        · cases hok
        · simp only [bind_eq_ok] at hok
          obtain ⟨_, _, hok⟩ := hok
          split at hok
          · cases hok
            exact ⟨row, hmem, ⟨hharness, hkind, hpid⟩, hpubkey.trans hold.symm, hserves⟩
          · cases hok

/-- In one state, the lookups are fenced exactly when the rows of process ids are
current. -/
theorem lookupsFenced_iff {db : Database} {names : PublicNames} {P : Session → Prop}
    (hP : ∀ session : Session, session.runtimeState = .running → P session) :
    db.LookupsFenced names P ↔ db.store.PidLocatorsServe P := by
  constructor
  · intro hfenced row hmem hpid
    obtain ⟨hkind, pid, hvalue⟩ := hpid
    have hok := db.store.resolveExistingPubkey_pid names hmem hkind hvalue
    rcases hfenced.start _ _ _ rfl hok with hresumed | hanchored
    · obtain ⟨_, _, _, _, _, hgiven | hgiven⟩ := hresumed
      · cases hgiven
      · cases hgiven
    · obtain ⟨other, hother, hgiven, _, hserves⟩ := hanchored
      rcases hgiven with ⟨_, _, hkind, _⟩ | ⟨hharness, number, hnumber, hotherKind, hotherValue⟩
      · cases hkind
      · cases hnumber
        -- the lookup is by the whole key, so the row it answered from is this one
        have hkey : other.key = row.key := by
          simp only [SessionLocator.key, hharness, hotherKind, hotherValue, hkind, hvalue]
        have hfind : some other = some row :=
          (Table.mem_rows_iff.mp hother).symm.trans (hkey ▸ Table.mem_rows_iff.mp hmem)
        cases hfind
        exact hserves
  · intro hserve
    refine ⟨?_, ?_, ?_, ?_⟩
    · intro anchor session hexplicit hok
      unfold Store.resolveSessionInner at hok
      rw [hexplicit] at hok
      dsimp only at hok
      split at hok
      · rename_i found hfound
        cases hok
        exact Store.anchoredSession_sound hP hfound
      · cases hok
    · intro params harness pubkey hexplicit hok
      exact Store.resolveExistingPubkey_sound hP hserve hexplicit hok
    · intro newPubkey agentSlug harness pid newWorkRoot old hok
      exact conflictingPidRuntime_sound hserve hok
    · intro locatorKind locatorValue session hok
      exact Store.sessionForRuntimeLocator_ok hok

end Database

end Mosaico
