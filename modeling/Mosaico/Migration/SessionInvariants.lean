import Mosaico.Migration.Steps
import Mosaico.Runtime.Lookups

/-!
# What the upgrade leaves in the session rows

The current code changes the columns of a session row together: a session that stops is idle
and has no turn, a turn that begins stamps its start, and a runtime that registers an endpoint
writes its own generation, which is positive, beside it.  The step from schema 9 maps each of
the old columns on its own.

The upgrade is one assignment to the session rows and one to the locator rows that stay, so
the invariants of the current schema are conditions on single rows of schema 9, but for the
lookup of an endpoint, which compares the locators that share a kind and a value.
-/

namespace Mosaico

open Relational Transition

namespace Schema

variable {ρ : Type} {pubkey : ρ → String} {catalogue : Catalogue}

/-! ## What each step does to sessions and locators -/

theorem v10ToV11_ok {db next : Schema SessionV10.pubkey} (hok : db.v10ToV11 = .ok next) :
    next.sessions = db.sessions ∧ next.sessionLocators = db.sessionLocators := by
  simp only [v10ToV11, bind_eq_ok, pure_eq_ok] at hok
  obtain ⟨_, _, _, _, rfl⟩ := hok
  exact ⟨rfl, rfl⟩

theorem v11ToV12_ok {db next : Schema SessionV10.pubkey} (hok : db.v11ToV12 = .ok next) :
    next.sessions = db.sessions ∧ next.sessionLocators = db.sessionLocators := by
  cases hok
  exact ⟨rfl, rfl⟩

theorem v12ToV13_ok {db : Schema SessionV10.pubkey} {next : Schema SessionV13.key}
    (hok : db.v12ToV13 = .ok next) :
    next.sessions.rows = db.sessions.rows.map addStateChangedAt ∧
      next.sessionLocators = db.sessionLocators := by
  simp only [v12ToV13, bind_eq_ok, pure_eq_ok] at hok
  obtain ⟨_, _, rfl⟩ := hok
  exact ⟨rfl, rfl⟩

theorem v13ToV14_ok {db next : Schema SessionV13.key} (hok : db.v13ToV14 = .ok next) :
    next.sessions = db.sessions ∧ next.sessionLocators = db.sessionLocators := by
  simp only [v13ToV14, bind_eq_ok, pure_eq_ok] at hok
  obtain ⟨_, _, rfl⟩ := hok
  exact ⟨rfl, rfl⟩

theorem v14ToV15_ok {db : Schema SessionV13.key} {next : Schema SessionV15.key}
    (hok : db.v14ToV15 = .ok next) :
    next.sessions.rows = db.sessions.rows.map addBusySeconds ∧
      next.sessionLocators = db.sessionLocators := by
  simp only [v14ToV15, bind_eq_ok, pure_eq_ok] at hok
  obtain ⟨_, _, _, _, rfl⟩ := hok
  exact ⟨rfl, rfl⟩

theorem v15ToV16_ok {db : Schema SessionV15.key} {next : Schema Session.pubkey}
    (hok : db.v15ToV16 = .ok next) :
    next.sessions.rows = db.sessions.rows.map dropChatAndTranscript ∧
      next.sessionLocators = db.sessionLocators := by
  simp only [v15ToV16, bind_eq_ok, pure_eq_ok] at hok
  obtain ⟨_, _, _, _, _, _, rfl⟩ := hok
  exact ⟨rfl, rfl⟩

theorem v16ToV17_ok {db next : Schema Session.pubkey} (hok : db.v16ToV17 = .ok next) :
    next.sessions = db.sessions ∧ next.sessionLocators = db.sessionLocators := by
  simp only [v16ToV17, bind_eq_ok, pure_eq_ok] at hok
  obtain ⟨_, _, rfl⟩ := hok
  exact ⟨rfl, rfl⟩

end Schema

namespace Schema9

theorem v9ToV10_ok {old : Schema9} {next : Schema SessionV10.pubkey}
    (hok : old.v9ToV10 = .ok next) :
    next.sessions = old.migratedSessions ∧ next.sessionLocators = old.migratedLocators := by
  simp only [v9ToV10, bind_eq_ok, pure_eq_ok] at hok
  obtain ⟨_, _, _, _, _, _, rfl⟩ := hok
  exact ⟨rfl, rfl⟩

/-- The row of the current schema that a row of schema 9 becomes. -/
def upgraded (old : Schema9) (row : SessionV9) : Session :=
  Schema.dropChatAndTranscript (Schema.addBusySeconds (Schema.addStateChangedAt
    (row.migrated (decide (old.hasNativeResume row.pubkey)))))

/-- The row of the current schema that a locator of schema 9 becomes, if it stays. -/
def upgradedLocator (old : Schema9) (row : SessionLocatorV9) : SessionLocator :=
  { row.migrated with
    runtimeGeneration :=
      if isEndpointKind row.locatorKind = true then old.generationOf row.pubkey else 0 }

/-- The locators of schema 9 that stay: of the endpoints of one kind that a pubkey has with a
harness, the last. -/
def lastLocators (old : Schema9) : List SessionLocatorV9 :=
  lastOfGroups (fun row => isEndpointKind row.locatorKind = true)
    (fun row => (row.pubkey, row.harness, row.locatorKind)) old.sessionLocators.rows

variable {old : Schema9} {store : Store} {row : SessionV9} {locator : SessionLocatorV9}

theorem find?_migratedSessions (pubkey : String) :
    old.migratedSessions.find? pubkey = (old.sessions.find? pubkey).map
      (fun row => row.migrated (decide (old.hasNativeResume row.pubkey))) :=
  Table.find?_copy _ _ _ _

theorem generationOf_migrated (pubkey : String) :
    ((old.migratedSessions.find? pubkey).map SessionV10.runtimeGeneration).getD 0 =
      old.generationOf pubkey := by
  rw [find?_migratedSessions, Option.map_map]
  rfl

theorem migratedLocators_rows :
    old.migratedLocators.rows = old.lastLocators.map old.upgradedLocator := by
  have hwritten : ∀ row : SessionLocatorV9,
      (if isEndpointKind row.migrated.locatorKind = true then
        { row.migrated with
          runtimeGeneration :=
            ((old.migratedSessions.find? row.migrated.pubkey).map
              SessionV10.runtimeGeneration).getD 0 }
      else row.migrated) = old.upgradedLocator row := by
    intro row
    rw [generationOf_migrated]
    show (if isEndpointKind row.locatorKind = true then _ else _) = _
    rw [upgradedLocator]
    split_ifs
    · rfl
    · rfl
  have hlast : lastOfGroups (fun row : SessionLocator => isEndpointKind row.locatorKind = true)
      SessionLocator.endpointGroup (old.sessionLocators.rows.map old.upgradedLocator) =
        old.lastLocators.map old.upgradedLocator :=
    lastOfGroups_map old.upgradedLocator (fun _ => Iff.rfl) (fun _ => rfl)
  rw [← hlast]
  show lastOfGroups _ _ ((old.sessionLocators.rows.map _).map _) = _
  rw [List.map_map]
  exact congrArg _ (List.map_congr_left (fun row _ => hwritten row))

/-- The upgrade rewrites the session rows one by one and the locator rows that stay one by
one. -/
theorem upgrade_ok (hok : old.upgrade = .ok store) :
    store.sessions.rows = old.sessions.rows.map old.upgraded ∧
      store.sessionLocators.rows = old.lastLocators.map old.upgradedLocator := by
  simp only [upgrade, bind_eq_ok, pure_eq_ok] at hok
  obtain ⟨_, h10, _, h11, _, h12, _, h13, _, h14, _, h15, _, h16, _, h17, rfl⟩ := hok
  constructor
  · show Table.rows (Schema.sessions _) = _
    rw [(Schema.v16ToV17_ok h17).1, (Schema.v15ToV16_ok h16).1, (Schema.v14ToV15_ok h15).1,
      (Schema.v13ToV14_ok h14).1, (Schema.v12ToV13_ok h13).1, (Schema.v11ToV12_ok h12).1,
      (Schema.v10ToV11_ok h11).1, (v9ToV10_ok h10).1]
    simp only [migratedSessions, Table.copy, List.map_map]
    rfl
  · show Table.rows (Schema.sessionLocators _) = _
    rw [(Schema.v16ToV17_ok h17).2, (Schema.v15ToV16_ok h16).2, (Schema.v14ToV15_ok h15).2,
      (Schema.v13ToV14_ok h14).2, (Schema.v12ToV13_ok h13).2, (Schema.v11ToV12_ok h12).2,
      (Schema.v10ToV11_ok h11).2, (v9ToV10_ok h10).2, migratedLocators_rows]

/-! ## What a lookup sees after the upgrade -/

theorem mem_sessions (hok : old.upgrade = .ok store) {session : Session} :
    session ∈ store.sessions.rows ↔ ∃ row ∈ old.sessions.rows, old.upgraded row = session := by
  rw [(upgrade_ok hok).1, List.mem_map]

theorem mem_sessionLocators (hok : old.upgrade = .ok store) {found : SessionLocator} :
    found ∈ store.sessionLocators.rows ↔
      ∃ locator ∈ old.lastLocators, old.upgradedLocator locator = found := by
  rw [(upgrade_ok hok).2, List.mem_map]

theorem getSession_upgrade (hok : old.upgrade = .ok store) (pubkey : String) :
    store.getSession pubkey = (old.sessions.find? pubkey).map old.upgraded := by
  have hkey : ∀ row : SessionV9, (old.upgraded row).pubkey = row.pubkey := fun _ => rfl
  have hcopy : store.sessions = old.sessions.copy old.upgraded hkey :=
    Table.ext (upgrade_ok hok).1
  show store.sessions.find? pubkey = _
  rw [hcopy, Table.find?_copy]

theorem generationOf_eq (hrow : row ∈ old.sessions.rows) :
    old.generationOf row.pubkey = row.runtimeGeneration := by
  rw [generationOf, Table.mem_rows_iff.mp hrow]
  rfl

theorem upgradedLocator_generation (hkind : isEndpointKind locator.locatorKind = true) :
    (old.upgradedLocator locator).runtimeGeneration = old.generationOf locator.pubkey :=
  if_pos hkind

theorem isEndpointKind_nativeResume : isEndpointKind locatorNativeResume = false := by
  decide

/-- The native resume locators all stay. -/
theorem hasNativeResume_upgrade (hok : old.upgrade = .ok store) (pubkey : String) :
    store.hasNativeResume pubkey ↔ old.hasNativeResume pubkey := by
  constructor
  · rintro ⟨found, hmem, hpubkey, hkind⟩
    obtain ⟨locator, hlocator, rfl⟩ := (mem_sessionLocators hok).mp hmem
    exact ⟨locator, lastOfGroups_sublist.subset hlocator, hpubkey, hkind⟩
  · rintro ⟨locator, hmem, hpubkey, hkind⟩
    have hstays : locator ∈ old.lastLocators := by
      apply mem_lastOfGroups_of_not hmem
      rw [hkind, isEndpointKind_nativeResume]
      exact Bool.false_ne_true
    exact ⟨old.upgradedLocator locator, (mem_sessionLocators hok).mpr ⟨locator, hstays, rfl⟩,
      hpubkey, hkind⟩

/-- The endpoints with this kind and value that stay and receive a positive generation. -/
def contenders (old : Schema9) (locatorKind locatorValue : String) : List SessionLocatorV9 :=
  old.lastLocators.filter (fun row => row.locatorKind = locatorKind ∧
    row.locatorValue = locatorValue ∧ 0 < old.generationOf row.pubkey)

/-- The newest of them. -/
def newestContender (old : Schema9) (locatorKind locatorValue : String) :
    Option SessionLocatorV9 :=
  ((old.contenders locatorKind locatorValue).insertionSort
    (fun left right => right.createdAt ≤ left.createdAt)).head?

theorem newestLocator_upgrade (hok : old.upgrade = .ok store) {locatorKind : String}
    (hkind : isEndpointKind locatorKind = true) (locatorValue : String) :
    Store.newestLocator (store.sessionLocators.select (fun row =>
        row.locatorKind = locatorKind ∧ row.locatorValue = locatorValue ∧
        0 < row.runtimeGeneration)) =
      (old.newestContender locatorKind locatorValue).map old.upgradedLocator := by
  have hselect : store.sessionLocators.select (fun row => row.locatorKind = locatorKind ∧
      row.locatorValue = locatorValue ∧ 0 < row.runtimeGeneration) =
        (old.contenders locatorKind locatorValue).map old.upgradedLocator := by
    rw [Table.select, (upgrade_ok hok).2, List.filter_map, contenders]
    congr 1
    apply List.filter_congr
    intro row _
    rw [Function.comp_apply, decide_eq_decide]
    apply and_congr_right
    rintro rfl
    rw [upgradedLocator_generation hkind]
    exact Iff.rfl
  have hsorted : (((old.contenders locatorKind locatorValue).map
      old.upgradedLocator).insertionSort (fun left right => right.createdAt ≤ left.createdAt)) =
        ((old.contenders locatorKind locatorValue).insertionSort
          (fun left right => right.createdAt ≤ left.createdAt)).map old.upgradedLocator :=
    (List.map_insertionSort _ _ old.upgradedLocator _ (fun _ _ _ _ => Iff.rfl)).symm
  rw [hselect, Store.newestLocator, hsorted, List.head?_map]
  rfl

/-- The lookup answers with the session that owns the newest contender. -/
theorem sessionForRuntimeLocator_upgrade (hok : old.upgrade = .ok store) {locatorKind : String}
    (hkind : isEndpointKind locatorKind = true) (locatorValue : String) :
    store.sessionForRuntimeLocator locatorKind locatorValue =
      .ok ((old.newestContender locatorKind locatorValue).bind
        (fun found => (old.sessions.find? found.pubkey).map old.upgraded)) := by
  have hvalid : validateLocatorKind locatorKind = .ok () := by
    rw [validateLocatorKind, ensure_eq_ok]
    exact List.mem_cons_of_mem _ (of_decide_eq_true hkind)
  simp only [Store.sessionForRuntimeLocator, hvalid, newestLocator_upgrade hok hkind]
  cases hfound : old.newestContender locatorKind locatorValue with
  | none => rfl
  | some found =>
      have hcontends : found ∈ old.contenders locatorKind locatorValue :=
        (List.mem_insertionSort _).mp (List.mem_of_mem_head? hfound)
      obtain ⟨hkept, hsame⟩ := List.mem_filter.mp hcontends
      have hfoundKind : isEndpointKind found.locatorKind = true := by
        rw [(of_decide_eq_true hsame).1]
        exact hkind
      show Except.ok (Option.filter _ (store.getSession found.pubkey)) = _
      rw [getSession_upgrade hok, Option.bind_some]
      cases hsession : old.sessions.find? found.pubkey with
      | none => rfl
      | some row =>
          -- the locator has received the generation of this very row
          have hgeneration : (old.upgraded row).runtimeGeneration =
              (old.upgradedLocator found).runtimeGeneration := by
            rw [upgradedLocator_generation hfoundKind, generationOf, hsession]
            rfl
          simp [hgeneration]

end Schema9

/-! ## The invariants of the current schema -/

/-- The invariants of session rows and endpoints that the current code relies on.  The pubkeys
in `started` are those whose rows had a positive start of a turn before the upgrade. -/
structure Store.SessionInvariants (store : Store) (started : String → Prop) : Prop where
  stopped : ∀ session ∈ store.sessions.rows, session.runtimeState = .stopped →
    session.workState = .idle ∧ session.turnStartedAt = 0
  working : ∀ session ∈ store.sessions.rows, session.runtimeState = .running →
    started session.pubkey → (session.workState = .working ↔ 0 < session.turnStartedAt)
  recovery : ∀ session ∈ store.sessions.rows,
    session.recoveryState = .ready ↔ store.hasNativeResume session.pubkey
  oneEndpoint : ∀ left ∈ store.sessionLocators.rows, ∀ right ∈ store.sessionLocators.rows,
    isEndpointKind left.locatorKind = true → left.endpointGroup = right.endpointGroup →
    left = right
  generation : ∀ session ∈ store.sessions.rows, session.runtimeState = .running →
    ∀ row ∈ store.sessionLocators.rows, row.pubkey = session.pubkey →
    isEndpointKind row.locatorKind = true →
    row.runtimeGeneration = session.runtimeGeneration ∧ 0 < session.runtimeGeneration
  found : ∀ session ∈ store.sessions.rows, session.runtimeState = .running →
    ∀ row ∈ store.sessionLocators.rows, row.pubkey = session.pubkey →
    isEndpointKind row.locatorKind = true →
    store.sessionForRuntimeLocator row.locatorKind row.locatorValue = .ok (some session)
  fenced : ∀ session ∈ store.sessions.rows, session.runtimeState = .running →
    ∀ row ∈ store.sessionLocators.rows, row.pubkey = session.pubkey →
    isEndpointKind row.locatorKind = true →
    ∀ later : Session, session.runtimeGeneration < later.runtimeGeneration →
    ¬ row.RecordedFor later

namespace Schema9

def HadStart (old : Schema9) (pubkey : String) : Prop :=
  old.sessions.Any (fun row => row.pubkey = pubkey ∧ 0 < row.turnStartedAt)

/-- The rows of schema 9 whose columns agree with each other. -/
structure Consistent (old : Schema9) : Prop where
  dead : ∀ row ∈ old.sessions.rows, row.alive ≠ 1 → row.working ≠ 1 ∧ row.turnStartedAt = 0
  alive : ∀ row ∈ old.sessions.rows, row.alive = 1 → 0 < row.turnStartedAt → row.working = 1
  generation : ∀ row ∈ old.sessions.rows, row.alive = 1 →
    ∀ locator ∈ old.sessionLocators.rows, locator.pubkey = row.pubkey →
    isEndpointKind locator.locatorKind = true → 0 < row.runtimeGeneration
  newest : ∀ row ∈ old.sessions.rows, row.alive = 1 →
    ∀ locator ∈ old.lastLocators, locator.pubkey = row.pubkey →
    isEndpointKind locator.locatorKind = true →
    ∀ found, old.newestContender locator.locatorKind locator.locatorValue = some found →
    found.pubkey = row.pubkey

variable {old : Schema9} {store : Store} {row : SessionV9} {locator : SessionLocatorV9}

/-! ## Columns of an upgraded row -/

theorem upgraded_running : (old.upgraded row).runtimeState = .running ↔ row.alive = 1 := by
  show (if row.alive = 1 then RuntimeState.running else .stopped) = .running ↔ _
  split_ifs with halive <;> simp [halive]

theorem upgraded_stopped : (old.upgraded row).runtimeState = .stopped ↔ row.alive ≠ 1 := by
  show (if row.alive = 1 then RuntimeState.running else .stopped) = .stopped ↔ _
  split_ifs with halive <;> simp [halive]

theorem upgraded_working : (old.upgraded row).workState = .working ↔ row.working = 1 := by
  show (if row.working = 1 then WorkState.working else .idle) = .working ↔ _
  split_ifs with hworking <;> simp [hworking]

theorem upgraded_idle : (old.upgraded row).workState = .idle ↔ row.working ≠ 1 := by
  show (if row.working = 1 then WorkState.working else .idle) = .idle ↔ _
  split_ifs with hworking <;> simp [hworking]

theorem upgraded_ready :
    (old.upgraded row).recoveryState = .ready ↔ old.hasNativeResume row.pubkey := by
  show (if decide (old.hasNativeResume row.pubkey) = true then RecoveryState.ready
    else .pending) = .ready ↔ _
  split_ifs with hready <;> simpa using hready

/-! ## The invariants that every upgrade establishes -/

theorem recovery_upgrade (hok : old.upgrade = .ok store) :
    ∀ session ∈ store.sessions.rows,
      session.recoveryState = .ready ↔ store.hasNativeResume session.pubkey := by
  intro session hsession
  obtain ⟨row, _, rfl⟩ := (mem_sessions hok).mp hsession
  rw [upgraded_ready, hasNativeResume_upgrade hok]
  exact Iff.rfl

theorem oneEndpoint_upgrade (hok : old.upgrade = .ok store) :
    ∀ left ∈ store.sessionLocators.rows, ∀ right ∈ store.sessionLocators.rows,
      isEndpointKind left.locatorKind = true → left.endpointGroup = right.endpointGroup →
      left = right := by
  intro left hleft right hright hkind hgroup
  obtain ⟨first, hfirst, rfl⟩ := (mem_sessionLocators hok).mp hleft
  obtain ⟨second, hsecond, rfl⟩ := (mem_sessionLocators hok).mp hright
  have hkindSecond : isEndpointKind second.locatorKind = true := by
    have hsame : first.locatorKind = second.locatorKind := congrArg (fun key => key.2.2) hgroup
    rw [← hsame]
    exact hkind
  rw [eq_of_mem_lastOfGroups hfirst hsecond hkind hkindSecond hgroup]

/-! ## The invariants that depend on the old rows -/

theorem stopped_upgrade_iff (hok : old.upgrade = .ok store) :
    (∀ session ∈ store.sessions.rows, session.runtimeState = .stopped →
      session.workState = .idle ∧ session.turnStartedAt = 0) ↔
    ∀ row ∈ old.sessions.rows, row.alive ≠ 1 → row.working ≠ 1 ∧ row.turnStartedAt = 0 := by
  constructor
  · intro hstopped row hrow hdead
    have hsession := hstopped _ ((mem_sessions hok).mpr ⟨row, hrow, rfl⟩)
      (upgraded_stopped.mpr hdead)
    exact ⟨upgraded_idle.mp hsession.1, hsession.2⟩
  · intro hdead session hsession hstopped
    obtain ⟨row, hrow, rfl⟩ := (mem_sessions hok).mp hsession
    have hcolumns := hdead row hrow (upgraded_stopped.mp hstopped)
    exact ⟨upgraded_idle.mpr hcolumns.1, hcolumns.2⟩

theorem hadStart_iff (hrow : row ∈ old.sessions.rows) :
    old.HadStart row.pubkey ↔ 0 < row.turnStartedAt := by
  constructor
  · rintro ⟨other, hother, hpubkey, hstart⟩
    have hsame : some other = some row := by
      rw [← Table.mem_rows_iff.mp hother, ← Table.mem_rows_iff.mp hrow, hpubkey]
    cases hsame
    exact hstart
  · intro hstart
    exact ⟨row, hrow, rfl, hstart⟩

theorem working_upgrade_iff (hok : old.upgrade = .ok store) :
    (∀ session ∈ store.sessions.rows, session.runtimeState = .running →
      old.HadStart session.pubkey →
      (session.workState = .working ↔ 0 < session.turnStartedAt)) ↔
    ∀ row ∈ old.sessions.rows, row.alive = 1 → 0 < row.turnStartedAt → row.working = 1 := by
  constructor
  · intro hworking row hrow halive hstart
    have hsession := hworking _ ((mem_sessions hok).mpr ⟨row, hrow, rfl⟩)
      (upgraded_running.mpr halive) ((hadStart_iff hrow).mpr hstart)
    exact upgraded_working.mp (hsession.mpr hstart)
  · intro halive session hsession hrunning hstarted
    obtain ⟨row, hrow, rfl⟩ := (mem_sessions hok).mp hsession
    have hstart := (hadStart_iff hrow).mp hstarted
    have hworking := halive row hrow (upgraded_running.mp hrunning) hstart
    exact iff_of_true (upgraded_working.mpr hworking) hstart

/-- A locator that an upgraded session owns comes from a locator of its old row. -/
theorem endpoint_upgrade (hok : old.upgrade = .ok store) (hrow : row ∈ old.sessions.rows)
    {found : SessionLocator} (hfound : found ∈ store.sessionLocators.rows)
    (hpubkey : found.pubkey = row.pubkey) (hkind : isEndpointKind found.locatorKind = true) :
    ∃ locator ∈ old.lastLocators, old.upgradedLocator locator = found ∧
      locator.pubkey = row.pubkey ∧ isEndpointKind locator.locatorKind = true ∧
      found.runtimeGeneration = row.runtimeGeneration := by
  obtain ⟨locator, hlocator, rfl⟩ := (mem_sessionLocators hok).mp hfound
  have howner : locator.pubkey = row.pubkey := hpubkey
  have hendpoint : isEndpointKind locator.locatorKind = true := hkind
  refine ⟨locator, hlocator, rfl, howner, hendpoint, ?_⟩
  rw [upgradedLocator_generation hendpoint, howner, generationOf_eq hrow]

theorem generation_upgrade_iff (hok : old.upgrade = .ok store) :
    (∀ session ∈ store.sessions.rows, session.runtimeState = .running →
      ∀ row ∈ store.sessionLocators.rows, row.pubkey = session.pubkey →
      isEndpointKind row.locatorKind = true →
      row.runtimeGeneration = session.runtimeGeneration ∧ 0 < session.runtimeGeneration) ↔
    ∀ row ∈ old.sessions.rows, row.alive = 1 → ∀ locator ∈ old.sessionLocators.rows,
      locator.pubkey = row.pubkey → isEndpointKind locator.locatorKind = true →
      0 < row.runtimeGeneration := by
  constructor
  · intro hgeneration row hrow halive locator hlocator hpubkey hkind
    -- the locator itself may be superseded, but not every endpoint of its group
    have hstays : ∃ last ∈ old.lastLocators, isEndpointKind last.locatorKind = true ∧
        (last.pubkey, last.harness, last.locatorKind) =
          (locator.pubkey, locator.harness, locator.locatorKind) :=
      exists_mem_lastOfGroups hlocator hkind
    obtain ⟨last, hlast, hlastKind, hgroup⟩ := hstays
    have howner : last.pubkey = row.pubkey := (congrArg Prod.fst hgroup).trans hpubkey
    exact (hgeneration _ ((mem_sessions hok).mpr ⟨row, hrow, rfl⟩)
      (upgraded_running.mpr halive) _ ((mem_sessionLocators hok).mpr ⟨last, hlast, rfl⟩)
      howner hlastKind).2
  · intro hpositive session hsession hrunning found hfound hpubkey hkind
    obtain ⟨row, hrow, rfl⟩ := (mem_sessions hok).mp hsession
    obtain ⟨locator, hlocator, _, howner, hendpoint, hsame⟩ :=
      endpoint_upgrade hok hrow hfound hpubkey hkind
    exact ⟨hsame, hpositive row hrow (upgraded_running.mp hrunning) locator
      (lastOfGroups_sublist.subset hlocator) howner hendpoint⟩

theorem found_upgrade_of_newest (hok : old.upgrade = .ok store) (hconsistent : old.Consistent) :
    ∀ session ∈ store.sessions.rows, session.runtimeState = .running →
      ∀ row ∈ store.sessionLocators.rows, row.pubkey = session.pubkey →
      isEndpointKind row.locatorKind = true →
      store.sessionForRuntimeLocator row.locatorKind row.locatorValue = .ok (some session) := by
  intro session hsession hrunning found hfound hpubkey hkind
  obtain ⟨row, hrow, rfl⟩ := (mem_sessions hok).mp hsession
  have halive := upgraded_running.mp hrunning
  obtain ⟨locator, hlocator, rfl, howner, hendpoint, _⟩ :=
    endpoint_upgrade hok hrow hfound hpubkey hkind
  have hpositive : 0 < old.generationOf locator.pubkey := by
    rw [howner, generationOf_eq hrow]
    exact hconsistent.generation row hrow halive locator
      (lastOfGroups_sublist.subset hlocator) howner hendpoint
  -- the locator contends itself, so there is a newest contender
  have hcontends : locator ∈ old.contenders locator.locatorKind locator.locatorValue :=
    List.mem_filter.mpr ⟨hlocator, decide_eq_true ⟨rfl, rfl, hpositive⟩⟩
  obtain ⟨first, hfirst⟩ : ∃ first,
      old.newestContender locator.locatorKind locator.locatorValue = some first := by
    rw [← Option.isSome_iff_exists, newestContender, List.isSome_head?]
    exact List.ne_nil_of_mem ((List.mem_insertionSort _).mpr hcontends)
  have hfirstOwner : first.pubkey = row.pubkey :=
    hconsistent.newest row hrow halive locator hlocator howner hendpoint first hfirst
  show store.sessionForRuntimeLocator locator.locatorKind locator.locatorValue = _
  rw [sessionForRuntimeLocator_upgrade hok hendpoint, hfirst, Option.bind_some, hfirstOwner,
    Table.mem_rows_iff.mp hrow]
  rfl

theorem newest_of_found_upgrade (hok : old.upgrade = .ok store)
    (hfound : ∀ session ∈ store.sessions.rows, session.runtimeState = .running →
      ∀ row ∈ store.sessionLocators.rows, row.pubkey = session.pubkey →
      isEndpointKind row.locatorKind = true →
      store.sessionForRuntimeLocator row.locatorKind row.locatorValue = .ok (some session)) :
    ∀ row ∈ old.sessions.rows, row.alive = 1 →
      ∀ locator ∈ old.lastLocators, locator.pubkey = row.pubkey →
      isEndpointKind locator.locatorKind = true →
      ∀ found, old.newestContender locator.locatorKind locator.locatorValue = some found →
      found.pubkey = row.pubkey := by
  intro row hrow halive locator hlocator howner hendpoint found hnewest
  have hlookup := hfound _ ((mem_sessions hok).mpr ⟨row, hrow, rfl⟩)
    (upgraded_running.mpr halive) _ ((mem_sessionLocators hok).mpr ⟨locator, hlocator, rfl⟩)
    howner hendpoint
  change store.sessionForRuntimeLocator locator.locatorKind locator.locatorValue = _ at hlookup
  rw [sessionForRuntimeLocator_upgrade hok hendpoint, hnewest, Option.bind_some,
    Except.ok.injEq, Option.map_eq_some_iff] at hlookup
  obtain ⟨other, hother, hsame⟩ := hlookup
  have hpubkey : other.pubkey = row.pubkey := congrArg Session.pubkey hsame
  rw [← hpubkey, Table.key_of_find? hother]

/-- The upgrade establishes the session invariants exactly when the columns of the old rows
agree with each other: a row that is not alive does not work and has no turn, a row that is
alive and has a turn works, and a session that is alive has a positive generation and the
newest of the locators with the kind and value of each of its endpoints. -/
theorem sessionInvariants_upgrade_iff (hok : old.upgrade = .ok store) :
    store.SessionInvariants old.HadStart ↔ old.Consistent := by
  constructor
  · intro hinvariants
    exact {
      dead := (stopped_upgrade_iff hok).mp hinvariants.stopped
      alive := (working_upgrade_iff hok).mp hinvariants.working
      generation := (generation_upgrade_iff hok).mp hinvariants.generation
      newest := newest_of_found_upgrade hok hinvariants.found }
  · intro hconsistent
    have hgeneration := (generation_upgrade_iff hok).mpr hconsistent.generation
    exact {
      stopped := (stopped_upgrade_iff hok).mpr hconsistent.dead
      working := (working_upgrade_iff hok).mpr hconsistent.alive
      recovery := recovery_upgrade hok
      oneEndpoint := oneEndpoint_upgrade hok
      generation := hgeneration
      found := found_upgrade_of_newest hok hconsistent
      fenced := by
        intro session hsession hrunning row hrow hpubkey hkind later hlater hrecorded
        obtain ⟨hsame, hpositive⟩ := hgeneration session hsession hrunning row hrow hpubkey hkind
        rcases hrecorded with hdurable | hcurrent
        · omega
        · omega }

/-! ## Databases of schema 9 -/

/-- A database that a deployed version has left. -/
def deployed (sessions : Table SessionV9.pubkey) (locators : Table SessionLocatorV9.key) :
    Schema9 where
  catalogue
    | "sessions" => copiedColumns
    | "session_channels" => ["pubkey", "channel_h", "joined_at"]
    | "session_claims" => ["pubkey", "channel_h", "expires_at"]
    | "session_locators" => ["harness", "locator_kind", "locator_value", "pubkey", "created_at"]
    | "inbox" => ["event_id", "target_pubkey", "state"]
    | _ => []
  sessions := sessions
  sessionChannels := Table.empty
  sessionLocators := locators
  channelMembers := Table.empty
  sessionSigners := Table.empty
  handleLeases := Table.empty
  mcpActorAliases := Table.empty
  inbox := Table.empty
  eventClaims := Table.empty

/-- A session with a terminal, in the columns that the invariants are about. -/
def deployedSession (alive working : Int) (runtimeGeneration turnStartedAt : Nat) : Schema9 :=
  deployed
    { rows :=
        [{ pubkey := "pk1"
           runtimeGeneration := runtimeGeneration
           agentSlug := "codex"
           channelH := "general"
           workRoot := ""
           readinessParent := ""
           observedHarness := "codex"
           claimedHarness := ""
           admittedBundle := ""
           admittedTransport := "pty"
           endpointProvenance := "migration"
           childPid := none
           transcriptPath := none
           alive := alive
           createdAt := 10
           lastSeen := 30
           working := working
           turnStartedAt := turnStartedAt
           seenCursor := 0
           title := ""
           explicitChatPublishedAt := 0 }]
      keysNodup := List.nodup_singleton _ }
    { rows :=
        [{ harness := "codex"
           locatorKind := "pty"
           locatorValue := "term-1"
           pubkey := "pk1"
           createdAt := 10 }]
      keysNodup := List.nodup_singleton _ }

/-- A session in the middle of a turn keeps its turn and its terminal. -/
theorem working_session_upgrades : ∃ store, (deployedSession 1 1 2 20).upgrade = .ok store ∧
    store.SessionInvariants (deployedSession 1 1 2 20).HadStart := by
  refine ⟨_, rfl, (sessionInvariants_upgrade_iff rfl).mpr ?_⟩
  exact {
    dead := by decide
    alive := by decide
    generation := by decide
    newest := by
      intro row hrow _ locator _ _ _ found hfound
      have hmem : found ∈ (deployedSession 1 1 2 20).lastLocators := by
        have hcontends := (List.mem_insertionSort _).mp (List.mem_of_mem_head? hfound)
        exact List.mem_of_mem_filter hcontends
      rw [List.mem_singleton.mp hrow,
        List.mem_singleton.mp (lastOfGroups_sublist.subset hmem)] }

/-- A session of generation 0 loses its terminal, and one that has died in a turn goes on
working after it has stopped. -/
theorem migrated_rows_break_invariants :
    (∃ store, (deployedSession 1 0 0 0).upgrade = .ok store ∧
      store.sessionForRuntimeLocator "pty" "term-1" = .ok none ∧
      ¬ store.SessionInvariants (deployedSession 1 0 0 0).HadStart) ∧
    ∃ store, (deployedSession 0 1 2 20).upgrade = .ok store ∧
      ¬ store.SessionInvariants (deployedSession 0 1 2 20).HadStart := by
  constructor
  · refine ⟨_, rfl, rfl, ?_⟩
    intro hinvariants
    have hsession := hinvariants.generation _ List.mem_cons_self rfl _ List.mem_cons_self rfl rfl
    exact absurd hsession.2 (by decide)
  · refine ⟨_, rfl, ?_⟩
    intro hinvariants
    have hsession := hinvariants.stopped _ List.mem_cons_self rfl
    exact absurd hsession.1 (by decide)

end Schema9

end Mosaico
