import Mosaico.Runtime.Generations
import Mosaico.State.StopEdges

/-!
# Process ids that outlive their generation

A locator row of a process id is written for the generation that the session is
in and stays until the pubkey binds another process of the same harness, another
pubkey takes the id, or the row is cleared.  A step makes such a row a trap in
two ways: it begins the next generation of the pubkey, or it ends the recorded
one.  The theorems say that there is no other way.
-/

namespace Mosaico

open Relational Transition

namespace Store

/-- A process id with a recorded generation leads to the pubkey. -/
def HoldsPid (store : Store) (pubkey : String) : Prop :=
  ∃ row ∈ store.sessionLocators.rows, row.IsPid ∧ row.pubkey = pubkey ∧
    row.runtimeGeneration ≠ 0

end Store

/-! ## The steps that leave a process id behind -/

/-- The operation begins the next generation of a pubkey that holds a process id. -/
def StoreOp.OutdatesPid (store : Store) : StoreOp → Prop
  | .lifecycle (.reserveSessionWithFacts r facts) =>
      store.HoldsPid r.pubkey ∧ (store.reserveSessionWithFacts r facts).isOk = true
  | .lifecycle (.activateMcpActor actorKey pubkey now) =>
      store.HoldsPid pubkey ∧ (store.activateMcpActor actorKey pubkey now).isOk = true ∧
        ∃ row, store.getSession pubkey = some row ∧ row.runtimeState = .stopped
  | _ => False

/-- The operation ends a generation that holds a process id, or binds a process id
to one that has ended. -/
def StoreOp.StrandsPid (store : Store) : StoreOp → Prop
  | .lifecycle (.markRuntimeStoppedIfGeneration pubkey generation reason stoppedAt) =>
      store.HoldsPid pubkey ∧
        changed (store.markRuntimeStoppedIfGeneration pubkey generation reason stoppedAt) = true
  | .lifecycle (.finalizeRuntimeStoppedIfEpoch pubkey generation stoppingLifecycleEpoch reason
      stoppedAt) =>
      store.HoldsPid pubkey ∧ yields (store.finalizeRuntimeStoppedIfEpoch pubkey generation
        stoppingLifecycleEpoch reason stoppedAt) = true
  | .locator (.putSessionLocator harness locatorKind locatorValue pubkey createdAt) =>
      locatorKind = locatorPid ∧ (∃ pid : Int32, locatorValue = toString pid) ∧
        (store.putSessionLocator harness locatorKind locatorValue pubkey createdAt).isOk = true ∧
        ∃ row, store.getSession pubkey = some row ∧ row.runtimeGeneration ≠ 0 ∧
          row.runtimeState = .stopped
  | _ => False

namespace Store

/-! ## Rows after a step -/

variable {store : Store} {row : SessionLocator} {op : StoreOp}

/-- A put upserts one row: a durable native one, or one for the current generation
of its session. -/
theorem putSessionLocator_locators {after : Store}
    {harness locatorKind locatorValue pubkey : String} {createdAt : Nat} {value : Unit}
    (hok : store.putSessionLocator harness locatorKind locatorValue pubkey createdAt =
      .ok (value, after)) :
    ∃ session, store.getSession pubkey = some session ∧
      after.sessionLocators = (store.writeLocator harness locatorKind locatorValue pubkey
        (if locatorKind = locatorNativeResume then 0 else session.runtimeGeneration)
        createdAt).sessionLocators := by
  obtain ⟨session, hsession, _, ⟨hnative, _, rfl⟩ | ⟨hother, hafter⟩⟩ := putSessionLocator_ok hok
  · exact ⟨session, hsession, by rw [if_pos hnative]; rfl⟩
  · refine ⟨session, hsession, ?_⟩
    rw [if_neg hother]
    rcases hafter with rfl | rfl <;> rfl

theorem mem_putSessionLocator {after : Store}
    {harness locatorKind locatorValue pubkey : String} {createdAt : Nat} {value : Unit}
    (hok : store.putSessionLocator harness locatorKind locatorValue pubkey createdAt =
      .ok (value, after)) (hrow : row ∈ after.sessionLocators.rows)
    (hnative : row.locatorKind ≠ locatorNativeResume) :
    row ∈ store.sessionLocators.rows ∨
      ∃ session, store.getSession pubkey = some session ∧
        row = ⟨harness, locatorKind, locatorValue, pubkey, session.runtimeGeneration,
          createdAt⟩ := by
  obtain ⟨session, hsession, hlocators⟩ := putSessionLocator_locators hok
  rw [hlocators] at hrow
  rcases mem_writeLocator.mp hrow with rfl | ⟨hold, _⟩
  · have hkind : ¬ locatorKind = locatorNativeResume := hnative
    exact Or.inr ⟨session, hsession, by rw [if_neg hkind]⟩
  · exact Or.inl hold

theorem commit_mem {α : Type} {outcome : Except StoreError (α × Store)}
    (hok : ∀ value after, outcome = .ok (value, after) →
      row ∈ after.sessionLocators.rows → row ∈ store.sessionLocators.rows)
    (hrow : row ∈ (commit outcome store).sessionLocators.rows) :
    row ∈ store.sessionLocators.rows := by
  revert hrow
  exact commit_invariant (I := fun after : Store =>
    row ∈ after.sessionLocators.rows → row ∈ store.sessionLocators.rows) id hok

/-- What a locator operation leaves in the table: old rows, native rows, and the
row of a put. -/
theorem mem_locatorStep {op : LocatorOp} (hrow : row ∈ (store.locatorStep op).sessionLocators.rows)
    (hnative : row.locatorKind ≠ locatorNativeResume) :
    row ∈ store.sessionLocators.rows ∨
      ∃ session, store.getSession row.pubkey = some session ∧
        row.runtimeGeneration = session.runtimeGeneration ∧
        op = .putSessionLocator row.harness row.locatorKind row.locatorValue row.pubkey
          row.createdAt ∧
        (store.putSessionLocator row.harness row.locatorKind row.locatorValue row.pubkey
          row.createdAt).isOk = true := by
  cases op with
  | putSessionLocator harness locatorKind locatorValue pubkey createdAt =>
      rw [locatorStep] at hrow
      cases hok : store.putSessionLocator harness locatorKind locatorValue pubkey createdAt with
      | error error =>
          rw [hok] at hrow
          exact Or.inl hrow
      | ok result =>
          rw [hok] at hrow
          rcases mem_putSessionLocator hok hrow hnative with hold | ⟨session, hsession, rfl⟩
          · exact Or.inl hold
          · exact Or.inr ⟨session, hsession, rfl, rfl, by rw [hok]; rfl⟩
  | setNativeResumeLocator pubkey harness nativeResume now =>
      rw [locatorStep, commit_setNativeResumeLocator] at hrow
      cases hok : store.putSessionLocator harness locatorNativeResume nativeResume pubkey now with
      | error error =>
          rw [hok] at hrow
          exact Or.inl hrow
      | ok result =>
          rw [hok] at hrow
          rcases mem_putSessionLocator hok hrow hnative with hold | ⟨session, hsession, rfl⟩
          · exact Or.inl hold
          · exact absurd rfl hnative
  | claimNativeResumeLocator pubkey harness nativeResume now =>
      refine Or.inl (commit_mem (fun owner after hok hmem => ?_) hrow)
      obtain ⟨_, _, _, ⟨_, _, _, rfl⟩ | ⟨hfree, _, _, _, rfl⟩⟩ := claimNativeResumeLocator_ok hok
      · exact hmem
      · rcases (Table.mem_insertOrIgnore hfree).mp hmem with hold | rfl
        · exact hold
        · exact absurd rfl hnative
  | clearLocatorKind pubkey locatorKind =>
      exact Or.inl (commit_mem (fun _ _ hok => clearLocatorKind_subset hok row) hrow)
  | clearRuntimeLocatorIfGeneration pubkey locatorKind runtimeGeneration now =>
      exact Or.inl (commit_mem (fun _ _ hok => clearRuntimeLocatorIfGeneration_subset hok row) hrow)
  | clearSessionLocatorKind pubkey harness locatorKind =>
      exact Or.inl (commit_mem (fun _ _ hok => clearSessionLocatorKind_subset hok row) hrow)

/-- A row of a process id was there before the step, or the step wrote it for the
current generation of its session. -/
theorem mem_step_pidLocator (hrow : row ∈ (store.step op).sessionLocators.rows) (hpid : row.IsPid) :
    row ∈ store.sessionLocators.rows ∨
      ∃ session, store.getSession row.pubkey = some session ∧
        row.runtimeGeneration = session.runtimeGeneration ∧
        op = .locator (.putSessionLocator row.harness row.locatorKind row.locatorValue
          row.pubkey row.createdAt) ∧
        (store.putSessionLocator row.harness row.locatorKind row.locatorValue row.pubkey
          row.createdAt).isOk = true := by
  have hnative : row.locatorKind ≠ locatorNativeResume := by
    rw [hpid.1]
    decide
  by_cases hlocator : ∃ change, op = .locator change
  · obtain ⟨change, rfl⟩ := hlocator
    rcases mem_locatorStep hrow hnative with hold | ⟨session, hsession, hgeneration, rfl, hok⟩
    · exact Or.inl hold
    · exact Or.inr ⟨session, hsession, hgeneration, rfl, hok⟩
  · rcases step_sessionLocators store (fun change heq => hlocator ⟨change, heq⟩) with
      hsame | ⟨owner, _, hdeleted⟩
    · exact Or.inl (hsame ▸ hrow)
    · rw [hdeleted] at hrow
      exact Or.inl (Table.mem_of_mem_deleteWhere hrow)

/-! ## One step -/

theorem exists_of_isOk {α : Type} {outcome : Except StoreError α}
    (hok : outcome.isOk = true) : ∃ value, outcome = .ok value := by
  cases outcome with
  | error error => cases hok
  | ok value => exact ⟨value, rfl⟩

/-- A row that names a generation other than the current one, or one that does not
satisfy `P`, does not serve. -/
theorem not_serves {P : Session → Prop} {next : Session}
    (hrecorded : row.runtimeGeneration ≠ 0) (hnext : store.getSession row.pubkey = some next)
    (hbad : row.runtimeGeneration ≠ next.runtimeGeneration ∨ ¬ P next) : ¬ store.Serves P row := by
  rintro (hdurable | ⟨session, hsession, hgeneration, hP⟩)
  · exact hrecorded hdurable
  · rw [hnext] at hsession
    cases hsession
    rcases hbad with hne | hnot
    · exact hne hgeneration
    · exact hnot hP

/-- What a begun generation leaves behind: the locators, and the session one
generation later. -/
theorem outdatesPid_step (hop : op.OutdatesPid store) :
    ∃ pubkey, store.HoldsPid pubkey ∧ (store.step op).sessionLocators = store.sessionLocators ∧
      ∀ row, store.getSession pubkey = some row → ∃ next,
        (store.step op).getSession pubkey = some next ∧
          next.runtimeGeneration = row.runtimeGeneration + 1 := by
  unfold StoreOp.OutdatesPid at hop
  split at hop
  · rename_i r facts
    obtain ⟨hholds, hok⟩ := hop
    obtain ⟨⟨generation, after⟩, hok⟩ := exists_of_isOk hok
    have hstep : store.step (.lifecycle (.reserveSessionWithFacts r facts)) = after := by
      simp only [step, lifecycleStep, hok, commit_ok]
    obtain ⟨hgeneration, rfl⟩ := reserveSessionWithFacts_ok hok
    refine ⟨r.pubkey, hholds, ?_, ?_⟩
    · rw [hstep]
      exact (admitRuntime_same store r facts generation).2
    · intro row hrow
      rw [hstep, getSession, admitRuntime_sessions, Table.find?_upsert]
      have hrow' : store.sessions.find? r.pubkey = some row := hrow
      rcases nextGeneration_ok hgeneration with ⟨hfree, _⟩ | ⟨old, hold, _, _, rfl⟩
      · rw [hrow'] at hfree
        cases hfree
      · rw [hrow'] at hold
        cases hold
        refine ⟨row.relaunched r facts (row.runtimeGeneration + 1), ?_, rfl⟩
        rw [hrow']
        exact if_pos rfl
  · rename_i actorKey pubkey now
    obtain ⟨hholds, hok, row, hrow, hstopped⟩ := hop
    obtain ⟨⟨_, after⟩, hok⟩ := exists_of_isOk hok
    have hstep : store.step (.lifecycle (.activateMcpActor actorKey pubkey now)) = after := by
      simp only [step, lifecycleStep, hok, commit_ok]
    unfold activateMcpActor at hok
    rw [hrow] at hok
    simp only [bind_eq_ok, pure_eq_ok, Prod.mk.injEq] at hok
    obtain ⟨_, _, _, _, _, _, _, hafter⟩ := hok
    refine ⟨pubkey, hholds, ?_, ?_⟩
    · rw [hstep, ← hafter]
      rfl
    · intro other hother
      rw [hrow] at hother
      cases hother
      refine ⟨row.mcpActivated now, ?_, ?_⟩
      · rw [hstep, ← hafter]
        dsimp only [markHandleLive, getSession]
        have hfind : store.sessions.find? pubkey = some row := hrow
        rw [Table.find?_updateWhere, hfind, Option.map_some, if_pos (Table.key_of_find? hfind)]
      · simp [Session.mcpActivated, hstopped]
  · exact hop.elim

/-- A generation that changes under a process id was begun by the step. -/
theorem outdatesPid_of_new {pubkey : String}
    {session next : Session} (hholds : store.HoldsPid pubkey)
    (hsession : store.sessions.find? pubkey = some session)
    (hnext : (store.step op).sessions.find? pubkey = some next)
    (hnew : next.runtimeGeneration ≠ session.runtimeGeneration) : op.OutdatesPid store := by
  have hfailed : store.step op ≠ store := by
    intro hsame
    rw [hsame, hsession] at hnext
    cases hnext
    exact hnew rfl
  obtain ⟨found, hfound, hchange⟩ := step_session op hsession
  rw [hnext] at hfound
  cases hfound
  have hpubkey : session.pubkey = pubkey := Table.key_of_find? hsession
  rcases hchange with rfl | hrewrites
  · exact absurd rfl hnew
  · obtain ⟨hstopped, ⟨r, facts, rfl, hr⟩ | ⟨actorKey, now, rfl⟩⟩ :=
      StoreOp.rewrites_runtimeGeneration hrewrites hnew
    · refine ⟨by rw [hr, hpubkey]; exact hholds, ?_⟩
      cases hok : store.reserveSessionWithFacts r facts with
      | error error => exact absurd (by simp only [step, lifecycleStep, hok, commit_error]) hfailed
      | ok result => rfl
    · rw [hpubkey] at hfailed ⊢
      refine ⟨hholds, ?_, session, hsession, hstopped⟩
      cases hok : store.activateMcpActor actorKey pubkey now with
      | error error => exact absurd (by simp only [step, lifecycleStep, hok, commit_error]) hfailed
      | ok result => rfl

/-- A step keeps the rows of process ids current exactly when it begins no
generation of a pubkey that holds one. -/
theorem step_pidLocators_current_iff (hcurrent : store.PidLocatorsServe (fun _ => True)) :
    (store.step op).PidLocatorsServe (fun _ => True) ↔ ¬ op.OutdatesPid store := by
  constructor
  · intro hafter hop
    obtain ⟨pubkey, ⟨row, hmem, hpid, rfl, hrecorded⟩, hlocators, hbegun⟩ := outdatesPid_step hop
    rcases hcurrent row hmem hpid with hdurable | ⟨session, hsession, hgeneration, _⟩
    · exact hrecorded hdurable
    · obtain ⟨next, hnext, hlater⟩ := hbegun session hsession
      refine not_serves hrecorded hnext (Or.inl ?_) (hafter row (hlocators ▸ hmem) hpid)
      omega
  · intro hkeeps row hrow hpid
    rcases mem_step_pidLocator hrow hpid with hold | ⟨session, hsession, hgeneration, rfl, _⟩
    · rcases hcurrent row hold hpid with hdurable | ⟨session, hsession, hgeneration, _⟩
      · exact Or.inl hdurable
      · by_cases hrecorded : row.runtimeGeneration = 0
        · exact Or.inl hrecorded
        · obtain ⟨next, hnext, _⟩ := step_session op hsession
          refine Or.inr ⟨next, hnext, ?_, trivial⟩
          by_contra hne
          have hholds : store.HoldsPid row.pubkey := ⟨row, hold, hpid, rfl, hrecorded⟩
          have hnew : next.runtimeGeneration ≠ session.runtimeGeneration :=
            fun heq => hne (hgeneration.trans heq.symm)
          exact hkeeps (outdatesPid_of_new hholds hsession hnext hnew)
    · obtain ⟨next, hnext, hchange⟩ := step_session
        (.locator (.putSessionLocator row.harness row.locatorKind row.locatorValue row.pubkey
          row.createdAt)) hsession
      refine Or.inr ⟨next, hnext, ?_, trivial⟩
      rcases hchange with rfl | hsame
      · exact hgeneration
      · exact hgeneration.trans (Session.SameLifecycle.runtimeGeneration hsame).symm

/-- What a stranding step leaves behind: the row of a process id whose session has
stopped. -/
theorem strandsPid_step (hop : op.StrandsPid store) :
    ∃ row ∈ (store.step op).sessionLocators.rows, row.IsPid ∧ row.runtimeGeneration ≠ 0 ∧
      ∃ next, (store.step op).getSession row.pubkey = some next ∧
        next.runtimeState = .stopped := by
  unfold StoreOp.StrandsPid at hop
  split at hop
  · rename_i pubkey generation reason stoppedAt
    obtain ⟨⟨row, hmem, hpid, rfl, hrecorded⟩, hchanged⟩ := hop
    cases hok : store.markRuntimeStoppedIfGeneration row.pubkey generation reason stoppedAt with
    | error error =>
        rw [hok] at hchanged
        cases hchanged
    | ok result =>
        obtain ⟨changed, after⟩ := result
        rw [hok] at hchanged
        rcases markRuntimeStoppedIfGeneration_spec hok with
          ⟨_, session, _, _, hafter⟩ | ⟨hfalse, _⟩
        · simp only [step, lifecycleStep, hok, commit_ok]
          refine ⟨row, ?_, hpid, hrecorded, _, hafter, rfl⟩
          rw [(markRuntimeStoppedIfGeneration_same hok).2]
          exact hmem
        · cases hfalse.symm.trans hchanged
  · rename_i pubkey generation epoch reason stoppedAt
    obtain ⟨⟨row, hmem, hpid, rfl, hrecorded⟩, hyields⟩ := hop
    obtain ⟨stopped, after, hok⟩ := yields_iff.mp hyields
    rcases finalizeRuntimeStoppedIfEpoch_spec hok with
      ⟨session, _, _, _, hafter⟩ | ⟨hnone, _⟩
    · simp only [step, lifecycleStep, hok, commit_ok]
      refine ⟨row, ?_, hpid, hrecorded, _, hafter, rfl⟩
      rw [(finalizeRuntimeStoppedIfEpoch_same hok).2]
      exact hmem
    · cases hnone
  · rename_i harness locatorKind locatorValue pubkey createdAt
    obtain ⟨rfl, hvalue, hok, session, hsession, hrecorded, hstopped⟩ := hop
    obtain ⟨⟨_, after⟩, hok⟩ := exists_of_isOk hok
    obtain ⟨found, hfound, hlocators⟩ := putSessionLocator_locators hok
    rw [hsession] at hfound
    cases hfound
    obtain ⟨next, hnext, hchange⟩ := step_session
      (.locator (.putSessionLocator harness locatorPid locatorValue pubkey createdAt)) hsession
    -- A pid locator displaces no other: that is what a native resume locator does.
    have hpidKind : ¬ locatorPid = locatorNativeResume := by decide
    rw [if_neg hpidKind] at hlocators
    refine ⟨⟨harness, locatorPid, locatorValue, pubkey, session.runtimeGeneration, createdAt⟩,
      ?_, ⟨rfl, hvalue⟩, hrecorded, next, hnext, ?_⟩
    · simp only [step, locatorStep, hok, commit_ok]
      rw [hlocators]
      exact mem_writeLocator.mpr (Or.inl rfl)
    · rcases hchange with rfl | hsame
      · exact hstopped
      · exact (Session.SameLifecycle.runtimeState hsame).trans hstopped
  · exact hop.elim

/-- A generation that ends under a process id was ended by a step that keeps the
row. -/
theorem strandsPid_of_stopped
    {session next : Session} (hold : row ∈ store.sessionLocators.rows) (hpid : row.IsPid)
    (hrecorded : row.runtimeGeneration ≠ 0) (hrow : row ∈ (store.step op).sessionLocators.rows)
    (hsession : store.sessions.find? row.pubkey = some session)
    (hlive : session.runtimeState ≠ .stopped)
    (hnext : (store.step op).sessions.find? row.pubkey = some next)
    (hstopped : next.runtimeState = .stopped) : op.StrandsPid store := by
  have hmoved : (store.step op).sessions.find? row.pubkey ≠ store.sessions.find? row.pubkey := by
    intro hsame
    rw [hnext, hsession] at hsame
    cases hsame
    exact hlive hstopped
  have hpubkey : session.pubkey = row.pubkey := Table.key_of_find? hsession
  have hholds : store.HoldsPid row.pubkey := ⟨row, hold, hpid, rfl, hrecorded⟩
  obtain ⟨found, hfound, hchange⟩ := step_session op hsession
  rw [hnext] at hfound
  cases hfound
  rcases hchange with rfl | hrewrites
  · exact absurd hstopped hlive
  -- Only the three ends of a runtime stop a row that was not stopped.
  · have hends : op.Ends row.pubkey := hpubkey ▸ StoreOp.rewrites_stopped hrewrites hlive hstopped
    cases hends with
    | stop generation reason stoppedAt =>
        refine ⟨hholds, ?_⟩
        simp only [step, lifecycleStep] at hmoved
        cases hok : store.markRuntimeStoppedIfGeneration row.pubkey generation reason
            stoppedAt with
        | error error =>
            rw [hok] at hmoved
            exact absurd rfl hmoved
        | ok result =>
            rw [hok] at hmoved
            rcases markRuntimeStoppedIfGeneration_spec hok with ⟨htrue, _⟩ | ⟨_, _, hsame⟩
            · exact htrue
            · exact absurd (hsame row.pubkey) hmoved
    | evict generation epoch reason stoppedAt =>
        refine ⟨hholds, ?_⟩
        simp only [step, lifecycleStep] at hmoved
        cases hok : store.finalizeRuntimeStoppedIfEpoch row.pubkey generation epoch reason
            stoppedAt with
        | error error =>
            rw [hok] at hmoved
            exact absurd rfl hmoved
        | ok result =>
            obtain ⟨answer, after⟩ := result
            rw [hok] at hmoved
            rcases finalizeRuntimeStoppedIfEpoch_spec hok with ⟨_, _, _, rfl, _⟩ | ⟨_, rfl, _⟩
            · rfl
            · exact absurd rfl hmoved
    | revoke runtimeGeneration now =>
        simp only [step, lifecycleStep] at hmoved hrow
        cases hok : store.finalizeSessionRecoveryRevocation row.pubkey runtimeGeneration now with
        | error error =>
            rw [hok] at hmoved
            exact absurd rfl hmoved
        | ok result =>
            obtain ⟨answer, after⟩ := result
            rw [hok] at hmoved hrow
            -- a revocation deletes the locators, so the row cannot be left
            rcases finalizeSessionRecoveryRevocation_spec hok with ⟨_, rfl⟩ | ⟨_, hdeleted, _⟩
            · exact absurd rfl hmoved
            · rw [commit_ok, hdeleted] at hrow
              simp [Table.deleteWhere] at hrow

/-- A step keeps the generations behind process ids unended exactly when it strands
none. -/
theorem step_pidLocators_notEnded_iff (hcurrent : store.PidLocatorsServe Session.NotEnded) :
    (store.step op).PidLocatorsServe Session.NotEnded ↔ ¬ op.StrandsPid store := by
  constructor
  · intro hafter hop
    obtain ⟨row, hmem, hpid, hrecorded, next, hnext, hstopped⟩ := strandsPid_step hop
    exact not_serves hrecorded hnext (Or.inr (fun hlive => hlive hstopped)) (hafter row hmem hpid)
  · intro hkeeps row hrow hpid
    by_cases hrecorded : row.runtimeGeneration = 0
    · exact Or.inl hrecorded
    rcases mem_step_pidLocator hrow hpid with hold | ⟨session, hsession, hgeneration, rfl, hok⟩
    · rcases hcurrent row hold hpid with hdurable | ⟨session, hsession, hgeneration, hlive⟩
      · exact Or.inl hdurable
      · obtain ⟨next, hnext, hchange⟩ := step_session op hsession
        refine Or.inr ⟨next, hnext, ?_, ?_⟩
        · rcases hchange with rfl | hrewrites
          · exact hgeneration
          · by_contra hne
            have hnew : next.runtimeGeneration ≠ session.runtimeGeneration :=
              fun heq => hne (hgeneration.trans heq.symm)
            exact hlive (StoreOp.rewrites_runtimeGeneration hrewrites hnew).1
        · intro hstopped
          exact hkeeps (strandsPid_of_stopped hold hpid hrecorded hrow hsession hlive hnext hstopped)
    · have hlive : session.NotEnded := by
        intro hstopped
        exact hkeeps ⟨hpid.1, hpid.2, hok, session, hsession, hgeneration ▸ hrecorded, hstopped⟩
      obtain ⟨next, hnext, hchange⟩ := step_session
        (.locator (.putSessionLocator row.harness row.locatorKind row.locatorValue row.pubkey
          row.createdAt)) hsession
      refine Or.inr ⟨next, hnext, ?_⟩
      rcases hchange with rfl | hsame
      · exact ⟨hgeneration, hlive⟩
      · refine ⟨hgeneration.trans (Session.SameLifecycle.runtimeGeneration hsame).symm, ?_⟩
        intro hstopped
        exact hlive ((Session.SameLifecycle.runtimeState hsame).symm.trans hstopped)

end Store

/-! ## Runs -/

/-- The rows of process ids were all migrated from a database without generations. -/
def Store.Migrated (store : Store) : Prop :=
  ∀ row ∈ store.sessionLocators.rows, row.IsPid → row.runtimeGeneration = 0

theorem Store.Migrated.serve {store : Store} (hstart : store.Migrated) (P : Session → Prop) :
    store.PidLocatorsServe P :=
  fun row hmem hpid => Or.inl (hstart row hmem hpid)

/-- Whatever else the database holds, the lookups are fenced when the rows of
process ids serve. -/
theorem forall_lookupsFenced_iff {names : PublicNames} {P : Session → Prop} {store : Store}
    (hP : ∀ session : Session, session.runtimeState = .running → P session) :
    (∀ db : Database, db.store = store → db.LookupsFenced names P) ↔
      store.PidLocatorsServe P := by
  constructor
  · intro hall
    exact (Database.lookupsFenced_iff hP).mp (hall { Database.empty with store := store } rfl)
  · rintro hserve db rfl
    exact (Database.lookupsFenced_iff hP).mpr hserve

/-- In the runs of the store, no lookup by a runtime locator crosses a generation
exactly when no step begins a generation of a pubkey that still holds a process id;
and none of them answers with a generation that has ended exactly when no step
leaves a process id with an ended generation. -/
theorem run_lookupsFenced_iff (names : PublicNames) {start : Store} (hstart : start.Migrated)
    (ops : List StoreOp) :
    ((∀ elapsed, elapsed <+: ops → ∀ db : Database, db.store = run Store.step start elapsed →
        db.LookupsFenced names (fun _ => True)) ↔
      Guarded Store.step (fun store op => ¬ op.OutdatesPid store) start ops) ∧
    ((∀ elapsed, elapsed <+: ops → ∀ db : Database, db.store = run Store.step start elapsed →
        db.LookupsFenced names Session.NotEnded) ↔
      Guarded Store.step (fun store op => ¬ op.StrandsPid store) start ops) := by
  have hinputs : ∀ op ∈ ops, (fun _ : StoreOp => True) op := fun _ _ => trivial
  have hlive : ∀ session : Session, session.runtimeState = .running → session.NotEnded := by
    intro session hrunning hstopped
    rw [hrunning] at hstopped
    cases hstopped
  constructor
  · simp only [forall_lookupsFenced_iff (P := fun _ => True) (fun _ _ => trivial)]
    exact forall_prefix_iff_guarded (I := fun store : Store => store.PidLocatorsServe _)
      (J := fun _ => True) hinputs (hstart.serve _) trivial (fun _ _ _ _ => trivial)
      (fun _ _ _ _ hcurrent => Store.step_pidLocators_current_iff hcurrent)
  · simp only [forall_lookupsFenced_iff hlive]
    exact forall_prefix_iff_guarded (I := fun store : Store => store.PidLocatorsServe _)
      (J := fun _ => True) hinputs (hstart.serve _) trivial (fun _ _ _ _ => trivial)
      (fun _ _ _ _ hcurrent => Store.step_pidLocators_notEnded_iff hcurrent)

/-- A watched process whose locator is cleared before its session stops. -/
def clearedPidRun : List StoreOp :=
  [launchOf "pk-one" 1,
    .locator (.putSessionLocator "codex" "pid" "4242" "pk-one" 2),
    .locator (.clearSessionLocatorKind "pk-one" "codex" "pid"),
    .lifecycle (.markRuntimeStoppedIfGeneration "pk-one" 1 .headlessExit 3),
    launchOf "pk-one" 4]

/-- The database after that run. -/
def clearedPidDatabase : Database :=
  { Database.empty with store := run Store.step Store.empty clearedPidRun }

/-- A caller is known by its locators only. -/
def noPublicNames : PublicNames where
  normalizePubkey := fun _ => none
  resolvePublicSession := fun _ _ => .ok none

theorem run_lookupsFenced_iff_cleared :
    clearedPidDatabase.LookupsFenced noPublicNames Session.NotEnded := by
  have hmigrated : Store.empty.Migrated := by
    intro row hrow
    cases hrow
  have hrunning : ∀ row, (run Store.step Store.empty [launchOf "pk-one" 1]).getSession "pk-one" =
      some row → row.runtimeState ≠ .stopped := by decide
  have hcleared : (run Store.step Store.empty (clearedPidRun.take 3)).sessionLocators.rows = [] := by
    decide
  refine (run_lookupsFenced_iff noPublicNames hmigrated clearedPidRun).2.mpr ?_ clearedPidRun
    (List.prefix_refl _) clearedPidDatabase rfl
  refine ⟨id, ?_, id, ?_, id, trivial⟩
  · rintro ⟨_, _, _, row, hrow, _, hstopped⟩
    exact hrunning row hrow hstopped
  · rintro ⟨⟨row, hmem, _⟩, _⟩
    have hmem' : row ∈ (run Store.step Store.empty
      (clearedPidRun.take 3)).sessionLocators.rows := hmem
    rw [hcleared] at hmem'
    cases hmem'

/-- A watched session stops and is launched again without a process id. -/
def relaunchedWithoutPid : List StoreOp :=
  [launchOf "pk-one" 1,
    .locator (.putSessionLocator "codex" "pid" "4242" "pk-one" 2),
    .lifecycle (.markRuntimeStoppedIfGeneration "pk-one" 1 .headlessExit 3),
    launchOf "pk-one" 4]

/-- The id then still leads to the pubkey, which is one generation further. -/
theorem lookupsFenced_not_reachable_invariant :
    ¬ ∀ (names : PublicNames) (ops : List StoreOp) (db : Database),
      db.store = run Store.step Store.empty ops → db.LookupsFenced names (fun _ => True) := by
  intro hall
  have hfenced := hall noPublicNames relaunchedWithoutPid
    { Database.empty with store := run Store.step Store.empty relaunchedWithoutPid } rfl
  have hserve := (Database.lookupsFenced_iff (P := fun _ => True) (fun _ _ => trivial)).mp hfenced
  have hrow : (⟨"codex", "pid", "4242", "pk-one", 1, 2⟩ : SessionLocator) ∈
      (run Store.step Store.empty relaunchedWithoutPid).sessionLocators.rows := by decide
  have hpid : (⟨"codex", "pid", "4242", "pk-one", 1, 2⟩ : SessionLocator).IsPid :=
    ⟨rfl, 4242, by decide⟩
  have hgeneration : ∀ session, (run Store.step Store.empty relaunchedWithoutPid).getSession
      "pk-one" = some session → session.runtimeGeneration = 2 := by decide
  rcases hserve _ hrow hpid with hdurable | ⟨session, hsession, hrecorded, _⟩
  · cases hdurable
  · rw [hgeneration session hsession] at hrecorded
    cases hrecorded

end Mosaico
