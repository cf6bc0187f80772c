import Mosaico.Lifecycle.Endings

/-!
# Confirmed ends are final

A generation that is over stays over, whatever anybody does.  So an answer that
confirms the end of a generation is final when it is right at the moment it is
given, and it is right when the stop it answers for met the generation where the
snapshot had found it: not moved between running and stopping by an eviction.
-/

namespace Mosaico

open Relational Transition Concurrent

/-- The generation of a snapshot is where the step expects it, unless it is over. -/
def EndLabel.Undisturbed : EndLabel → Store → Prop
  | .other, _ => True
  | .reportEnd session, store => ∀ row, store.getSession session.pubkey = some row →
      row.runtimeGeneration = session.runtimeGeneration → row.runtimeState ≠ .stopped →
      row.runtimeState = session.runtimeState ∧
        (session.runtimeState = .stopping → row.lifecycleEpoch = session.lifecycleEpoch)
  | .killEnd session, store => ∀ row, store.getSession session.pubkey = some row →
      row.runtimeGeneration = session.runtimeGeneration → row.runtimeState ≠ .stopping

instance : ∀ (label : EndLabel) (store : Store), Decidable (label.Undisturbed store)
  | .other, _ => inferInstanceAs (Decidable True)
  | .reportEnd session, store => inferInstanceAs (Decidable (∀ row,
      store.getSession session.pubkey = some row →
        row.runtimeGeneration = session.runtimeGeneration → row.runtimeState ≠ .stopped →
        row.runtimeState = session.runtimeState ∧
          (session.runtimeState = .stopping → row.lifecycleEpoch = session.lifecycleEpoch)))
  | .killEnd session, store => inferInstanceAs (Decidable (∀ row,
      store.getSession session.pubkey = some row →
        row.runtimeGeneration = session.runtimeGeneration → row.runtimeState ≠ .stopping))

/-- The generation whose end an answer confirms.  An exit report is deleted when
`supervisor_exited` returns `Ok`, whatever the value. -/
def EndAnswer.confirmedEnd : EndAnswer → Option (String × Nat)
  | .supervisorExited (some session) (.ok _) => some (session.pubkey, session.runtimeGeneration)
  | .sessionKill session true => some (session.pubkey, session.runtimeGeneration)
  | _ => none

/-- What an answer says about the generation it confirms the end of. -/
def EndAnswer.Confirmed : EndAnswer → Store → Prop
  | .supervisorExited (some session) (.ok _), store =>
      store.Ended session.pubkey session.runtimeGeneration
  | .sessionKill session true, store => store.Ended session.pubkey session.runtimeGeneration
  | _, _ => True

theorem EndAnswer.Confirmed.later {answer : EndAnswer} {before after : Store}
    (hlater : before.Precedes after) (hconfirmed : answer.Confirmed before) :
    answer.Confirmed after := by
  unfold EndAnswer.Confirmed at *
  split
  · exact hconfirmed.later hlater
  · exact hconfirmed.later hlater
  · trivial

theorem EndAnswer.Confirmed.ended {answer : EndAnswer} {store : Store} {pubkey : String}
    {generation : Nat} (hconfirmed : answer.Confirmed store)
    (hend : answer.confirmedEnd = some (pubkey, generation)) : store.Ended pubkey generation := by
  unfold EndAnswer.confirmedEnd at hend
  split at hend
  · cases hend
    exact hconfirmed
  · cases hend
    exact hconfirmed
  · cases hend

namespace EndTask

/-- From this store on, an undisturbed run of the task confirms only what is over. -/
def Final (task : EndTask) (store : Store) : Prop :=
  task.Meets (fun store => store.sessions.All Session.LifecycleInvariant) Store.Precedes
    EndLabel.Undisturbed EndAnswer.Confirmed store

/-! ## Rules -/

variable {label : EndLabel} {store : Store} {session : Session}

/-- A store operation of a task is one of the operations of the store. -/
theorem final_attempt {β : Type}
    {operation : Reply → Store → Except StoreError (β × Store)} {rest : Except StoreError β → EndTask}
    (op : Reply → StoreOp)
    (hop : ∀ reply current, commit (operation reply current) current = current.step (op reply))
    (hrest : ∀ current, store.Precedes current →
      current.sessions.All Session.LifecycleInvariant → label.Undisturbed current →
      ∀ reply value after, operation reply current = .ok (value, after) →
        current.Precedes after → (rest (.ok value)).Final after)
    (herror : ∀ current error, store.Precedes current → (rest (.error error)).Final current) :
    Final (.attempt label operation rest) store := by
  apply Task.meets_attempt Store.Precedes.refl
  · intro current hlater hinvariant hlabel reply value after hok
    have hafter : after = current.step (op reply) := by
      rw [← hop, hok, commit_ok]
    have hprecedes : current.Precedes after := hafter ▸ Store.step_precedes current (op reply)
    refine ⟨?_, hprecedes, hrest current hlater hinvariant hlabel reply value after hok hprecedes⟩
    rw [hafter]
    exact Store.step_lifecycleInvariant (op reply) hinvariant
  · intro current hlater _ error
    exact herror current error hlater

theorem final_read {β : Type} {query : Reply → Store → β} {rest : β → EndTask}
    (hrest : ∀ current, store.Precedes current →
      current.sessions.All Session.LifecycleInvariant → ∀ reply,
        (rest (query reply current)).Final current) :
    Final (.read label query rest) store :=
  Task.meets_read Store.Precedes.refl
    (fun current hlater hinvariant _ reply => hrest current hlater hinvariant reply)

/-- A task that is final from every later store may follow an operation whose
result does not matter. -/
theorem final_attempt_any {β : Type}
    {operation : Reply → Store → Except StoreError (β × Store)} {rest : Except StoreError β → EndTask}
    (op : Reply → StoreOp)
    (hop : ∀ reply current, commit (operation reply current) current = current.step (op reply))
    (hrest : ∀ result later, store.Precedes later → (rest result).Final later) :
    Final (.attempt label operation rest) store :=
  final_attempt op hop
    (fun _ hlater _ _ _ value _ _ hafter => hrest (.ok value) _ (hlater.trans hafter))
    (fun _ error hlater => hrest (.error error) _ hlater)

theorem final_clearRuntimeLocator {locatorKind : String} {rest : Except StoreError Bool → EndTask}
    (hrest : ∀ result later, store.Precedes later → (rest result).Final later) :
    (clearRuntimeLocator session locatorKind rest).Final store :=
  final_attempt_any (fun reply => .locator (.clearRuntimeLocatorIfGeneration session.pubkey
    locatorKind session.runtimeGeneration reply.now)) (fun _ _ => rfl) hrest

/-! ## Stops -/

/-- The stop of a generation that is over or running ends it. -/
theorem final_stopGeneration {reason : StopReason}
    {stoppedAt : Reply → Nat} {rest : Except EndError Bool → EndTask}
    (hlive : ∀ current, store.Precedes current →
      current.sessions.All Session.LifecycleInvariant → label.Undisturbed current →
      current.Ended session.pubkey session.runtimeGeneration ∨
        ∃ row, current.sessions.find? session.pubkey = some row ∧
          Store.isRunningGeneration session.pubkey session.runtimeGeneration row)
    (hrest : ∀ stopped later, later.Ended session.pubkey session.runtimeGeneration →
      (rest (.ok stopped)).Final later)
    (herror : ∀ error later, store.Precedes later → (rest (.error error)).Final later) :
    (stopGeneration label session reason stoppedAt rest).Final store := by
  apply final_attempt (fun reply => .lifecycle (.markRuntimeStoppedIfGeneration session.pubkey
    session.runtimeGeneration reason (stoppedAt reply))) (fun _ _ => rfl)
  · intro current hlater hinvariant hlabel reply changed after hok hafter
    have hended : after.Ended session.pubkey session.runtimeGeneration := by
      rcases Store.markRuntimeStoppedIfGeneration_spec hok with
        ⟨_, row, hfind, hrunning, hstopped⟩ | ⟨_, hnone, _⟩
      · exact ⟨_, hstopped, Or.inr ⟨hrunning.2.1, rfl⟩⟩
      · rcases hlive current hlater hinvariant hlabel with hended | ⟨row, hfind, hrunning⟩
        · exact hended.later hafter
        · exact absurd hrunning (hnone row hfind)
    cases changed with
    | false => exact hrest false after hended
    | true =>
        apply final_read
        intro read hread _ _
        have hlaterEnd := hended.later hread
        split
        · exact herror _ read ((hlater.trans hafter).trans hread)
        · exact hrest true read hlaterEnd
  · intro current error hlater
    exact herror (.store error) current hlater

/-- A snapshot of a running session was taken before the current row. -/
theorem ended_or_running {current : Store}
    (hsession : store.getSession session.pubkey = some session) (hlater : store.Precedes current)
    (hstate : ∀ row, current.getSession session.pubkey = some row →
      row.runtimeGeneration = session.runtimeGeneration → row.runtimeState ≠ .stopped →
      row.runtimeState = .running) :
    current.Ended session.pubkey session.runtimeGeneration ∨
      ∃ row, current.sessions.find? session.pubkey = some row ∧
        Store.isRunningGeneration session.pubkey session.runtimeGeneration row := by
  obtain ⟨row, hrow, hprecedes⟩ := hlater session.pubkey session hsession
  rcases hprecedes with hless | ⟨heq, _⟩
  · exact Or.inl ⟨row, hrow, Or.inl hless⟩
  · by_cases hstopped : row.runtimeState = .stopped
    · exact Or.inl ⟨row, hrow, Or.inr ⟨heq.symm, hstopped⟩⟩
    · exact Or.inr ⟨row, hrow, Table.key_of_find? hrow, heq.symm,
        hstate row hrow heq.symm hstopped⟩

/-! ## Exit reports -/

theorem final_clearAndReturn {stopped : Bool}
    (hended : store.Ended session.pubkey session.runtimeGeneration) :
    (clearAndReturn session stopped).Final store := by
  apply final_clearRuntimeLocator
  intro result later hlater
  cases result with
  | error error => trivial
  | ok removed => exact hended.later hlater

theorem getSession_of_report {locatorKind locatorValue : String}
    (hok : store.sessionForRuntimeLocator locatorKind locatorValue = .ok (some session)) :
    store.getSession session.pubkey = some session := by
  simp only [Store.sessionForRuntimeLocator, bind_eq_ok] at hok
  obtain ⟨_, _, hok⟩ := hok
  split at hok
  · cases hok
  · simp only [pure_eq_ok, Option.filter_eq_some_iff, decide_eq_true_eq] at hok
    have hkey : session.pubkey = _ := Table.key_of_find? hok.1
    rw [hkey]
    exact hok.1

/-- A report that finalizes the eviction of its snapshot ends the generation. -/
theorem final_finalize {exitedAt : Nat} (hsession : store.getSession session.pubkey = some session)
    (hstopping : session.runtimeState = .stopping) :
    Final (.attempt (.reportEnd session) (fun _ current => current.finalizeRuntimeStoppedIfEpoch
        session.pubkey session.runtimeGeneration session.lifecycleEpoch .idleEvicted exitedAt) fun
      | .error error => .done (.supervisorExited (some session) (.error (.store error)))
      | .ok stopped => clearAndReturn session stopped.isSome) store := by
  apply final_attempt (fun _ => .lifecycle (.finalizeRuntimeStoppedIfEpoch session.pubkey
    session.runtimeGeneration session.lifecycleEpoch .idleEvicted exitedAt)) (fun _ _ => rfl)
  · intro current hlater _ hlabel _ stopped after hok hafter
    apply final_clearAndReturn
    rcases Store.finalizeRuntimeStoppedIfEpoch_spec hok with
      ⟨row, _, hrow, _, hstopped⟩ | ⟨_, rfl, hnone⟩
    · exact ⟨_, hstopped, Or.inr ⟨hrow.2.1, rfl⟩⟩
    · obtain ⟨row, hrow, hprecedes⟩ := hlater session.pubkey session hsession
      rcases hprecedes with hless | ⟨heq, _⟩
      · exact ⟨row, hrow, Or.inl hless⟩
      · by_cases hstopped : row.runtimeState = .stopped
        · exact ⟨row, hrow, Or.inr ⟨heq.symm, hstopped⟩⟩
        · obtain ⟨hstate, hepoch⟩ := hlabel row hrow heq.symm hstopped
          exact absurd ⟨Table.key_of_find? hrow, heq.symm, hstate.trans hstopping,
            hepoch hstopping⟩ (hnone row hrow)
  · intro current error _
    trivial

theorem final_supervisorExited (ptyId : String) (childSuccess : Option Bool)
    (presentation : PresentationSnapshot) (exitedAt : Nat) (store : Store) :
    (supervisorExited ptyId childSuccess presentation exitedAt).Final store := by
  apply final_read
  intro current _ hinvariant _
  split
  · trivial
  · trivial
  · rename_i session hok
    have hsession := getSession_of_report hok
    split
    · rename_i hstopping
      exact final_finalize hsession hstopping.1
    · rename_i hnotEvicted
      split
      · rename_i hstopped
        exact final_clearAndReturn ⟨session, hsession, Or.inr ⟨rfl, hstopped⟩⟩
      · rename_i hnotStopped
        -- a stopping session is always marked as evicted, so this one runs
        have hrunning : session.runtimeState = .running := by
          cases hstate : session.runtimeState with
          | running => rfl
          | stopped => exact absurd hstate hnotStopped
          | stopping =>
              have hrow := hinvariant.find? hsession
              exact absurd ⟨hstate, (hrow.stopping hstate).2.2.2⟩ hnotEvicted
        apply final_stopGeneration
        · intro later hlater _ hlabel
          apply ended_or_running hsession hlater
          intro row hrow heq hnot
          exact (hlabel row hrow heq hnot).1.trans hrunning
        · intro stopped later hended
          exact final_clearAndReturn hended
        · intro error later _
          trivial

/-! ## The explicit kill -/

theorem final_terminateExplicit {rest : Bool → EndTask}
    (hrest : ∀ confirmed later, store.Precedes later → (rest confirmed).Final later) :
    (terminateExplicit session rest).Final store := by
  unfold terminateExplicit
  split
  · exact hrest true store (Store.Precedes.refl store)
  · apply final_read
    intro current hlater _ _
    split
    · exact hrest false current hlater
    · exact hrest false current hlater
    · apply final_read
      intro confirmed hconfirmed _ _
      exact hrest _ confirmed (hlater.trans hconfirmed)
    · apply final_read
      intro confirmed hconfirmed _ _
      split
      · exact hrest false confirmed (hlater.trans hconfirmed)
      · apply final_clearRuntimeLocator
        intro result cleared hcleared
        have hall := (hlater.trans hconfirmed).trans hcleared
        cases result with
        | error error => exact hrest false cleared hall
        | ok removed => exact hrest true cleared hall

theorem final_revokeCurrentGeneration {pubkey : String} {rest : Session → EndTask}
    (hrest : ∀ session store, (rest session).Final store) (attempts : Nat) (store : Store) :
    (revokeCurrentGeneration pubkey rest attempts).Final store := by
  induction attempts generalizing store with
  | zero => trivial
  | succ attempts ih =>
      apply final_read
      intro current _ _ _
      split
      · trivial
      · rename_i row _
        apply final_attempt_any (fun _ => .lifecycle (.revokeSessionRecoveryIfGeneration pubkey
          row.runtimeGeneration)) (fun _ _ => rfl)
        intro result later _
        split
        · trivial
        · exact ih later
        · apply final_read
          intro fenced _ _ _
          split
          · trivial
          · split
            · exact hrest _ fenced
            · exact ih fenced

theorem final_forgetSession (pubkey : String) (attempts : Nat) (store : Store) :
    (forgetSession pubkey attempts).Final store := by
  apply final_revokeCurrentGeneration
  intro session current
  apply final_terminateExplicit
  intro confirmed later _
  cases confirmed with
  | false => trivial
  | true =>
      apply final_attempt (fun reply => .lifecycle (.finalizeSessionRecoveryRevocation
        session.pubkey session.runtimeGeneration reply.now)) (fun _ _ => rfl)
      · intro before _ _ _ reply finalized after hok _
        rcases Store.finalizeSessionRecoveryRevocation_spec hok with
          ⟨rfl, _⟩ | ⟨rfl, _, row, _, hgeneration, hstopped⟩
        · trivial
        · exact ⟨_, hstopped, Or.inr ⟨hgeneration, rfl⟩⟩
      · intro _ error _
        trivial

theorem final_sessionKill (pubkey : String) (forget : Bool) (attempts : Nat) (store : Store) :
    (sessionKill pubkey forget attempts).Final store := by
  apply final_read
  intro current _ _ _
  split
  · trivial
  · rename_i session hfound
    have hkey : session.pubkey = pubkey := Table.key_of_find? hfound
    have hsession : current.getSession session.pubkey = some session := hkey ▸ hfound
    split
    · exact final_forgetSession session.pubkey attempts current
    · apply final_terminateExplicit
      intro confirmed later hlater
      cases confirmed with
      | false => trivial
      | true =>
          apply final_stopGeneration
          · intro stopping hstopping _ hlabel
            apply ended_or_running hsession (hlater.trans hstopping)
            intro row hrow heq hnot
            cases hstate : row.runtimeState with
            | running => rfl
            | stopping => exact absurd hstate (hlabel row hrow heq)
            | stopped => exact absurd hstate hnot
          · intro stopped ended hended
            cases stopped with
            | true => exact hended
            | false =>
                apply final_read
                intro answer hanswer _ _
                have hover := hended.later hanswer
                generalize Option.any _ _ = confirmed
                cases confirmed with
                | false => trivial
                | true => exact hover
          · intro error ended _
            trivial

/-! ## Rounds of the coordinator

They confirm nothing, so only the operations they apply matter. -/

theorem final_recordControlUnavailable {rest : Except StoreError Bool → EndTask}
    (hrest : ∀ result later, (rest result).Final later) :
    (recordControlUnavailable session rest).Final store := by
  unfold recordControlUnavailable
  split
  · exact final_attempt_any (fun reply => .lifecycle (.markSessionPresentationUnavailable
      session.pubkey session.runtimeGeneration session.attachmentEpoch reply.now))
      (fun _ _ => rfl) (fun result later _ => hrest result later)
  · exact final_attempt_any (fun reply => .lifecycle (.cancelIdleEvictionOnPresentationChange
      session.pubkey session.runtimeGeneration session.lifecycleEpoch session.attachmentEpoch
      .unavailable reply.now)) (fun _ _ => rfl) (fun result later _ => hrest result later)
  · exact hrest _ store

theorem final_applyPresentation {snapshot : PresentationSnapshot}
    {rest : Except StoreError Bool → EndTask} (hrest : ∀ result later, (rest result).Final later) :
    (applyPresentation session snapshot rest).Final store := by
  unfold applyPresentation
  extract_lets presentation
  split
  · exact final_attempt_any (fun _ => .lifecycle (.applySessionPresentationEdge session.pubkey
      session.runtimeGeneration snapshot.attachmentEpoch presentation snapshot.changedAt))
      (fun _ _ => rfl) (fun result later _ => hrest result later)
  · exact final_attempt_any (fun _ => .lifecycle (.cancelIdleEvictionOnPresentationChange
      session.pubkey session.runtimeGeneration session.lifecycleEpoch snapshot.attachmentEpoch
      presentation snapshot.changedAt))
      (fun _ _ => rfl) (fun result later _ => hrest result later)
  · exact hrest _ store

theorem final_ensureNotStuckStopping (session : Session) (store : Store) :
    (ensureNotStuckStopping session).Final store :=
  final_read (fun _ _ _ _ => trivial)

theorem final_finalizeEviction (stopping : Session) (locatorKind : Option String)
    (store : Store) : (finalizeEviction stopping locatorKind).Final store := by
  apply final_attempt_any (fun reply => .lifecycle (.finalizeRuntimeStoppedIfEpoch
    stopping.pubkey stopping.runtimeGeneration stopping.lifecycleEpoch .idleEvicted reply.now))
    (fun _ _ => rfl)
  intro result later _
  split
  · trivial
  · trivial
  · exact final_clearRuntimeLocator (fun _ _ _ => trivial)

theorem final_finishIdleEviction (stopping : Session) (store : Store) :
    (finishIdleEviction stopping).Final store := by
  have hrecorded : ∀ later, Final (recordControlUnavailable stopping
      fun _ => ensureNotStuckStopping stopping) later := fun later =>
    final_recordControlUnavailable (fun _ => final_ensureNotStuckStopping stopping)
  apply final_read
  intro current _ _ _
  split
  · exact final_ensureNotStuckStopping stopping current
  · apply final_read
    intro killed _ _ _
    split
    · exact final_finalizeEviction stopping _ killed
    · apply final_applyPresentation
      intro result later
      split
      · trivial
      · exact final_ensureNotStuckStopping stopping later
    · exact hrecorded killed
  · apply final_read
    intro closed _ _ _
    split
    · exact final_finalizeEviction stopping _ closed
    · exact final_ensureNotStuckStopping stopping closed
  · exact hrecorded current
  · apply final_read
    intro probed _ _ _
    split
    · exact hrecorded probed
    · exact final_finalizeEviction stopping none probed

theorem final_evictOne (pubkey : String) (store : Store) : (evictOne pubkey).Final store := by
  apply final_read
  intro current _ _ _
  split
  · trivial
  · rename_i candidate _
    apply final_attempt_any (fun reply => .lifecycle (.reserveDueIdleEviction candidate.pubkey
      candidate.runtimeGeneration candidate.lifecycleEpoch candidate.attachmentEpoch reply.now))
      (fun _ _ => rfl)
    intro result later _
    split
    · exact final_finishIdleEviction _ later
    · trivial

theorem final_reconcileStopping (pubkey : String) (store : Store) :
    (reconcileStopping pubkey).Final store := by
  apply final_read
  intro current _ _ _
  split
  · trivial
  · exact final_finishIdleEviction _ current

theorem final_presentationChanged (ptyId : String) (presentation : PresentationSnapshot)
    (store : Store) : (presentationChanged ptyId presentation).Final store := by
  apply final_read
  intro current _ _ _
  split
  · exact final_applyPresentation (fun _ _ => trivial)
  · trivial

theorem final_reconcilePresentation (pubkey : String) (store : Store) :
    (reconcilePresentation pubkey).Final store := by
  apply final_read
  intro current _ _ _
  split
  · trivial
  · rename_i session _
    apply final_read
    intro listed _ _ _
    dsimp only
    split
    · apply final_read
      intro probed _ _ _
      split
      · exact final_applyPresentation (fun _ _ => trivial)
      · exact final_recordControlUnavailable (fun _ _ => trivial)
      · apply final_attempt_any (fun reply => .lifecycle (.markRuntimeStoppedIfGeneration
          session.pubkey session.runtimeGeneration .crash reply.now)) (fun _ _ => rfl)
        intro result later _
        split
        · trivial
        · trivial
        · apply final_read
          intro _ _ _ _
          split
          · trivial
          · trivial
    · split
      · exact final_attempt_any (fun reply => .lifecycle (.applySessionPresentationEdge
          session.pubkey session.runtimeGeneration
          (Rust.saturatingAdd session.attachmentEpoch 1) .headless reply.now))
          (fun _ _ => rfl) (fun _ _ _ => trivial)
      · trivial

theorem final_task (request : EndRequest) (store : Store) : request.task.Final store := by
  cases request with
  | supervisorExited ptyId childSuccess presentation exitedAt =>
      exact final_supervisorExited ptyId childSuccess presentation exitedAt store
  | sessionKill pubkey forget attempts => exact final_sessionKill pubkey forget attempts store
  | evictOne pubkey => exact final_evictOne pubkey store
  | reconcileStopping pubkey => exact final_reconcileStopping pubkey store
  | presentationChanged ptyId presentation =>
      exact final_presentationChanged ptyId presentation store
  | reconcilePresentation pubkey => exact final_reconcilePresentation pubkey store

end EndTask

/-! ## Every run -/

theorem endStep_sound {pool : Pool EndLabel Store Reply EndAnswer} {events : List EndEvent}
    (hsound : pool.Sound (fun store => store.sessions.All Session.LifecycleInvariant)
      Store.Precedes EndLabel.Undisturbed EndAnswer.Confirmed)
    (hundisturbed : Guarded endStep (Pool.Passes EndLabel.Undisturbed) pool events) :
    (run endStep pool events).Sound (fun store => store.sessions.All Session.LifecycleInvariant)
      Store.Precedes EndLabel.Undisturbed EndAnswer.Confirmed :=
  hsound.run Store.Precedes.refl Store.Precedes.trans
    (fun _ _ _ hlater hconfirmed => hconfirmed.later hlater)
    (fun store op hinvariant =>
      ⟨Store.step_lifecycleInvariant op hinvariant, Store.step_precedes store op⟩)
    (fun request store _ => EndTask.final_task request store) hundisturbed

/-- In a run whose stops are undisturbed, a generation whose end an answer confirms
is over when the answer is given and in every state after. -/
theorem confirmed_end_is_final {elapsed later : List EndEvent} {answer : EndAnswer}
    {pubkey : String} {generation : Nat}
    (hundisturbed : Guarded endStep (Pool.Passes EndLabel.Undisturbed) (.fresh Store.empty)
      (elapsed ++ later))
    (hanswer : (run endStep (.fresh Store.empty) elapsed).Answered answer)
    (hend : answer.confirmedEnd = some (pubkey, generation)) :
    (run endStep (.fresh Store.empty) elapsed).shared.Ended pubkey generation ∧
      (run endStep (.fresh Store.empty) (elapsed ++ later)).shared.Ended pubkey generation := by
  have hempty : Store.empty.sessions.All Session.LifecycleInvariant := Table.all_empty _
  constructor
  · have hsound := endStep_sound (.fresh hempty) (guarded_append.mp hundisturbed).1
    exact (hsound.answer hanswer).ended hend
  · have hsound := endStep_sound (.fresh hempty) hundisturbed
    rw [run_append] at hsound ⊢
    exact (hsound.answer (hanswer.run later)).ended hend

/-- A reply at `now` of a supervisor that cannot be reached, and of a process that
exits when it is told to. -/
def unreachableAt (now : Nat) : Reply :=
  { now := now
    conditionalKill := none
    exitConfirmed := true
    processAlive := true
    observation := none }

/-- A session on a terminal that nobody is attached to. -/
def headlessSession : List EndEvent :=
  [.interfere (launchOf "pk" 1),
    .interfere (.locator (.putSessionLocator "codex" locatorPty "pty-1" "pk" 2)),
    .interfere (.lifecycle (.applySessionPresentationEdge "pk" 1 1 .headless 3))]

/-- The generation that some answer of the pool confirms the end of. -/
def confirmedEndAt (pool : Pool EndLabel Store Reply EndAnswer) (index : Nat) :
    Option (String × Nat) :=
  (pool.tasks[index]?.bind Task.answer?).bind EndAnswer.confirmedEnd

theorem exists_answer_of_confirmedEndAt {pool : Pool EndLabel Store Reply EndAnswer}
    {index : Nat} {confirmed : String × Nat} (hend : confirmedEndAt pool index = some confirmed) :
    ∃ answer, pool.Answered answer ∧ answer.confirmedEnd = some confirmed := by
  obtain ⟨answer, hanswer, hconfirmed⟩ := Option.bind_eq_some_iff.mp hend
  exact ⟨answer, Pool.answered_of_answer? hanswer, hconfirmed⟩

/-- The supervisor reports its exit before the idle deadline, and the session is
killed and launched again. -/
theorem confirmed_end_is_final_exited :
    (run endStep (.fresh Store.empty) (headlessSession ++
      [.spawn (.supervisorExited "pty-1" (some true) ⟨0, 1, 3⟩ 5)] ++
      List.replicate 4 (.advance 0 (unreachableAt 5)) ++
      [.spawn (.sessionKill "pk" false 0), .advance 1 (unreachableAt 6),
        .interfere (launchOf "pk" 7)])).shared.Ended "pk" 1 := by
  have hanswered : confirmedEndAt (run endStep (.fresh Store.empty) (headlessSession ++
      [.spawn (.supervisorExited "pty-1" (some true) ⟨0, 1, 3⟩ 5)] ++
      List.replicate 4 (.advance 0 (unreachableAt 5)))) 0 = some ("pk", 1) := by
    decide +kernel
  obtain ⟨answer, hanswer, hend⟩ := exists_answer_of_confirmedEndAt hanswered
  exact (confirmed_end_is_final (by decide +kernel) hanswer hend).2

/-- The eviction reserves the idle session; the operator kills it, which clears its
locator; its stop finds no running row, and the row that is not running is reported
as ended; the eviction finds no endpoint and takes its reservation back. -/
def ghostRun : List EndEvent :=
  headlessSession ++
    .spawn (.evictOne "pk") :: List.replicate 2 (.advance 0 (unreachableAt 603)) ++
    .spawn (.sessionKill "pk" false 0) :: List.replicate 6 (.advance 1 (unreachableAt 604)) ++
    List.replicate 2 (.advance 0 (unreachableAt 605))

/-- The killed generation runs again. -/
theorem confirmed_end_not_final :
    ¬ ∀ (elapsed later : List EndEvent) (answer : EndAnswer) (pubkey : String)
        (generation : Nat),
      (run endStep (.fresh Store.empty) elapsed).Answered answer →
      answer.confirmedEnd = some (pubkey, generation) →
      (run endStep (.fresh Store.empty) (elapsed ++ later)).shared.Ended pubkey generation := by
  intro hclaim
  have hanswered : confirmedEndAt (run endStep (.fresh Store.empty) ghostRun) 1 =
      some ("pk", 1) := by decide +kernel
  obtain ⟨answer, hanswer, hend⟩ := exists_answer_of_confirmedEndAt hanswered
  obtain ⟨row, hrow, hover⟩ := hclaim ghostRun [] answer "pk" 1 hanswer hend
  have hrunning : ∀ row,
      (run endStep (.fresh Store.empty) (ghostRun ++ [])).shared.getSession "pk" = some row →
        row.runtimeGeneration = 1 ∧ row.runtimeState = .running := by decide +kernel
  obtain ⟨hgeneration, hstate⟩ := hrunning row hrow
  rcases hover with hlater | ⟨_, hstopped⟩
  · omega
  · rw [hstate] at hstopped
    cases hstopped

end Mosaico
