import Mosaico.Runtime.Starts

/-!
# One engine serves a generation

An engine that was started for a generation serves it until its stop is requested:
the row runs in the generation and the engine map holds it.  Three steps of a start
decide whether that is so.  A start that takes a runtime for granted must have seen
the engine of its generation; an engine must be started for a generation that still
runs; and a guard must not stop a generation whose engine another start has started.
-/

namespace Mosaico

open Relational Transition Concurrent

/-- The row runs in the generation, and the engine map holds it. -/
structure DaemonState.Serving (state : DaemonState) (pubkey : String) (generation : Nat) :
    Prop where
  runs : state.store.RunsIn pubkey generation
  held : state.engines pubkey = some generation

/-! ## Conditions on a run -/

/-- The step of a start does what it is for. -/
def StartLabel.Orderly (pubkey : String) : StartLabel → DaemonState → Prop
  | .observe target observed, state =>
      target = pubkey → ∀ held, state.engines target = some held → held = observed
  | .startEngine target generation, state =>
      target = pubkey → state.StartsEngine target generation →
        state.store.RunsIn target generation
  | .release target generation, state =>
      target = pubkey → state.engines target ≠ some generation
  | .retire _ _, _ => True
  | .other, _ => True

instance (pubkey : String) : ∀ (label : StartLabel) (state : DaemonState),
    Decidable (label.Orderly pubkey state)
  | .observe target _, state => inferInstanceAs (Decidable (_ → ∀ held,
      state.engines target = some held → _))
  | .startEngine _ _, _ => inferInstanceAs (Decidable (_ → _ → _))
  | .release _ _, _ => inferInstanceAs (Decidable (_ → _))
  | .retire _ _, _ | .other, _ => inferInstanceAs (Decidable True)

/-- The event is no request to stop the generation, and no end of its engine. -/
def DaemonEvent.Spares (pubkey : String) (generation : Nat) : DaemonEvent → Prop
  | .store op => ¬ op.RequestsStop pubkey generation
  | .materialize _ => True
  | .engineExited target ended => ¬ (target = pubkey ∧ ended = generation)

instance (pubkey : String) (generation : Nat) :
    ∀ event : DaemonEvent, Decidable (event.Spares pubkey generation)
  | .store _ => inferInstanceAs (Decidable (¬ _))
  | .materialize _ => inferInstanceAs (Decidable True)
  | .engineExited _ _ => inferInstanceAs (Decidable (¬ _))

section Conditions

variable (env : StartEnvironment) (pubkey : String) (generation : Nat)

/-- No stop of the generation is requested in the run, not even by a start of
another session on its process id. -/
def NoStopRequested (events : List StartEvent) : Prop :=
  Guarded (startStep env) (fun pool event =>
    pool.Passes (fun label _ => label ≠ .retire pubkey generation) event ∧
      pool.Admits (fun _ event => event.Spares pubkey generation) event)
    (.fresh DaemonState.fresh) events

/-- Every step of the starts of this pubkey does what it is for. -/
def OrderlyStarts (events : List StartEvent) : Prop :=
  Guarded (startStep env) (Pool.Passes (StartLabel.Orderly pubkey)) (.fresh DaemonState.fresh)
    events

instance (events : List StartEvent) : Decidable (NoStopRequested env pubkey generation events) :=
  inferInstanceAs (Decidable (Guarded _ _ _ _))

instance (events : List StartEvent) : Decidable (OrderlyStarts env pubkey events) :=
  inferInstanceAs (Decidable (Guarded _ _ _ _))

end Conditions

/-! ## The invariant -/

/-- The engine of the generation was started at most once, the map holds it only
then, and from then on it serves. -/
structure DaemonState.EngineInvariant (pubkey : String) (generation : Nat)
    (state : DaemonState) : Prop where
  once : state.spawned.count (pubkey, generation) ≤ 1
  started : state.engines pubkey = some generation → (pubkey, generation) ∈ state.spawned
  serving : (pubkey, generation) ∈ state.spawned → state.Serving pubkey generation

/-- What a step of anybody does to the engines that were started. -/
def DaemonState.KeepsStarted (pubkey : String) (generation : Nat)
    (before after : DaemonState) : Prop :=
  (pubkey, generation) ∈ before.spawned → (pubkey, generation) ∈ after.spawned

/-- A start that succeeds in the generation leaves an engine behind. -/
def StartAnswer.EngineStarted (pubkey : String) (generation : Nat) (answer : StartAnswer)
    (state : DaemonState) : Prop :=
  answer = .started pubkey generation → (pubkey, generation) ∈ state.spawned

namespace DaemonState

variable {state : DaemonState} {pubkey : String} {generation : Nat}

theorem fresh_engineInvariant : fresh.EngineInvariant pubkey generation where
  once := by simp [fresh]
  started := by
    intro hheld
    cases hheld
  serving := by
    intro hstarted
    cases hstarted

/-- A change of the database in which the generation goes on. -/
theorem EngineInvariant.database {after : DaemonState}
    (hinvariant : state.EngineInvariant pubkey generation)
    (hengines : after.engines = state.engines) (hspawned : after.spawned = state.spawned)
    (hruns : (pubkey, generation) ∈ state.spawned → state.store.RunsIn pubkey generation →
      after.store.RunsIn pubkey generation) :
    after.EngineInvariant pubkey generation where
  once := by
    rw [hspawned]
    exact hinvariant.once
  started := by
    rw [hspawned, hengines]
    exact hinvariant.started
  serving := by
    rw [hspawned]
    intro hstarted
    have hserving := hinvariant.serving hstarted
    exact ⟨hruns hstarted hserving.runs, hengines ▸ hserving.held⟩

theorem EngineInvariant.step {op : StoreOp}
    (hinvariant : state.EngineInvariant pubkey generation)
    (hstop : ¬ op.RequestsStop pubkey generation) :
    (state.setStore (state.store.step op)).EngineInvariant pubkey generation :=
  hinvariant.database rfl rfl (fun _ hruns => hruns.step hstop)

/-- An engine is started for a generation that runs. -/
theorem EngineInvariant.spawnSession {target : String} {started : Nat}
    (hinvariant : state.EngineInvariant pubkey generation)
    (hruns : target = pubkey → state.StartsEngine target started →
      state.store.RunsIn target started) :
    (state.spawnSession target started).2.EngineInvariant pubkey generation := by
  unfold DaemonState.spawnSession
  split
  · rename_i hstarts
    by_cases htarget : target = pubkey
    · subst htarget
      have hrunning := hruns rfl hstarts
      -- An engine that was started still serves, so it would not be started again.
      have hfirst : (target, generation) ∉ state.spawned := by
        intro hstarted
        have hserving := hinvariant.serving hstarted
        have hless := hstarts generation hserving.held
        have heq := hserving.runs.unique hrunning
        omega
      by_cases hgeneration : started = generation
      · subst hgeneration
        refine ⟨?_, fun _ => List.mem_cons_self, fun _ => ⟨hrunning, ?_⟩⟩
        · simp [List.count_eq_zero_of_not_mem hfirst]
        · simp
      · have hother : (target, generation) ∉ (target, started) :: state.spawned := by
          simp [hfirst, Ne.symm hgeneration]
        refine ⟨?_, ?_, fun hstarted => absurd hstarted hother⟩
        · rw [List.count_eq_zero_of_not_mem hother]
          exact Nat.zero_le 1
        · intro hheld
          simp [hgeneration] at hheld
    · have hengines : Function.update state.engines target (some started) pubkey =
          state.engines pubkey := Function.update_of_ne (Ne.symm htarget) _ _
      refine ⟨?_, ?_, ?_⟩
      · rw [List.count_cons_of_ne (by simp [htarget])]
        exact hinvariant.once
      · dsimp only
        rw [hengines]
        intro hheld
        exact List.mem_cons_of_mem _ (hinvariant.started hheld)
      · intro hstarted
        have hold : (pubkey, generation) ∈ state.spawned := by
          rcases List.mem_cons.mp hstarted with heq | hold
          · cases heq
            exact absurd rfl htarget
          · exact hold
        have hserving := hinvariant.serving hold
        exact ⟨hserving.runs, hengines.trans hserving.held⟩
  · exact hinvariant

theorem EngineInvariant.engineExited {target : String} {ended : Nat}
    (hinvariant : state.EngineInvariant pubkey generation)
    (hspares : ¬ (target = pubkey ∧ ended = generation)) :
    (state.engineExited target ended).EngineInvariant pubkey generation := by
  unfold DaemonState.engineExited
  split
  · rename_i hheld
    refine ⟨hinvariant.once, ?_, ?_⟩
    · intro hafter
      by_cases htarget : pubkey = target
      · subst htarget
        simp at hafter
      · have hengines : Function.update state.engines target none pubkey =
            state.engines pubkey := Function.update_of_ne htarget _ _
        exact hinvariant.started (hengines.symm.trans hafter)
    · intro hstarted
      have hserving := hinvariant.serving hstarted
      have htarget : pubkey ≠ target := by
        rintro rfl
        rw [hserving.held] at hheld
        cases hheld
        exact hspares ⟨rfl, rfl⟩
      exact ⟨hserving.runs, (Function.update_of_ne htarget _ _).trans hserving.held⟩
  · exact hinvariant

theorem spawnSession_keepsStarted (target : String) (started : Nat) :
    state.KeepsStarted pubkey generation (state.spawnSession target started).2 := by
  intro hstarted
  unfold DaemonState.spawnSession
  split
  · exact List.mem_cons_of_mem _ hstarted
  · exact hstarted

/-- Everything that is admitted keeps the invariant. -/
theorem EngineInvariant.interfere {event : DaemonEvent}
    (hinvariant : state.EngineInvariant pubkey generation)
    (hspares : event.Spares pubkey generation) :
    (state.interfere event).EngineInvariant pubkey generation ∧
      state.KeepsStarted pubkey generation (state.interfere event) := by
  cases event with
  | store op => exact ⟨hinvariant.step hspares, id⟩
  | materialize db => exact ⟨hinvariant.database rfl rfl (fun _ hruns => hruns), id⟩
  | engineExited target ended =>
      refine ⟨hinvariant.engineExited hspares, ?_⟩
      intro hstarted
      show _ ∈ (state.engineExited target ended).spawned
      unfold DaemonState.engineExited
      split
      · exact hstarted
      · exact hstarted

end DaemonState

/-! ## One start -/

namespace StartTask

variable {pubkey : String} {generation : Nat} {state : DaemonState}

/-- From this state on, an orderly run of the task that does not retire the
generation succeeds in it only when its engine was started. -/
def Serves (pubkey : String) (generation : Nat) (task : StartTask) (state : DaemonState) : Prop :=
  task.Meets (DaemonState.EngineInvariant pubkey generation)
    (DaemonState.KeepsStarted pubkey generation)
    (fun label state => label.Orderly pubkey state ∧ label ≠ .retire pubkey generation)
    (StartAnswer.EngineStarted pubkey generation) state

theorem serves_failed (error : StartError) : Serves pubkey generation (.done (.failed error)) state := by
  intro heq
  cases heq

theorem serves_tryRead {β : Type} {label : StartLabel}
    {query : StartReply → DaemonState → Except StartError β}
    {rest : Except StartError β → StartTask}
    (hrest : ∀ result current, state.KeepsStarted pubkey generation current →
      Serves pubkey generation (rest result) current) :
    Serves pubkey generation (tryRead label query rest) state :=
  Task.meets_read (fun _ => id) (fun current hlater _ _ _ => hrest _ current hlater)

/-- A store operation that is no stop of the generation. -/
theorem serves_tryStore {β : Type} {label : StartLabel}
    {operation : StartReply → Store → Except StoreError (β × Store)}
    {rest : Except StartError β → StartTask} (op : StartReply → StoreOp)
    (hop : ∀ reply store, commit (operation reply store) store = store.step (op reply))
    (hstop : label ≠ .retire pubkey generation → ∀ reply,
      ¬ (op reply).RequestsStop pubkey generation)
    (hrest : ∀ result current, state.KeepsStarted pubkey generation current →
      Serves pubkey generation (rest result) current) :
    Serves pubkey generation (tryStore label operation rest) state := by
  apply Task.meets_attempt (fun _ => id)
  · intro current hlater hinvariant hguard reply value after hok
    have hafter : after = current.setStore (current.store.step (op reply)) := by
      split at hok
      · cases hok
      · split at hok
        · rename_i found written hwritten
          cases hok
          rw [← hop, hwritten, commit_ok]
        · cases hok
    subst hafter
    exact ⟨hinvariant.step (hstop hguard.2 reply), id, hrest _ _ hlater⟩
  · intro current hlater _ error
    exact hrest _ current hlater

theorem serves_release {target : String} {ended : Nat} (error : StartError) :
    Serves pubkey generation (release target ended error) state := by
  apply Task.meets_call
  intro current _ hinvariant hguard reply result after hcall
  cases hcall
  refine ⟨?_, id, serves_failed error⟩
  by_cases hmine : target = pubkey ∧ ended = generation
  · obtain ⟨rfl, rfl⟩ := hmine
    -- no engine of the generation was started, so nothing serves it
    refine hinvariant.database rfl rfl (fun hstarted _ => ?_)
    exact absurd (hinvariant.serving hstarted).held (hguard.1 rfl)
  · have hstop : ¬ StoreOp.RequestsStop pubkey generation (.lifecycle
        (.markRuntimeStoppedIfGeneration target ended .unknown reply.now)) := hmine
    exact hinvariant.step hstop

theorem serves_abandon {target : String} {ended : Nat} (armed : Bool) (error : StartError) :
    Serves pubkey generation (abandon armed target ended error) state := by
  unfold abandon
  split
  · exact serves_release error
  · exact serves_failed error

theorem serves_startEngine (target : String) (started : Nat) :
    Serves pubkey generation (startEngine target started) state := by
  apply Task.meets_call
  intro current _ hinvariant hguard reply result after hcall
  have hafter : after = (current.spawnSession target started).2 := by rw [hcall]
  refine ⟨?_, ?_, ?_⟩
  · rw [hafter]
    exact hinvariant.spawnSession hguard.1
  · rw [hafter]
    exact DaemonState.spawnSession_keepsStarted target started
  · cases result with
    | false => exact serves_release _
    | true =>
        intro heq
        cases heq
        rw [hafter]
        unfold DaemonState.spawnSession at hcall ⊢
        split
        · exact List.mem_cons_self
        · rename_i hheld
          rw [if_neg hheld] at hcall
          cases hcall

/-! ## The writes that record a runtime -/

/-- The relation that the writes stay within. -/
def KeepsRunning (pubkey : String) (generation : Nat) (before after : Store) : Prop :=
  before.RunsIn pubkey generation → after.RunsIn pubkey generation

theorem within_write {β : Type} {operation : Store → Except StoreError (β × Store)} (op : StoreOp)
    (hop : ∀ store, commit (operation store) store = store.step op)
    (hstop : ¬ op.RequestsStop pubkey generation) :
    (write operation).Within (KeepsRunning pubkey generation) := by
  apply Script.within_attempt
  intro store hruns
  have hstep : commit ((operation store).mapError StartError.store) store = store.step op := by
    rw [← hop]
    cases operation store with
    | error error | ok result => rfl
  rw [hstep]
  exact hruns.step hstop

theorem within_bind {α β : Type} {script : Script StartError Store α}
    {next : α → Script StartError Store β}
    (hscript : script.Within (KeepsRunning pubkey generation))
    (hnext : ∀ value, (next value).Within (KeepsRunning pubkey generation)) :
    (script >>= next).Within (KeepsRunning pubkey generation) :=
  Script.within_bind (fun hfirst hsecond hruns => hsecond (hfirst hruns)) hscript hnext

theorem within_pure : (pure () : Script StartError Store Unit).Within
    (KeepsRunning pubkey generation) :=
  Script.within_pure (fun _ => id) ()

theorem within_throw (error : StartError) : (throw error : Script StartError Store Unit).Within
    (KeepsRunning pubkey generation) :=
  Script.within_throw (fun _ => id) error

theorem within_bindLocators (request : StartRequest) (harness target : String) (now : Nat) :
    (bindLocators request harness target now).Within (KeepsRunning pubkey generation) := by
  apply within_bind
  · unfold bindEndpoint
    split
    · exact within_throw _
    · exact within_pure
    · exact within_write (.locator (.putSessionLocator harness _ _ target now)) (fun _ => rfl) id
  · intro _
    apply within_bind
    · unfold bindNative
      split
      · exact within_pure
      · exact within_write (.locator (.setNativeResumeLocator target harness _ now))
          (fun _ => rfl) id
    · intro _
      unfold bindPid
      split
      · exact within_pure
      · exact within_write (.locator (.putSessionLocator harness _ _ target now)) (fun _ => rfl) id

theorem within_recordRuntime (request : StartRequest) (target channel readinessParent : String)
    (started now clock : Nat) :
    (recordRuntime request target channel readinessParent started now clock).Within
      (KeepsRunning pubkey generation) := by
  apply within_bind
  · exact within_write (.context (.setSessionContext target channel request.workRoot
      readinessParent clock)) (fun _ => rfl) id
  · intro _
    apply within_bind
    · apply within_bind
      · exact within_write (.context (.bindRuntimeProcess target started
          (request.params.watchPid.map Int32.toInt) clock)) (fun _ => rfl) id
      · intro bound
        split
        · exact within_pure
        · exact within_throw _
    · intro _
      apply within_bind
      · exact within_write (.context (.recordClaimedHarness target request.facts.claimedHarness))
          (fun _ => rfl) id
      · intro _
        apply within_bind
        · exact Script.within_attempt _ (fun _ => id)
        · intro admitted
          split
          · exact within_throw _
          · exact within_bindLocators request _ target now

/-! ## From the reservation on -/

theorem serves_runReserved (request : StartRequest) (target channel readinessParent : String)
    (now : Nat) {alreadyRunning : Bool} {reserved : Nat}
    (hstarted : alreadyRunning = true → target = pubkey → reserved = generation →
      (pubkey, generation) ∈ state.spawned) :
    Serves pubkey generation (runReserved request target channel readinessParent now
      alreadyRunning reserved) state := by
  apply Task.meets_call
  intro current hlater hinvariant _ reply result after hcall
  have hafter : after.EngineInvariant pubkey generation ∧
      current.KeepsStarted pubkey generation after := by
    split at hcall
    · cases hcall
      exact ⟨hinvariant, id⟩
    · have hkept : KeepsRunning pubkey generation current.store (recordRuntime request target
          channel readinessParent reserved now reply.now current.store).2 :=
        within_recordRuntime request target channel readinessParent reserved now reply.now
          current.store
      generalize recordRuntime request target channel readinessParent reserved now reply.now
        current.store = outcome at hcall hkept
      cases hcall
      exact ⟨hinvariant.database rfl rfl (fun _ => hkept), id⟩
  refine ⟨hafter.1, hafter.2, ?_⟩
  cases result with
  | error error => exact serves_abandon _ error
  | ok _ =>
      apply serves_tryRead
      intro read reading hreading
      cases read with
      | error error => exact serves_abandon _ error
      | ok _ =>
          dsimp only
          split
          · rename_i hrunning
            intro heq
            cases heq
            exact hreading (hafter.2 (hlater (hstarted hrunning rfl rfl)))
          · apply serves_tryRead
            intro ready starting _
            cases ready with
            | error error => exact serves_release error
            | ok _ => exact serves_startEngine target reserved

theorem serves_reserveGeneration {request : StartRequest} {agent target channel : String}
    {now : Nat} {existing : Option Session} {rest : Except StartError Nat → StartTask}
    (hrest : ∀ result current, state.KeepsStarted pubkey generation current →
      (∀ session started, existing = some session → session.runtimeState = .running →
        result = .ok started → started = session.runtimeGeneration) →
      Serves pubkey generation (rest result) current) :
    Serves pubkey generation (reserveGeneration request agent target channel now existing rest)
      state := by
  have hreserve : (∀ session, existing = some session → session.runtimeState ≠ .running) →
      ∀ registration, Serves pubkey generation (tryStore .other (fun _ store =>
        store.reserveSessionWithFacts registration request.facts) rest) state := by
    intro hnone registration
    apply serves_tryStore (fun _ => .lifecycle (.reserveSessionWithFacts registration
      request.facts)) (fun _ _ => rfl) (fun _ _ => id)
    intro result current hlater
    apply hrest result current hlater
    intro session _ hsession hrunning
    exact absurd hrunning (hnone session hsession)
  unfold reserveGeneration
  extract_lets reserve
  cases existing with
  | none => exact hreserve (fun _ hsession => by cases hsession) _
  | some session =>
      dsimp only
      split
      · apply hrest _ state id
        intro _ _ _ _ hresult
        cases hresult
      · split
        · apply hrest _ state id
          intro _ _ hsession _ hresult
          cases hsession
          cases hresult
          rfl
        · rename_i hstopped
          apply hreserve
          intro _ hsession
          cases hsession
          exact hstopped

theorem serves_startExisting (env : StartEnvironment) (request : StartRequest)
    (agent target : String) {existing : Option Session} {alreadyRunning : Bool}
    (hstarted : alreadyRunning = true → ∃ session, existing = some session ∧
      session.runtimeState = .running ∧ (target = pubkey → session.runtimeGeneration = generation →
        (pubkey, generation) ∈ state.spawned)) :
    Serves pubkey generation (startExisting env request agent target existing alreadyRunning)
      state := by
  unfold startExisting
  apply serves_tryRead
  intro parent current hlater
  cases parent with
  | error error => exact serves_failed error
  | ok parent =>
      apply serves_reserveGeneration
      intro result reserved hreserved htaken
      cases result with
      | error error => exact serves_failed error
      | ok started =>
          apply serves_runReserved
          intro hrunning htarget hgeneration
          obtain ⟨session, hsession, hstate, hmem⟩ := hstarted hrunning
          have heq := htaken session started hsession hstate rfl
          exact hreserved (hlater (hmem htarget (heq.symm.trans hgeneration)))

/-- Retiring the session that holds the agent's place stops no generation that is guarded. -/
theorem serves_retireConflicting (request : StartRequest) (agent target : String)
    {rest : StartTask} (hrest : ∀ current, Serves pubkey generation rest current) :
    Serves pubkey generation (retireConflicting request agent target rest) state := by
  unfold retireConflicting
  apply serves_tryRead
  intro result current _
  cases result with
  | error error => exact serves_failed error
  | ok conflict =>
      cases conflict with
      | none => exact hrest current
      | some old =>
          apply serves_tryStore (fun reply => .lifecycle (.markRuntimeStoppedIfGeneration
            old.pubkey old.runtimeGeneration .superseded reply.now)) (fun _ _ => rfl)
          · intro hretire _ hstop
            exact hretire (by rw [hstop.1, hstop.2])
          · intro retired stopped _
            cases retired with
            | error error => exact serves_failed error
            | ok _ => exact hrest stopped

theorem serves_startAs (env : StartEnvironment) (request : StartRequest) (agent target : String) :
    Serves pubkey generation (startAs env request agent target) state := by
  apply serves_retireConflicting
  intro current
  apply serves_tryRead
  intro result reading _
  cases result with
  | error error => exact serves_failed error
  | ok existing =>
      cases existing with
      | none => exact serves_startExisting env request agent target (by simp)
      | some session =>
          dsimp only
          split
          · rename_i hrunning
            apply Task.meets_read (fun _ => id)
            intro observed _ hinvariant hguard _
            apply serves_startExisting
            intro hheld
            refine ⟨session, rfl, hrunning, ?_⟩
            rintro rfl rfl
            obtain ⟨held, hengine⟩ := Option.isSome_iff_exists.mp hheld
            -- the engine that was seen is the one of the row's generation
            have heq : held = session.runtimeGeneration := hguard.1 rfl held hengine
            exact hinvariant.started (heq ▸ hengine)
          · exact serves_startExisting env request agent target (by simp)

theorem serves_sessionStart (env : StartEnvironment) (request : StartRequest) :
    Serves pubkey generation (sessionStart env request) state := by
  unfold sessionStart
  split
  · exact serves_failed _
  · apply serves_tryRead
    intro result current _
    cases result with
    | error error => exact serves_failed error
    | ok located =>
        cases located with
        | none =>
            apply serves_tryRead
            intro prepared preparing _
            cases prepared with
            | error error => exact serves_failed error
            | ok prepared => exact serves_startAs env request request.agent prepared
        | some target =>
            apply serves_tryRead
            intro persisted loading _
            cases persisted with
            | error error => exact serves_failed error
            | ok agent => exact serves_startAs env request agent target

end StartTask

/-! ## Every run -/

section Runs

variable {env : StartEnvironment} {pubkey : String} {generation : Nat}

theorem guarded_starts {pool : Pool StartLabel DaemonState StartReply StartAnswer}
    {events : List StartEvent}
    (hspared : Guarded (startStep env) (fun pool event =>
      pool.Passes (fun label _ => label ≠ .retire pubkey generation) event ∧
        pool.Admits (fun _ event => event.Spares pubkey generation) event) pool events)
    (horderly : Guarded (startStep env) (Pool.Passes (StartLabel.Orderly pubkey)) pool events) :
    Guarded (startStep env) (fun pool event =>
      pool.Passes (fun label state => label.Orderly pubkey state ∧
          label ≠ .retire pubkey generation) event ∧
        pool.Admits (fun _ event => event.Spares pubkey generation) event) pool events := by
  refine guarded_mono ?_ (guarded_and horderly hspared)
  rintro before event ⟨horder, hlabel, hadmits⟩
  exact ⟨Pool.passes_and horder hlabel, hadmits⟩

/-- The pool is sound for the generation. -/
def SoundStarts (pubkey : String) (generation : Nat)
    (pool : Pool StartLabel DaemonState StartReply StartAnswer) : Prop :=
  pool.Sound (DaemonState.EngineInvariant pubkey generation)
    (DaemonState.KeepsStarted pubkey generation)
    (fun label state => label.Orderly pubkey state ∧ label ≠ .retire pubkey generation)
    (StartAnswer.EngineStarted pubkey generation)

theorem SoundStarts.run_of_serves {start : StartRequest → StartTask}
    (hserves : ∀ request state, StartTask.Serves pubkey generation (start request) state)
    {pool : Pool StartLabel DaemonState StartReply StartAnswer} {events : List StartEvent}
    (hsound : SoundStarts pubkey generation pool)
    (hguarded : Guarded (Pool.step DaemonState.interfere start) (fun pool event =>
      pool.Passes (fun label state => label.Orderly pubkey state ∧
          label ≠ .retire pubkey generation) event ∧
        pool.Admits (fun _ event => event.Spares pubkey generation) event) pool events) :
    SoundStarts pubkey generation (Transition.run (Pool.step DaemonState.interfere start) pool
        events) ∧
      pool.shared.KeepsStarted pubkey generation
        (Transition.run (Pool.step DaemonState.interfere start) pool events).shared := by
  have hrefl : ∀ state : DaemonState, state.KeepsStarted pubkey generation state := fun _ => id
  have htrans : ∀ {first second third : DaemonState},
      first.KeepsStarted pubkey generation second →
      second.KeepsStarted pubkey generation third → first.KeepsStarted pubkey generation third :=
    fun hfirst hsecond hstarted => hsecond (hfirst hstarted)
  have hkeep : ∀ (answer : StartAnswer) (first second : DaemonState),
      first.KeepsStarted pubkey generation second →
      answer.EngineStarted pubkey generation first →
      answer.EngineStarted pubkey generation second :=
    fun _ _ _ hkept hstarted heq => hkept (hstarted heq)
  have hinterfere : ∀ (state : DaemonState) (event : DaemonEvent),
      state.EngineInvariant pubkey generation → event.Spares pubkey generation →
      (state.interfere event).EngineInvariant pubkey generation ∧
        state.KeepsStarted pubkey generation (state.interfere event) :=
    fun _ _ hinvariant hspares => hinvariant.interfere hspares
  exact ⟨Pool.Sound.run_admitted hrefl htrans hkeep hinterfere (fun request state _ =>
      hserves request state) hsound hguarded,
    Pool.Sound.run_within hrefl htrans hkeep hinterfere (fun request state _ =>
      hserves request state) hsound hguarded⟩

theorem SoundStarts.run {pool : Pool StartLabel DaemonState StartReply StartAnswer}
    {events : List StartEvent} (hsound : SoundStarts pubkey generation pool)
    (hguarded : Guarded (startStep env) (fun pool event =>
      pool.Passes (fun label state => label.Orderly pubkey state ∧
          label ≠ .retire pubkey generation) event ∧
        pool.Admits (fun _ event => event.Spares pubkey generation) event) pool events) :
    SoundStarts pubkey generation (run (startStep env) pool events) ∧
      pool.shared.KeepsStarted pubkey generation (run (startStep env) pool events).shared :=
  SoundStarts.run_of_serves (fun request _ => StartTask.serves_sessionStart env request) hsound
    hguarded

/-- In a run of orderly starts in which no stop of the generation is requested, its
engine is started at most once; a start that succeeds in the generation leaves it
served, and so does a start of its engine, in every later state, whatever the other
starts do. -/
theorem one_engine_serves {elapsed later : List StartEvent}
    (hspared : NoStopRequested env pubkey generation (elapsed ++ later))
    (horderly : OrderlyStarts env pubkey (elapsed ++ later)) :
    (run (startStep env) (.fresh DaemonState.fresh) (elapsed ++ later)).shared.spawned.count
        (pubkey, generation) ≤ 1 ∧
      ((pubkey, generation) ∈
          (run (startStep env) (.fresh DaemonState.fresh) elapsed).shared.spawned →
        (run (startStep env) (.fresh DaemonState.fresh) (elapsed ++ later)).shared.Serving pubkey
          generation) ∧
      ((run (startStep env) (.fresh DaemonState.fresh) elapsed).Answered
          (.started pubkey generation) →
        (run (startStep env) (.fresh DaemonState.fresh) (elapsed ++ later)).shared.Serving pubkey
          generation) := by
  have hguarded := guarded_append.mp (guarded_starts hspared horderly)
  have hfresh : SoundStarts pubkey generation (.fresh DaemonState.fresh) :=
    .fresh DaemonState.fresh_engineInvariant
  -- The invariant of the first part is where the second part starts from.
  obtain ⟨hearlier, _⟩ := hfresh.run hguarded.1
  obtain ⟨hsound, hkept⟩ := hearlier.run hguarded.2
  rw [run_append]
  refine ⟨hsound.shared.once, ?_, ?_⟩
  · intro hstarted
    exact hsound.shared.serving (hkept hstarted)
  · intro hanswer
    have hstarted : (pubkey, generation) ∈
        (run (startStep env) (.fresh DaemonState.fresh) elapsed).shared.spawned :=
      hearlier.answer hanswer rfl
    exact hsound.shared.serving (hkept hstarted)

end Runs

/-! ## Two starts of one session -/

/-- Every selector is a public key. -/
def plainEnvironment : StartEnvironment where
  names := ⟨some, fun store selector => .ok (store.getSession selector)⟩
  perSessionRooms := false
  sessionRoomId := id

/-- The start of a launched session. -/
def startOf (pubkey : String) : StartRequest where
  params :=
    { pubkey := some pubkey
      harnessSession := none
      watchPid := none
      ptySession := none
      endpointKind := none
      resumeId := none }
  agent := "codex"
  channel := none
  workRoot := "root"
  facts :=
    { observedHarness := "codex"
      claimedHarness := ""
      bundle := "codex-pty"
      transport := "pty"
      endpointProvenance := "launch" }

/-- Step `index` of the pool, at `now`, without a failure. -/
def plainStep (index now : Nat) : StartEvent :=
  .advance index { now := now, failure := none, prepared := "" }

/-- The hook starts the session after the bootstrap has. -/
def reassertRun : List StartEvent :=
  .interfere (.store (launchOf "pk" 1)) :: .spawn (startOf "pk") ::
    List.replicate 10 (plainStep 0 2) ++
    .spawn (startOf "pk") :: List.replicate 8 (plainStep 1 3)

theorem one_engine_serves_reassert :
    (run (startStep plainEnvironment) (.fresh DaemonState.fresh)
      (reassertRun ++ [.spawn (startOf "pk")])).shared.Serving "pk" 1 := by
  have hanswer : (run (startStep plainEnvironment) (.fresh DaemonState.fresh)
      reassertRun).tasks[1]?.bind Task.answer? = some (.started "pk" 1) := by decide +kernel
  exact (one_engine_serves (by decide +kernel) (by decide +kernel)).2.2
    (Pool.answered_of_answer? hanswer)

/-- Both starts look for an engine before either has started one. -/
def racingRun : List StartEvent :=
  .interfere (.store (launchOf "pk" 1)) :: .spawn (startOf "pk") :: .spawn (startOf "pk") ::
    List.replicate 5 (plainStep 1 2) ++ List.replicate 10 (plainStep 0 2) ++
    List.replicate 6 (plainStep 1 3)

/-- The start that comes second to the engine map stops the generation of the first. -/
theorem engine_not_served :
    ¬ ∀ (env : StartEnvironment) (events : List StartEvent) (pubkey : String) (generation : Nat),
      NoStopRequested env pubkey generation events →
      (run (startStep env) (.fresh DaemonState.fresh) events).Settled →
      (run (startStep env) (.fresh DaemonState.fresh) events).Answered
        (.started pubkey generation) →
      (run (startStep env) (.fresh DaemonState.fresh) events).shared.Serving pubkey generation := by
  intro hclaim
  have hanswer : (run (startStep plainEnvironment) (.fresh DaemonState.fresh)
      racingRun).tasks[0]?.bind Task.answer? = some (.started "pk" 1) := by decide +kernel
  have hserving := hclaim plainEnvironment racingRun "pk" 1 (by decide +kernel) (by decide +kernel)
    (Pool.answered_of_answer? hanswer)
  have hstopped : ¬ (run (startStep plainEnvironment) (.fresh DaemonState.fresh)
      racingRun).shared.store.RunsIn "pk" 1 := by decide +kernel
  exact hstopped hserving.runs

end Mosaico
