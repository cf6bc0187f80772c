import Mosaico.Runtime.Starts
import Mosaico.State.LifecycleFrames

/-!
# Launches, resumes and adoptions

A call that launches a session reserves a runtime generation, opens an endpoint and registers the
session there.  A resume builds the command of its harness first, and an adoption claims the
native locator before that.  The calls are followed here from their reservation on: what fails a
step, and whether the reservation is released when the call returns.
-/

namespace Mosaico

open Relational Transition Concurrent

/-! ## Calls -/

inductive ResumeMechanism where
  | acpSessionLoad
  | appServerThreadResume
  | appendFlag (flag : String)
  | appendFlags (flags : List String)
  | subcommand (subcommand : String)
  | none
  deriving DecidableEq, Repr

inductive LaunchError where
  | store (error : StoreError)
  | start (error : StartError)
  | outside (text : String)
  | adoptedConcurrently (resumeId owner : String)
  | emptyCommand (slug : String)
  | noRuntime (pubkey : String)
  | context (label : String) (error : LaunchError)
  deriving DecidableEq, Repr

/-- The text of an error.  `debug` is Rust's `{:?}` rendering of a string, and the label of a
context is the outermost text. -/
def LaunchError.text (debug : String → String) : LaunchError → String
  | .store error => error.text debug
  | .start error => error.text debug
  | .outside text => text
  | .adoptedConcurrently resumeId owner => "native session " ++ debug resumeId ++
      " was adopted concurrently by pubkey " ++ owner ++ "; retry"
  | .emptyCommand slug => "agent " ++ debug slug ++ " resolved an empty command"
  | .noRuntime pubkey => "session_start created no runtime for pubkey " ++ pubkey
  | .context label _ => label

def buildDriverResumeCommand (base : List String) (mechanism : ResumeMechanism)
    (resumeId slug : String) : Except LaunchError (List String) :=
  match mechanism with
  | .appendFlag flag => .ok (base ++ [flag, resumeId])
  | .appendFlags flags => .ok (base ++ flags ++ [resumeId])
  | .subcommand subcommand =>
      match base with
      | [] => .error (.emptyCommand slug)
      | program :: args => .ok (program :: subcommand :: resumeId :: args)
  | .acpSessionLoad => .ok base
  | .appServerThreadResume => .ok base
  | .none => .ok base

/-- The generation that the call reserved. -/
structure Reservation where
  pubkey : String
  runtimeGeneration : Nat
  deriving DecidableEq, Repr

/-- The harness of the call as the configuration resolves it. -/
structure ResolvedSource where
  command : List String
  harness : String
  resume : ResumeMechanism
  bundle : String
  transport : String
  deriving DecidableEq, Repr

/-- What a transport has opened. -/
structure SessionEndpoint where
  endpointId : String
  kind : TransportKind
  agent : String
  nativeId : Option String
  watchPid : Option Int32
  deriving DecidableEq

inductive LaunchKind where
  | spawn
  | resume (resumeId : String)
  | adopt (resumeId : String)
  deriving DecidableEq, Repr

structure Launch where
  reservation : Reservation
  source : ResolvedSource
  slug : String
  group : Option String
  kind : LaunchKind
  deriving DecidableEq, Repr

/-- What the outside does to the steps of one call.  A failure of the database is one text. -/
structure LaunchOutside where
  claimedAt : Nat
  claimFailure : Option String
  opened : List String → Except String SessionEndpoint
  workRoot : String
  replies : Nat → StartReply
  answerFailure : Option String
  releasedAt : Nat
  releaseFailure : Option String

/-- A call that fails: where its reservation is released before it returns, and the state until
then. -/
structure Departure where
  error : LaunchError
  releases : Bool
  state : DaemonState

namespace Launch

/-! ## Steps -/

/-- `admission::release`; its failure is logged only. -/
def release (launch : Launch) (outside : LaunchOutside) (state : DaemonState) : DaemonState :=
  match outside.releaseFailure with
  | some _ => state
  | none => state.setStore (commit (state.store.markRuntimeStoppedIfGeneration
      launch.reservation.pubkey launch.reservation.runtimeGeneration .unknown outside.releasedAt)
      state.store)

def claimNative (launch : Launch) (outside : LaunchOutside) (resumeId : String)
    (state : DaemonState) : Except LaunchError (String × DaemonState) :=
  match outside.claimFailure with
  | some text => .error (.outside text)
  | none =>
      match state.store.claimNativeResumeLocator launch.reservation.pubkey launch.source.harness
          resumeId outside.claimedAt with
      | .ok (owner, after) => .ok (owner, state.setStore after)
      | .error error => .error (.store error)

/-- The `session_start` of a hosted session. -/
def startRequest (launch : Launch) (outside : LaunchOutside) (endpoint : SessionEndpoint)
    (resumeId : Option String) : StartRequest where
  params :=
    { pubkey := some launch.reservation.pubkey
      harnessSession := none
      watchPid := endpoint.watchPid
      ptySession := some endpoint.endpointId
      endpointKind := some endpoint.kind
      resumeId := endpoint.nativeId.or resumeId }
  agent := endpoint.agent
  channel := launch.group
  workRoot := outside.workRoot
  facts :=
    { observedHarness := launch.source.harness
      claimedHarness := ""
      bundle := launch.source.bundle
      transport := launch.source.transport
      endpointProvenance := "launch" }

/-- `bootstrap_hosted_session_start`. -/
def bootstrapHostedSessionStart (env : StartEnvironment) (launch : Launch)
    (outside : LaunchOutside) (endpoint : SessionEndpoint) (resumeId : Option String)
    (state : DaemonState) : Except LaunchError String × DaemonState :=
  let request := launch.startRequest outside endpoint resumeId
  match (StartTask.sessionStart env request).runAlone outside.replies state with
  | (.failed error, after) => (.error (.start error), after)
  | (.started pubkey _, after) =>
      match outside.answerFailure with
      | some text => (.error (.outside text), after)
      | none =>
          match after.store.getSession pubkey with
          | none => (.error (.noRuntime pubkey), after)
          | some session => (.ok session.pubkey, after)

/-- Register the session at its endpoint.  The endpoint of a failed registration is killed. -/
def register (env : StartEnvironment) (launch : Launch) (outside : LaunchOutside)
    (endpoint : SessionEndpoint) (resumeId : Option String) (label : String)
    (state : DaemonState) : Except Departure (SessionEndpoint × String × DaemonState) :=
  match launch.bootstrapHostedSessionStart env outside endpoint resumeId state with
  | (.ok pubkey, after) => .ok (endpoint, pubkey, after)
  | (.error error, after) => .error ⟨.context label error, true, after⟩

def spawnAgent (env : StartEnvironment) (launch : Launch) (outside : LaunchOutside)
    (state : DaemonState) : Except Departure (SessionEndpoint × String × DaemonState) :=
  match outside.opened launch.source.command with
  | .error text => .error ⟨.outside text, true, state⟩
  | .ok endpoint =>
      launch.register env outside endpoint none "registering hosted session" state

def launchResume (env : StartEnvironment) (launch : Launch) (outside : LaunchOutside)
    (resumeId : String) (state : DaemonState) :
    Except Departure (SessionEndpoint × String × DaemonState) :=
  match buildDriverResumeCommand launch.source.command launch.source.resume resumeId
      launch.slug with
  -- `?`
  | .error error => .error ⟨error, false, state⟩
  | .ok command =>
      match outside.opened command with
      | .error text => .error ⟨.outside text, true, state⟩
      | .ok endpoint => launch.register env outside endpoint (some resumeId)
          "registering resumed hosted session" state

def adoptNativeSession (env : StartEnvironment) (launch : Launch) (outside : LaunchOutside)
    (resumeId : String) (state : DaemonState) :
    Except Departure (SessionEndpoint × String × DaemonState) :=
  match launch.claimNative outside resumeId state with
  -- `?`
  | .error error => .error ⟨error, false, state⟩
  | .ok (owner, claimed) =>
      if owner ≠ launch.reservation.pubkey then
        .error ⟨.adoptedConcurrently resumeId owner, true, claimed⟩
      else launch.launchResume env outside resumeId claimed

def attempt (env : StartEnvironment) (launch : Launch) (outside : LaunchOutside)
    (state : DaemonState) : Except Departure (SessionEndpoint × String × DaemonState) :=
  match launch.kind with
  | .spawn => launch.spawnAgent env outside state
  | .resume resumeId => launch.launchResume env outside resumeId state
  | .adopt resumeId => launch.adoptNativeSession env outside resumeId state

/-- The call from its reservation on. -/
def run (env : StartEnvironment) (launch : Launch) (outside : LaunchOutside)
    (state : DaemonState) : Except LaunchError (SessionEndpoint × String) × DaemonState :=
  match launch.attempt env outside state with
  | .ok (endpoint, pubkey, after) => (.ok (endpoint, pubkey), after)
  | .error departure =>
      (.error departure.error,
        if departure.releases then launch.release outside departure.state else departure.state)

/-! ## What a failed call leaves -/

/-- The reserved generation runs. -/
def Runs (launch : Launch) (state : DaemonState) : Prop :=
  state.store.sessions.Any (Store.isRunningGeneration launch.reservation.pubkey
    launch.reservation.runtimeGeneration)

instance (launch : Launch) (state : DaemonState) : Decidable (launch.Runs state) :=
  inferInstanceAs (Decidable (Table.Any _ _))

/-- The native locator belongs to the reserved pubkey. -/
def BindsNative (launch : Launch) (resumeId : String) (state : DaemonState) : Prop :=
  ∃ held, state.store.sessionLocators.find?
    (launch.source.harness, locatorNativeResume, resumeId) = some held ∧
      held.pubkey = launch.reservation.pubkey

/-- The call won the claim. -/
def WinsClaim (launch : Launch) (outside : LaunchOutside) (resumeId : String)
    (state : DaemonState) : Prop :=
  ∃ claimed, launch.claimNative outside resumeId state =
    .ok (launch.reservation.pubkey, claimed)

/-- A failed call leaves nothing but a claim that it won: its generation does not run, and no
later reservation of the pubkey is refused on its account. -/
structure LeavesNothing (launch : Launch) (outside : LaunchOutside)
    (state after : DaemonState) : Prop where
  stopped : ¬ launch.Runs after
  locator : ∀ resumeId, launch.kind = .adopt resumeId → launch.BindsNative resumeId after →
    launch.BindsNative resumeId state ∨ launch.WinsClaim outside resumeId state
  admits : after.store.nextGeneration launch.reservation.pubkey =
      .error (.activeRuntime launch.reservation.pubkey) →
    ∃ row, after.store.getSession launch.reservation.pubkey = some row ∧
      ¬ (row.runtimeGeneration = launch.reservation.runtimeGeneration ∧
        row.runtimeState = .running)

def AllOrNothing (env : StartEnvironment) (launch : Launch) (outside : LaunchOutside)
    (state : DaemonState) : Prop :=
  ∀ error after, launch.run env outside state = (.error error, after) →
    launch.LeavesNothing outside state after

/-! ## Which exits release -/

/-- The claim's own checks pass, and its transaction does not fail. -/
def ClaimAnswers (launch : Launch) (outside : LaunchOutside) (resumeId : String)
    (state : DaemonState) : Prop :=
  outside.claimFailure = none ∧
    ∃ row, state.store.getSession launch.reservation.pubkey = some row ∧
      row.recoveryState ≠ .revoked ∧
      ((state.store.sessionLocators.find?
          (launch.source.harness, locatorNativeResume, resumeId)).isSome = true ∨
        (¬ state.store.hasNativeResume launch.reservation.pubkey ∧
          outside.claimedAt ≤ Rust.i64Max))

/-- Nobody else holds the native locator. -/
def Unheld (launch : Launch) (resumeId : String) (state : DaemonState) : Prop :=
  ∀ held, state.store.sessionLocators.find?
      (launch.source.harness, locatorNativeResume, resumeId) = some held →
    held.pubkey = launch.reservation.pubkey

/-- A resume by subcommand has a program to put it after. -/
def Buildable (launch : Launch) : Prop :=
  ∀ subcommand, launch.source.resume = .subcommand subcommand → launch.source.command ≠ []

/-- The call does not fail in its claim or its command. -/
def Proceeds (launch : Launch) (outside : LaunchOutside) (state : DaemonState) : Prop :=
  match launch.kind with
  | .spawn => True
  | .resume _ => launch.Buildable
  | .adopt resumeId => launch.ClaimAnswers outside resumeId state ∧
      (launch.Unheld resumeId state → launch.Buildable)

/-- The write of the release goes through. -/
def ReleaseWrites (launch : Launch) (outside : LaunchOutside) : Prop :=
  outside.releaseFailure = none ∧ launch.reservation.runtimeGeneration ≤ Rust.i64Max ∧
    Rust.saturatingAdd outside.releasedAt stoppedStandingRetentionSecs ≤ Rust.i64Max

variable {env : StartEnvironment} {launch : Launch} {outside : LaunchOutside} {resumeId : String}
  {state : DaemonState}

theorem buildDriverResumeCommand_error {error : LaunchError}
    (herror : buildDriverResumeCommand launch.source.command launch.source.resume resumeId
      launch.slug = .error error) : ¬ launch.Buildable := by
  intro hbuildable
  unfold buildDriverResumeCommand at herror
  split at herror
  · cases herror
  · cases herror
  · rename_i subcommand hresume
    split at herror
    · rename_i hcommand
      exact hbuildable subcommand hresume hcommand
    · cases herror
  · cases herror
  · cases herror
  · cases herror

theorem buildDriverResumeCommand_ok {command : List String}
    (hok : buildDriverResumeCommand launch.source.command launch.source.resume resumeId
      launch.slug = .ok command) : launch.Buildable := by
  intro subcommand hresume hcommand
  rw [hresume, hcommand] at hok
  cases hok

/-- An answered claim names the holder, which is the call's pubkey if nobody else holds the
locator; the sessions run as before. -/
theorem claimNative_ok {owner : String} {claimed : DaemonState}
    (hok : launch.claimNative outside resumeId state = .ok (owner, claimed)) :
    launch.ClaimAnswers outside resumeId state ∧
      (owner = launch.reservation.pubkey ↔ launch.Unheld resumeId state) ∧
      (owner ≠ launch.reservation.pubkey →
        claimed.store.sessionLocators = state.store.sessionLocators) := by
  unfold claimNative at hok
  split at hok
  · cases hok
  rename_i hfailure
  split at hok
  · rename_i found after hclaim
    cases hok
    obtain ⟨row, hrow, hrecovery, ⟨held, hheld, rfl, rfl⟩ | ⟨hfree, hnative, hclock, rfl, rfl⟩⟩ :=
      Store.claimNativeResumeLocator_ok hclaim
    · refine ⟨⟨hfailure, row, hrow, hrecovery, Or.inl (by rw [hheld]; rfl)⟩, ?_, fun _ => rfl⟩
      constructor
      · intro howner other hother
        rw [hheld] at hother
        cases hother
        exact howner
      · intro hunheld
        exact hunheld held hheld
    · refine ⟨⟨hfailure, row, hrow, hrecovery, Or.inr ⟨hnative, hclock⟩⟩, ?_,
        fun hne => absurd rfl hne⟩
      constructor
      · intro _ other hother
        rw [hfree] at hother
        cases hother
      · intro _
        rfl
  · cases hok

theorem claimNative_error {error : LaunchError}
    (herror : launch.claimNative outside resumeId state = .error error) :
    ¬ launch.ClaimAnswers outside resumeId state := by
  rintro ⟨hfailure, row, hrow, hrecovery, hheld⟩
  have hanswer : ∃ answer, state.store.claimNativeResumeLocator launch.reservation.pubkey
      launch.source.harness resumeId outside.claimedAt = .ok answer := by
    unfold Store.claimNativeResumeLocator
    rw [hrow]
    cases hfind : state.store.sessionLocators.find?
        (launch.source.harness, locatorNativeResume, resumeId) with
    | some held =>
        exact ⟨_, bind_eq_ok.mpr ⟨(), ensure_eq_ok.mpr hrecovery, rfl⟩⟩
    | none =>
        rw [hfind] at hheld
        obtain ⟨hnative, hclock⟩ := hheld.resolve_left (by simp)
        have hbound : bindParams [outside.claimedAt] = .ok () :=
          bindParams_eq_ok.mpr (by simpa using hclock)
        exact ⟨_, bind_eq_ok.mpr ⟨(), ensure_eq_ok.mpr hrecovery,
          bind_eq_ok.mpr ⟨(), ensure_eq_ok.mpr hnative, bind_eq_ok.mpr ⟨(), hbound, rfl⟩⟩⟩⟩
  obtain ⟨answer, hanswer⟩ := hanswer
  rw [claimNative, hfailure, hanswer] at herror
  cases herror

/-- The exits that release the reservation are the ones after the claim and the command. -/
theorem releases_launchResume {departure : Departure}
    (hdeparts : launch.launchResume env outside resumeId state = .error departure) :
    departure.releases = true ↔ launch.Buildable := by
  unfold launchResume at hdeparts
  split at hdeparts
  · rename_i error hcommand
    cases hdeparts
    exact iff_of_false Bool.false_ne_true (buildDriverResumeCommand_error hcommand)
  · rename_i command hcommand
    have hbuildable := buildDriverResumeCommand_ok hcommand
    split at hdeparts
    · cases hdeparts
      exact iff_of_true rfl hbuildable
    · unfold register at hdeparts
      split at hdeparts
      · cases hdeparts
      · cases hdeparts
        exact iff_of_true rfl hbuildable

theorem releases_spawnAgent {departure : Departure}
    (hdeparts : launch.spawnAgent env outside state = .error departure) :
    departure.releases = true := by
  unfold spawnAgent at hdeparts
  split at hdeparts
  · cases hdeparts
    rfl
  · unfold register at hdeparts
    split at hdeparts
    · cases hdeparts
    · cases hdeparts
      rfl

theorem releases_adoptNativeSession {departure : Departure}
    (hdeparts : launch.adoptNativeSession env outside resumeId state = .error departure) :
    departure.releases = true ↔ launch.ClaimAnswers outside resumeId state ∧
      (launch.Unheld resumeId state → launch.Buildable) := by
  unfold adoptNativeSession at hdeparts
  split at hdeparts
  · rename_i error hclaim
    cases hdeparts
    exact iff_of_false Bool.false_ne_true (fun hproceeds => claimNative_error hclaim hproceeds.1)
  · rename_i owner claimed hclaim
    obtain ⟨hanswers, howner, _⟩ := claimNative_ok hclaim
    split_ifs at hdeparts with hother
    · cases hdeparts
      exact iff_of_true rfl ⟨hanswers, fun hunheld => absurd (howner.mpr hunheld) hother⟩
    · have hunheld := howner.mp (not_not.mp hother)
      rw [releases_launchResume hdeparts]
      exact ⟨fun hbuildable => ⟨hanswers, fun _ => hbuildable⟩, fun hproceeds =>
        hproceeds.2 hunheld⟩

theorem releases_attempt {departure : Departure}
    (hdeparts : launch.attempt env outside state = .error departure) :
    departure.releases = true ↔ launch.Proceeds outside state := by
  unfold attempt at hdeparts
  unfold Proceeds
  split at hdeparts
  · exact iff_of_true (releases_spawnAgent hdeparts) trivial
  · exact releases_launchResume hdeparts
  · exact releases_adoptNativeSession hdeparts

/-! ## The release -/

theorem release_locators : (launch.release outside state).store.sessionLocators =
    state.store.sessionLocators := by
  unfold release
  split
  · rfl
  · refine commit_invariant (I := fun store : Store =>
      store.sessionLocators = state.store.sessionLocators) rfl ?_
    intro changed after hok
    exact (Store.markRuntimeStoppedIfGeneration_same hok).2

theorem runs_iff : launch.Runs state ↔ ∃ row,
    state.store.getSession launch.reservation.pubkey = some row ∧
      row.runtimeGeneration = launch.reservation.runtimeGeneration ∧
      row.runtimeState = .running :=
  Table.any_key_iff

theorem running_of_row {row : Session}
    (hrow : state.store.getSession launch.reservation.pubkey = some row)
    (hrunning : row.runtimeGeneration = launch.reservation.runtimeGeneration ∧
      row.runtimeState = .running) :
    Store.isRunningGeneration launch.reservation.pubkey launch.reservation.runtimeGeneration row :=
  ⟨Table.key_of_find? hrow, hrunning⟩

theorem retainUntil_unknown (stoppedAt : Nat) : Store.retainUntil .unknown stoppedAt =
    Rust.saturatingAdd stoppedAt stoppedStandingRetentionSecs :=
  if_neg (by decide)

/-- The stop of a running generation goes through exactly if its parameters fit. -/
theorem stops_iff (hruns : launch.Runs state) :
    (∃ answer, state.store.markRuntimeStoppedIfGeneration launch.reservation.pubkey
        launch.reservation.runtimeGeneration .unknown outside.releasedAt = .ok answer) ↔
      launch.reservation.runtimeGeneration ≤ Rust.i64Max ∧
        Rust.saturatingAdd outside.releasedAt stoppedStandingRetentionSecs ≤ Rust.i64Max := by
  obtain ⟨row, hrow, hrunning⟩ := runs_iff.mp hruns
  have hrunning := running_of_row hrow hrunning
  have hmatching : state.store.sessions.matching (Store.isRunningGeneration
      launch.reservation.pubkey launch.reservation.runtimeGeneration) = 1 :=
    (Store.matching_one_iff Store.isRunningGeneration_pubkey).mpr ⟨row, hrow, hrunning⟩
  have hstopped : (state.store.sessions.updateWhere
      (Store.isRunningGeneration launch.reservation.pubkey launch.reservation.runtimeGeneration)
      (fun row => row.stopped .unknown outside.releasedAt)
      (Session.pubkey_stopped .unknown outside.releasedAt)).find? launch.reservation.pubkey =
        some (row.stopped .unknown outside.releasedAt) := by
    rw [Table.find?_updateWhere, show state.store.sessions.find? launch.reservation.pubkey =
      some row from hrow, Option.map_some, if_pos hrunning]
  simp only [Store.markRuntimeStoppedIfGeneration, bind_eq_ok, Store.updateSessions, hmatching,
    decide_true, if_true, bindParams_eq_ok, Store.getSession, hstopped, Store.retainInTransaction]
  constructor
  · rintro ⟨_, _, hparams, _, ⟨_, hretained, _⟩, _⟩
    have hdeadline := hretained _ List.mem_cons_self
    rw [retainUntil_unknown] at hdeadline
    exact ⟨hparams _ List.mem_cons_self, hdeadline⟩
  · rintro ⟨hgeneration, hdeadline⟩
    have hclock : outside.releasedAt ≤ Rust.i64Max := by
      rw [Rust.saturatingAdd_le_i64Max hdeadline] at hdeadline
      exact (Nat.le_add_right _ _).trans hdeadline
    rw [← retainUntil_unknown] at hdeadline
    exact ⟨_, (), by simp [hgeneration, hclock], _, ⟨(), by simp [hdeadline, hclock], rfl⟩, rfl⟩

theorem not_runs_of_stop {changed : Bool} {after : Store}
    (hok : state.store.markRuntimeStoppedIfGeneration launch.reservation.pubkey
      launch.reservation.runtimeGeneration .unknown outside.releasedAt = .ok (changed, after)) :
    ¬ launch.Runs (state.setStore after) := by
  intro hruns
  obtain ⟨row, hrow, hrunning⟩ := runs_iff.mp hruns
  rcases Store.markRuntimeStoppedIfGeneration_spec hok with
    ⟨_, old, _, _, hstopped⟩ | ⟨_, hnone, hsame⟩
  · cases hrow.symm.trans hstopped
    cases hrunning.2
  · have hbefore := (hsame launch.reservation.pubkey).symm.trans hrow
    exact hnone row hbefore (running_of_row hbefore hrunning)

/-- The generation still runs after a release exactly if the release's write fails. -/
theorem runs_release_iff : launch.Runs (launch.release outside state) ↔
    launch.Runs state ∧ ¬ launch.ReleaseWrites outside := by
  unfold release
  split
  next text hfailure =>
    have hfails : ¬ launch.ReleaseWrites outside := by
      intro hwrites
      cases hfailure.symm.trans hwrites.1
    exact (and_iff_left hfails).symm
  next hfailure =>
    cases hok : state.store.markRuntimeStoppedIfGeneration launch.reservation.pubkey
        launch.reservation.runtimeGeneration .unknown outside.releasedAt with
    | error error =>
        have hfails : launch.Runs state → ¬ launch.ReleaseWrites outside := by
          intro hruns hwrites
          obtain ⟨answer, hanswer⟩ := (stops_iff hruns).mpr hwrites.2
          cases hok.symm.trans hanswer
        exact ⟨fun hruns => ⟨hruns, hfails hruns⟩, And.left⟩
    | ok result =>
        have hwrites : launch.Runs state → launch.ReleaseWrites outside :=
          fun hruns => ⟨hfailure, (stops_iff hruns).mp ⟨result, hok⟩⟩
        exact iff_of_false (not_runs_of_stop hok) (fun h => h.2 (hwrites h.1))

/-- A claim leaves the generations alone. -/
theorem runs_claimNative {owner : String} {claimed : DaemonState}
    (hok : launch.claimNative outside resumeId state = .ok (owner, claimed)) :
    launch.Runs claimed ↔ launch.Runs state := by
  unfold claimNative at hok
  split at hok
  · cases hok
  split at hok
  · rename_i found after hclaim
    cases hok
    have hrow := (Store.locatorStep_effect state.store (.claimNativeResumeLocator
      launch.reservation.pubkey launch.source.harness resumeId outside.claimedAt)).sessions
        launch.reservation.pubkey
    rw [Store.locatorStep, hclaim] at hrow
    rw [runs_iff, runs_iff]
    change (∃ row, after.sessions.find? _ = some row ∧ _) ↔
      ∃ row, state.store.sessions.find? _ = some row ∧ _
    generalize state.store.sessions.find? _ = row at hrow ⊢
    change Option.Rel _ row (after.sessions.find? _) at hrow
    generalize after.sessions.find? _ = next at hrow ⊢
    cases hrow with
    | none => rfl
    | some hsame => simp [hsame.runtimeGeneration, hsame.runtimeState]
  · cases hok

theorem state_launchResume {departure : Departure} (hfails : ¬ launch.Buildable)
    (hdeparts : launch.launchResume env outside resumeId state = .error departure) :
    departure.state = state := by
  unfold launchResume at hdeparts
  split at hdeparts
  · cases hdeparts
    rfl
  · rename_i command hcommand
    exact absurd (buildDriverResumeCommand_ok hcommand) hfails

/-- A call that fails in its claim or its command leaves its generation as it was. -/
theorem runs_of_not_proceeds {departure : Departure} (hfails : ¬ launch.Proceeds outside state)
    (hdeparts : launch.attempt env outside state = .error departure) :
    launch.Runs departure.state ↔ launch.Runs state := by
  unfold attempt at hdeparts
  unfold Proceeds at hfails
  cases hkind : launch.kind with
  | spawn =>
      rw [hkind] at hfails
      exact absurd trivial hfails
  | resume resumeId =>
      simp only [hkind] at hfails hdeparts
      rw [state_launchResume hfails hdeparts]
  | adopt resumeId =>
      simp only [hkind, adoptNativeSession] at hfails hdeparts
      split at hdeparts
      · cases hdeparts
        rfl
      · rename_i owner claimed hclaim
        obtain ⟨hanswers, howner, _⟩ := claimNative_ok hclaim
        split_ifs at hdeparts with hother
        · exact absurd ⟨hanswers, fun hunheld => absurd (howner.mpr hunheld) hother⟩ hfails
        · have hcommand : ¬ launch.Buildable := fun hbuildable =>
            hfails ⟨hanswers, fun _ => hbuildable⟩
          rw [state_launchResume hcommand hdeparts]
          exact runs_claimNative hclaim

/-! ## The native locator -/

/-- A claim that the call did not win leaves the locators as they were. -/
theorem locators_adoptNativeSession {departure : Departure}
    (hdeparts : launch.adoptNativeSession env outside resumeId state = .error departure) :
    departure.state.store.sessionLocators = state.store.sessionLocators ∨
      launch.WinsClaim outside resumeId state := by
  unfold adoptNativeSession at hdeparts
  split at hdeparts
  · cases hdeparts
    exact Or.inl rfl
  · rename_i owner claimed hclaim
    split_ifs at hdeparts with hother
    · cases hdeparts
      exact Or.inl ((claimNative_ok hclaim).2.2 hother)
    · obtain rfl := not_not.mp hother
      exact Or.inr ⟨claimed, hclaim⟩

theorem bindsNative_congr {after : DaemonState}
    (hsame : after.store.sessionLocators = state.store.sessionLocators) :
    launch.BindsNative resumeId after ↔ launch.BindsNative resumeId state := by
  rw [BindsNative, BindsNative, hsame]

/-! ## All or nothing -/

/-- The state that a failed call leaves. -/
def left (launch : Launch) (outside : LaunchOutside) (departure : Departure) : DaemonState :=
  if departure.releases then launch.release outside departure.state else departure.state

theorem run_of_attempt {departure : Departure}
    (hdeparts : launch.attempt env outside state = .error departure) :
    launch.run env outside state = (.error departure.error, launch.left outside departure) := by
  rw [run, hdeparts]
  rfl

theorem left_locators (departure : Departure) :
    (launch.left outside departure).store.sessionLocators =
      departure.state.store.sessionLocators := by
  unfold left
  split_ifs with hreleases
  · exact release_locators
  · rfl

theorem not_runs_left_iff {departure : Departure} :
    ¬ launch.Runs (launch.left outside departure) ↔
      departure.releases = true ∧ launch.ReleaseWrites outside ∨
        ¬ launch.Runs departure.state := by
  unfold left
  split_ifs with hreleases
  · rw [runs_release_iff, not_and_or, not_not, or_comm]
    exact or_congr_left (and_iff_right hreleases).symm
  · exact ⟨Or.inr, fun h => h.resolve_left fun hboth => hreleases hboth.1⟩

/-- A pubkey whose reserved generation does not run is not refused on its account. -/
theorem admits_of_not_runs {after : DaemonState} (hstopped : ¬ launch.Runs after)
    (hrefused : after.store.nextGeneration launch.reservation.pubkey =
      .error (.activeRuntime launch.reservation.pubkey)) :
    ∃ row, after.store.getSession launch.reservation.pubkey = some row ∧
      ¬ (row.runtimeGeneration = launch.reservation.runtimeGeneration ∧
        row.runtimeState = .running) := by
  cases hrow : after.store.getSession launch.reservation.pubkey with
  | none =>
      rw [Store.nextGeneration, hrow] at hrefused
      cases hrefused
  | some row => exact ⟨row, rfl, fun hrunning => hstopped (runs_iff.mpr ⟨row, hrow, hrunning⟩)⟩

theorem locator_of_left {departure : Departure} (hkind : launch.kind = .adopt resumeId)
    (hdeparts : launch.attempt env outside state = .error departure)
    (hbinds : launch.BindsNative resumeId (launch.left outside departure)) :
    launch.BindsNative resumeId state ∨ launch.WinsClaim outside resumeId state := by
  rw [bindsNative_congr (left_locators departure)] at hbinds
  rw [attempt, hkind] at hdeparts
  rcases locators_adoptNativeSession hdeparts with hsame | hwins
  · exact Or.inl ((bindsNative_congr hsame).mp hbinds)
  · exact Or.inr hwins

/-- A call is all or nothing exactly if it fails only after its claim and its command, with a
release that goes through or a generation that its registration has ended already, or if its
generation did not run in the first place. -/
theorem allOrNothing_launch_iff (env : StartEnvironment) (launch : Launch) (outside : LaunchOutside)
    (state : DaemonState) : launch.AllOrNothing env outside state ↔
      ∀ departure, launch.attempt env outside state = .error departure →
        launch.Proceeds outside state ∧
            (launch.ReleaseWrites outside ∨ ¬ launch.Runs departure.state) ∨
          ¬ launch.Proceeds outside state ∧ ¬ launch.Runs state := by
  have hexit : ∀ departure, launch.attempt env outside state = .error departure →
      (¬ launch.Runs (launch.left outside departure) ↔ launch.Proceeds outside state ∧
          (launch.ReleaseWrites outside ∨ ¬ launch.Runs departure.state) ∨
        ¬ launch.Proceeds outside state ∧ ¬ launch.Runs state) := by
    -- An exit that does not release is one that leaves the generation as it found it.
    intro departure hdeparts
    rw [not_runs_left_iff, releases_attempt hdeparts]
    by_cases hproceeds : launch.Proceeds outside state
    · simp [hproceeds]
    · simp [hproceeds, runs_of_not_proceeds hproceeds hdeparts]
  constructor
  · intro hall departure hdeparts
    exact (hexit departure hdeparts).mp (hall _ _ (run_of_attempt hdeparts)).stopped
  · intro hreleased error after hrun
    cases hattempt : launch.attempt env outside state with
    | ok answer =>
        rw [run, hattempt] at hrun
        cases hrun
    | error departure =>
        rw [run_of_attempt hattempt] at hrun
        cases hrun
        have hstopped := (hexit departure hattempt).mpr (hreleased departure hattempt)
        exact ⟨hstopped, fun resumeId hkind => locator_of_left hkind hattempt,
          admits_of_not_runs hstopped⟩

section LockedDatabase

def namelessStart : StartEnvironment where
  names := { normalizePubkey := some, resolvePublicSession := fun _ _ => .ok none }
  perSessionRooms := false
  sessionRoomId := id

/-- A native session of codex is adopted. -/
def adoption : Launch where
  reservation := { pubkey := "ab", runtimeGeneration := 1 }
  source :=
    { command := ["codex"]
      harness := "codex"
      resume := .subcommand "resume"
      bundle := "codex-pty"
      transport := "pty" }
  slug := "codex"
  group := some "root"
  kind := .adopt "native"

/-- The claim finds the database locked. -/
def locked : LaunchOutside where
  claimedAt := 20
  claimFailure := some "database is locked"
  opened := fun _ => .error "not reached"
  workRoot := "root"
  replies := fun _ => { now := 20, failure := none, prepared := "" }
  answerFailure := none
  releasedAt := 20
  releaseFailure := none

/-- The state after the reservation of the adoption. -/
def reserved : DaemonState :=
  DaemonState.fresh.setStore (commit (Store.empty.reserveSessionWithFacts
    { pubkey := "ab", observedHarness := "codex", agentSlug := "codex", channelH := "root",
      childPid := none, now := 20 }
    { observedHarness := "codex", claimedHarness := "", bundle := "codex-pty", transport := "pty",
      endpointProvenance := "launch" }) Store.empty)

theorem failed_claim_keeps_running : ¬ adoption.AllOrNothing namelessStart locked reserved := by
  intro hall
  have hleft := hall _ _ (run_of_attempt
    (show adoption.attempt namelessStart locked reserved =
      .error ⟨.outside "database is locked", false, reserved⟩ from rfl))
  exact hleft.stopped (by decide +kernel)

end LockedDatabase

end Launch

end Mosaico
