import Mosaico.Claims.Retention

/-!
# Replayed commands

A command that the relay delivers is claimed by its handler, executed, and completed.
Chat operations are handed to their handlers at every delivery, so only the claim stands
between a replay and a second execution: the claim outlives the process, and a retention
pass deletes it a week after its completion.
-/

namespace Mosaico

open Relational Transition

/-- A claim that was completed. -/
structure CommandCompletion where
  key : String × String
  completedAt : Nat
  deriving DecidableEq

/-- The handlers and their claims, with every completion so far. -/
structure CommandSystem where
  leases : LeaseSystem
  completions : List CommandCompletion

inductive CommandStep where
  | lease (step : LeaseStep)
  | prune
  /-- The process ends, and its handlers with it. -/
  | restart
  deriving DecidableEq

def Finish.completes : Finish → Bool
  | .complete _ _ => true
  | .retry _ _ => false
  | .completeMention _ _ => true
  | .retryMention _ _ => false

namespace CommandSystem

def opened (store : Store) (now : Nat) : CommandSystem := ⟨.opened store now, []⟩

/-- The claims that a step completes. -/
def completing (leases : LeaseSystem) : LeaseStep → List CommandCompletion
  | .finish worker finish =>
      if leases.Holds worker finish.key ∧ finish.completes = true ∧ finish.Fits leases.now ∧
          (leases.row finish.key).isSome = true then
        [⟨finish.key, leases.now⟩]
      else []
  | _ => []

def setStore (system : CommandSystem) (store : Store) : CommandSystem :=
  { system with leases := system.leases.setStore store }

@[simp] theorem setStore_leases (system : CommandSystem) (store : Store) :
    (system.setStore store).leases = system.leases.setStore store := rfl

@[simp] theorem setStore_completions (system : CommandSystem) (store : Store) :
    (system.setStore store).completions = system.completions := rfl

def step (system : CommandSystem) : CommandStep → CommandSystem
  | .lease input =>
      { leases := system.leases.step input
        completions := completing system.leases input ++ system.completions }
  | .prune => system.setStore (system.leases.store.pruneRetainedState system.leases.now)
  | .restart => { system with leases := { system.leases with held := [] } }

/-- A claim on the key would be granted now. -/
def Grants (system : CommandSystem) (k : String × String) : Prop :=
  ∃ fromPubkey channelH body, changed (system.leases.store.claimOrchestrationTarget k.1 k.2
    fromPubkey channelH body system.leases.now) = true

/-! ## The invariant -/

/-- The claim was completed more than a week ago, and is none of an offline mention. -/
def Outlived (now : Nat) (completion : CommandCompletion) : Prop :=
  completion.completedAt + completedLedgerRetentionSecs < now ∧
    isOfflineMentionKey completion.key.2 = false

theorem Outlived.mono {now later : Nat} {completion : CommandCompletion}
    (hold : Outlived now completion) (hle : now ≤ later) : Outlived later completion :=
  ⟨hold.1.trans_le hle, hold.2⟩

/-- A completed claim is still there, unless it is outlived. -/
def Kept (system : CommandSystem) (completion : CommandCompletion) : Prop :=
  (∃ row, system.leases.row completion.key = some row ∧ row.state = .completed ∧
      completion.completedAt ≤ row.updatedAt) ∨
    Outlived system.leases.now completion

/-- Completions are in the past, and kept. -/
def Remembers (system : CommandSystem) : Prop :=
  ∀ completion ∈ system.completions,
    completion.completedAt ≤ system.leases.now ∧ system.Kept completion

variable {system : CommandSystem} {completion : CommandCompletion}

theorem Kept.lease (hkept : system.Kept completion)
    (hpast : completion.completedAt ≤ system.leases.now) (input : LeaseStep) :
    (step system (.lease input)).Kept completion := by
  rcases hkept with ⟨row, hrow, hcompleted, hsince⟩ | hold
  · obtain ⟨next, hnext, hstate, hsame | hnow⟩ :=
      system.leases.step_terminal input hrow hcompleted
    · exact Or.inl ⟨next, hnext, hstate, hsame ▸ hsince⟩
    · exact Or.inl ⟨next, hnext, hstate, hnow ▸ hpast⟩
  · exact Or.inr (hold.mono (system.leases.now_le_step input))

theorem step_prune (system : CommandSystem) :
    step system .prune =
      system.setStore (system.leases.store.pruneRetainedState system.leases.now) := rfl

theorem Kept.prune (hkept : system.Kept completion) :
    (step system .prune).Kept completion := by
  rw [Kept, step_prune, setStore_leases, LeaseSystem.setStore_now, LeaseSystem.setStore_row]
  rcases hkept with ⟨row, hrow, hcompleted, hsince⟩ | hold
  · rcases eventClaims_pruneRetainedState system.leases.store system.leases.now
      completion.key with hsame | ⟨_, pruned, hpruned, _, _, hbefore, hkey⟩
    · exact Or.inl ⟨row, hsame.trans hrow, hcompleted, hsince⟩
    · have hrowPruned : some row = some pruned := hrow.symm.trans hpruned
      cases hrowPruned
      have hclaimKey : row.key = completion.key := Table.key_of_find? hpruned
      have hold : Outlived system.leases.now completion := by
        constructor
        · omega
        · rw [← hclaimKey]
          exact hkey
      exact Or.inr hold
  · exact Or.inr hold

/-- The claims that a step completes are completed afterwards. -/
theorem kept_completing {leases : LeaseSystem} {input : LeaseStep}
    (hcompletion : completion ∈ completing leases input) :
    completion.completedAt = leases.now ∧
      ∃ row, (leases.step input).row completion.key = some row ∧ row.state = .completed ∧
        row.updatedAt = leases.now := by
  cases input with
  | wait seconds | claim worker eventId claimKey fromPubkey channelH body => cases hcompletion
  | finish worker finish =>
      dsimp only [completing] at hcompletion
      split at hcompletion
      · rename_i hends
        obtain ⟨hholds, hcompletes, hfits, hknown⟩ := hends
        obtain rfl := List.mem_singleton.mp hcompletion
        obtain ⟨row, hrow⟩ := Option.isSome_iff_exists.mp hknown
        have hfind := find?_finish leases.store leases.now finish finish.key
        rw [if_pos ⟨rfl, hfits⟩,
          show leases.store.eventClaims.find? finish.key = some row from hrow] at hfind
        refine ⟨rfl, finish.ended leases.now row, ?_, ?_⟩
        · dsimp only [LeaseSystem.step]
          rw [if_pos hholds]
          exact hfind
        · cases finish with
          | complete eventId claimKey | completeMention eventId mentionedPubkey => exact ⟨rfl, rfl⟩
          | retry eventId claimKey | retryMention eventId mentionedPubkey => cases hcompletes
      · cases hcompletion

theorem step_remembers (system : CommandSystem) (input : CommandStep)
    (hremembers : system.Remembers) : (step system input).Remembers := by
  intro completion hcompletion
  cases input with
  | lease input =>
      have hnow := system.leases.now_le_step input
      rcases List.mem_append.mp hcompletion with hnew | hold
      · obtain ⟨hat, row, hrow, hstate, hsince⟩ := kept_completing hnew
        refine ⟨hat.le.trans hnow, Or.inl ⟨row, hrow, hstate, ?_⟩⟩
        rw [hat, hsince]
      · obtain ⟨hpast, hkept⟩ := hremembers completion hold
        exact ⟨hpast.trans hnow, hkept.lease hpast input⟩
  | prune =>
      rw [step_prune, setStore_completions] at hcompletion
      obtain ⟨hpast, hkept⟩ := hremembers completion hcompletion
      refine ⟨?_, hkept.prune⟩
      rw [step_prune, setStore_leases, LeaseSystem.setStore_now]
      exact hpast
  | restart =>
      obtain ⟨hpast, hkept⟩ := hremembers completion hcompletion
      exact ⟨hpast, hkept⟩

/-- A claim that was completed is granted again only more than a week later, and never if it
is one of an offline mention. -/
theorem run_granted_after_completion (store : Store) (now : Nat) (inputs : List CommandStep)
    (completion : CommandCompletion)
    (hcompleted : completion ∈ (run step (opened store now) inputs).completions)
    (hgranted : (run step (opened store now) inputs).Grants completion.key) :
    completion.completedAt + completedLedgerRetentionSecs <
        (run step (opened store now) inputs).leases.now ∧
      isOfflineMentionKey completion.key.2 = false := by
  have hremembers : (run step (opened store now) inputs).Remembers :=
    run_invariant (I := Remembers) (fun _ hnone => by cases hnone) step_remembers inputs
  obtain ⟨_, ⟨row, hrow, hstate, _⟩ | hold⟩ := hremembers completion hcompleted
  -- While the completed row stands, no claim of its key is granted.
  · obtain ⟨fromPubkey, channelH, body, hchanged⟩ := hgranted
    rcases claimOrchestrationTarget_cases _ completion.key.1 completion.key.2 fromPubkey channelH
      body _ with ⟨_, hclaimable, _⟩ | ⟨hrefused, _⟩
    · rcases hclaimable row hrow with hpending | ⟨hprocessing, _⟩
      · rw [hstate] at hpending
        cases hpending
      · rw [hstate] at hprocessing
        cases hprocessing
    · rw [hchanged] at hrefused
      cases hrefused
  · exact hold

/-- A management command is claimed, completed, and delivered again a week later. -/
def replayedCommand : List CommandStep :=
  [.lease (.claim 1 "event" "management" "alice" "channel" "kill agent"),
    .lease (.finish 1 (.complete "event" "management")), .lease (.wait 604801), .prune]

theorem run_granted_after_completion_pruned :
    1000 + completedLedgerRetentionSecs <
        (run step (opened Store.empty 1000) replayedCommand).leases.now ∧
      isOfflineMentionKey "management" = false :=
  run_granted_after_completion Store.empty 1000 replayedCommand ⟨("event", "management"), 1000⟩
    (by decide +kernel) ⟨"alice", "channel", "kill agent", by decide +kernel⟩

/-- The command was completed, and its claim is granted again. -/
theorem pruned_command_runs_again :
    ¬ ∀ (store : Store) (now : Nat) (inputs : List CommandStep) (k : String × String),
      (run step (opened store now) inputs).Grants k →
        ∀ completion ∈ (run step (opened store now) inputs).completions, completion.key ≠ k := by
  intro hclaim
  have hgranted : (run step (opened Store.empty 1000) replayedCommand).Grants
      ("event", "management") := ⟨"alice", "channel", "kill agent", by decide +kernel⟩
  have hcompleted : (⟨("event", "management"), 1000⟩ : CommandCompletion) ∈
      (run step (opened Store.empty 1000) replayedCommand).completions := by decide +kernel
  exact hclaim Store.empty 1000 replayedCommand _ hgranted _ hcompleted rfl

end CommandSystem

end Mosaico
