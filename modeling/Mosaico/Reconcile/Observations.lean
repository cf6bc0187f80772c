import Mosaico.Reconcile.Subscriptions
import Mosaico.Transition.Run

/-!
# Open observations

A pass applies its effects one after another, and confirms each of them before the next.
The replay of a channel's chat replaces the observation of the channel at the host without
a plan.  What is open at the host is what is applied, but for the effect that waits for
its confirmation, as long as every replay replaces an observation that is open.
-/

namespace Mosaico

open Relational Transition

/-- The loop over the effects of a plan, under the lock of the passes. -/
structure SubscriptionSync where
  observing : Observing
  /-- The effects of the current pass that are to be applied. -/
  pending : List SubEffect
  /-- The effect that was applied and is not confirmed yet. -/
  inFlight : Option SubEffect

/-- What the loop and the replays do.  An application may fail. -/
inductive SyncAct where
  | begin (snapshot : CoverageSnapshot)
  | apply (succeeds : Bool)
  | confirm
  | replayChannelChat (channel : String) (succeeds : Bool)

/-- A replay replaces the observation of a channel's messages. -/
def replayEffect (channel : String) : SubEffect :=
  .replace (subId ⟨.channelH, channel⟩) (subQuery ⟨.channelH, channel⟩)

namespace SubscriptionSync

/-- No pass is under way. -/
def idle (observing : Observing) : SubscriptionSync := ⟨observing, [], none⟩

def step (state : SubscriptionSync) : SyncAct → SubscriptionSync
  | .begin snapshot =>
      match state.pending, state.inFlight with
      | [], none =>
          let (effects, reconciler) := state.observing.reconciler.plan snapshot
          ⟨{ state.observing with reconciler := reconciler }, effects, none⟩
      -- another pass holds the lock
      | _, _ => state
  | .apply succeeds =>
      match state.pending, state.inFlight with
      | effect :: rest, none =>
          if succeeds then
            ⟨{ state.observing with host := applyEffect state.observing.host effect }, rest,
              some effect⟩
          else idle state.observing
      | _, _ => state
  | .confirm =>
      match state.inFlight with
      | some effect =>
          ⟨{ state.observing with reconciler := state.observing.reconciler.confirm effect },
            state.pending, none⟩
      | none => state
  | .replayChannelChat channel succeeds =>
      if succeeds then
        { state with observing :=
            { state.observing with
              host := applyEffect state.observing.host (replayEffect channel) } }
      else state

/-! ## Passes without replays -/

/-- The acts of a pass whose effects fail after the first `count` of them. -/
def roundActs (snapshot : CoverageSnapshot) (count : Nat) : List SyncAct :=
  .begin snapshot :: ((List.replicate count [.apply true, .confirm]).flatten ++ [.apply false])

theorem run_effects (observing : Observing) (pending : List SubEffect) (count : Nat) :
    run step ⟨observing, pending, none⟩
        (List.replicate count [SyncAct.apply true, SyncAct.confirm]).flatten =
      ⟨(pending.take count).foldl Observing.settle observing, pending.drop count, none⟩ := by
  induction count generalizing observing pending with
  | zero => rfl
  | succ count ih =>
      rw [List.replicate_succ, List.flatten_cons, run_append]
      cases pending with
      | nil => exact (ih observing []).trans (by simp)
      | cons effect rest => exact ih (observing.settle effect) rest

@[simp] theorem step_apply_false (observing : Observing) (pending : List SubEffect) :
    step ⟨observing, pending, none⟩ (.apply false) = idle observing := by
  cases pending with
  | nil | cons effect rest => rfl

/-- Without replays the loop is the pass. -/
theorem run_roundActs (observing : Observing) (snapshot : CoverageSnapshot) (count : Nat) :
    run step (idle observing) (roundActs snapshot count) =
      idle (observing.syncSubscriptions snapshot count) := by
  have hbegin : step (idle observing) (.begin snapshot) =
      ⟨{ observing with reconciler := (observing.reconciler.plan snapshot).2 },
        (observing.reconciler.plan snapshot).1, none⟩ := rfl
  rw [roundActs, run_cons, hbegin, run_append, run_effects, run_cons, run_nil, step_apply_false]
  rfl

/-! ## What is open -/

/-- The ids that the applied keys and the effect in flight account for. -/
def accounted (state : SubscriptionSync) : Finset String :=
  state.inFlight.elim (state.observing.reconciler.applied.image subId)
    (applyEffect (state.observing.reconciler.applied.image subId))

/-- What is open at the host is what is applied, but for the effect in flight. -/
def Accounted (state : SubscriptionSync) : Prop :=
  state.observing.host = state.accounted

/-- The effects of the current pass are edits, and they open what the plan owns. -/
def Planned (state : SubscriptionSync) : Prop :=
  ∀ effect ∈ state.inFlight.toList ++ state.pending, ∃ edit, effect = effectOf edit ∧
    ∀ key, edit = .add key → key ∈ state.observing.reconciler.owners.toFinset

theorem planned_idle (observing : Observing) : (idle observing).Planned := by
  intro effect heffect
  cases heffect

/-- A replay that succeeds replaces an observation that is open. -/
def ReplacesOpen (state : SubscriptionSync) : SyncAct → Prop
  | .replayChannelChat channel succeeds =>
      succeeds = true → subId ⟨.channelH, channel⟩ ∈ state.observing.host
  | _ => True

/-- The confirmation of an edit makes it. -/
theorem step_confirm {observing : Observing} {pending : List SubEffect}
    {edit : Diff.Edit SubKey}
    (hadd : ∀ key, edit = .add key → key ∈ observing.reconciler.owners.toFinset) :
    step ⟨observing, pending, some (effectOf edit)⟩ .confirm =
      ⟨⟨⟨edit.apply observing.reconciler.applied, observing.reconciler.owners⟩,
        observing.host⟩, pending, none⟩ := by
  show (⟨⟨observing.reconciler.confirm (effectOf edit), observing.host⟩, pending, none⟩ :
    SubscriptionSync) = _
  rw [confirm_effectOf hadd]

theorem step_planned {state : SubscriptionSync} {act : SyncAct} (hplanned : state.Planned) :
    (state.step act).Planned := by
  obtain ⟨observing, pending, inFlight⟩ := state
  cases act with
  | begin snapshot =>
      cases pending with
      | cons effect rest => exact hplanned
      | nil =>
          cases inFlight with
          | some effect => exact hplanned
          | none =>
              intro effect heffect
              rw [step, plan_eq] at heffect ⊢
              obtain ⟨edit, hedit, rfl⟩ := List.mem_map.mp heffect
              refine ⟨edit, rfl, ?_⟩
              rintro key rfl
              exact (Diff.add_mem_edits.mp hedit).1
  | apply succeeds =>
      cases inFlight with
      | some effect => cases pending <;> exact hplanned
      | none =>
          cases pending with
          | nil => exact hplanned
          | cons effect rest =>
              cases succeeds with
              | true => exact hplanned
              | false => exact planned_idle observing
  | confirm =>
      cases inFlight with
      | none => exact hplanned
      | some effect =>
          obtain ⟨edit, rfl, hadd⟩ := hplanned effect List.mem_cons_self
          intro other hother
          rw [step_confirm hadd]
          exact hplanned other (List.mem_cons_of_mem _ hother)
  | replayChannelChat channel succeeds =>
      cases succeeds with
      | true | false => exact hplanned

/-- One act keeps the host accounted for exactly if it replaces nothing that is not open. -/
theorem step_accounted_iff {state : SubscriptionSync} {act : SyncAct}
    (hplanned : state.Planned) (haccounted : state.Accounted) :
    (state.step act).Accounted ↔ state.ReplacesOpen act := by
  obtain ⟨observing, pending, inFlight⟩ := state
  cases act with
  | begin snapshot =>
      refine iff_of_true ?_ trivial
      cases pending with
      | cons effect rest => exact haccounted
      | nil =>
          cases inFlight with
          | some effect => exact haccounted
          | none =>
              rw [step, plan_eq]
              exact haccounted
  | apply succeeds =>
      refine iff_of_true ?_ trivial
      cases inFlight with
      | some effect => cases pending <;> exact haccounted
      | none =>
          cases pending with
          | nil => exact haccounted
          | cons effect rest =>
              cases succeeds with
              | true => exact congrArg (applyEffect · effect) haccounted
              | false => exact haccounted
  | confirm =>
      refine iff_of_true ?_ trivial
      cases inFlight with
      | none => exact haccounted
      | some effect =>
          obtain ⟨edit, rfl, hadd⟩ := hplanned effect List.mem_cons_self
          rw [step_confirm hadd]
          exact haccounted.trans (applyEffect_effectOf _ edit)
  -- The replay opens a subscription that no plan accounts for.
  | replayChannelChat channel succeeds =>
      cases succeeds with
      | false => exact iff_of_true haccounted (fun hfalse => by cases hfalse)
      | true =>
          have hopen : insert (subId ⟨.channelH, channel⟩) observing.host = observing.host ↔
              subId ⟨.channelH, channel⟩ ∈ observing.host := Finset.insert_eq_self
          constructor
          · intro hafter _
            exact hopen.mp (hafter.trans haccounted.symm)
          · intro hguard
            exact (hopen.mpr (hguard rfl)).trans haccounted

/-- From the start and through any acts, what is open at the host is what is applied, but for
the effect in flight, exactly if every replay that succeeds replaces an observation that is
open. -/
theorem run_accounted_iff (acts : List SyncAct) :
    (∀ elapsed, elapsed <+: acts → (run step (idle .new) elapsed).Accounted) ↔
      Guarded step ReplacesOpen (idle .new) acts :=
  forall_prefix_iff_guarded (fun _ _ => trivial) rfl (planned_idle .new)
    (fun _ _ hplanned _ => step_planned hplanned)
    (fun _ _ hplanned _ haccounted => step_accounted_iff hplanned haccounted)

/-! ## A leak -/

/-- An observation is open that is not applied, and the current pass does not concern it. -/
structure Leaked (key : SubKey) (state : SubscriptionSync) : Prop where
  planned : state.Planned
  isOpen : subId key ∈ state.observing.host
  notApplied : key ∉ state.observing.reconciler.applied
  untouched : ∀ edit, effectOf edit ∈ state.inFlight.toList ++ state.pending →
    edit ≠ .add key ∧ edit ≠ .remove key

/-- The plans of an act leave a key out. -/
def Uncovers (key : SubKey) : SyncAct → Prop
  | .begin snapshot => key ∉ desiredKeys snapshot
  | _ => True

theorem mem_applyEffect_of_ne {host : Finset String} {key : SubKey} {edit : Diff.Edit SubKey}
    (hopen : subId key ∈ host) (hother : edit ≠ .remove key) :
    subId key ∈ applyEffect host (effectOf edit) := by
  cases edit with
  | add other => exact Finset.mem_insert_of_mem hopen
  | remove other =>
      refine Finset.mem_erase.mpr ⟨?_, hopen⟩
      intro hid
      exact hother (congrArg Diff.Edit.remove (subId_injective hid).symm)

theorem notMem_apply_of_ne {keys : Finset SubKey} {key : SubKey} {edit : Diff.Edit SubKey}
    (hkey : key ∉ keys) (hother : edit ≠ .add key) : key ∉ edit.apply keys := by
  cases edit with
  | add other =>
      intro hmem
      rcases Finset.mem_insert.mp hmem with rfl | hmem
      · exact hother rfl
      · exact hkey hmem
  | remove other => exact fun hmem => hkey (Finset.mem_of_mem_erase hmem)

/-- No act closes a leaked observation as long as no plan covers its key. -/
theorem Leaked.step {key : SubKey} {state : SubscriptionSync} {act : SyncAct}
    (hleaked : state.Leaked key) (hact : Uncovers key act) : (state.step act).Leaked key := by
  obtain ⟨hplanned, hopen, hnotApplied, huntouched⟩ := hleaked
  have hnext : (state.step act).Planned := step_planned hplanned
  obtain ⟨observing, pending, inFlight⟩ := state
  cases act with
  | begin snapshot =>
      cases pending with
      | cons effect rest => exact ⟨hplanned, hopen, hnotApplied, huntouched⟩
      | nil =>
          cases inFlight with
          | some effect => exact ⟨hplanned, hopen, hnotApplied, huntouched⟩
          | none =>
              refine ⟨hnext, hopen, hnotApplied, ?_⟩
              intro edit hedit
              rw [SubscriptionSync.step, plan_eq] at hedit
              obtain ⟨other, hother, heffect⟩ := List.mem_map.mp hedit
              rw [effectOf_injective heffect] at hother
              constructor
              · rintro rfl
                exact hact (Diff.add_mem_edits.mp hother).1
              · rintro rfl
                exact hnotApplied (Diff.remove_mem_edits.mp hother).1
  | apply succeeds =>
      cases inFlight with
      | some effect => cases pending <;> exact ⟨hplanned, hopen, hnotApplied, huntouched⟩
      | none =>
          cases pending with
          | nil => exact ⟨hplanned, hopen, hnotApplied, huntouched⟩
          | cons effect rest =>
              cases succeeds with
              | false => exact ⟨hnext, hopen, hnotApplied, fun edit hedit => by cases hedit⟩
              | true =>
                  -- the effect is of another key, which leaves this one open
                  obtain ⟨edit, rfl, -⟩ := hplanned effect List.mem_cons_self
                  have hother := huntouched edit List.mem_cons_self
                  exact ⟨hnext, mem_applyEffect_of_ne hopen hother.2, hnotApplied, huntouched⟩
  | confirm =>
      cases inFlight with
      | none => exact ⟨hplanned, hopen, hnotApplied, huntouched⟩
      | some effect =>
          obtain ⟨edit, rfl, hadd⟩ := hplanned effect List.mem_cons_self
          have hother := huntouched edit List.mem_cons_self
          rw [step_confirm hadd] at hnext ⊢
          refine ⟨hnext, hopen, notMem_apply_of_ne hnotApplied hother.1, ?_⟩
          exact fun later hlater => huntouched later (List.mem_cons_of_mem _ hlater)
  | replayChannelChat channel succeeds =>
      cases succeeds with
      | false => exact ⟨hplanned, hopen, hnotApplied, huntouched⟩
      | true => exact ⟨hnext, Finset.mem_insert_of_mem hopen, hnotApplied, huntouched⟩

/-- A leaked observation stays open through any acts that do not cover its key. -/
theorem run_leaked {key : SubKey} {state : SubscriptionSync} {acts : List SyncAct}
    (hleaked : state.Leaked key) (hacts : ∀ act ∈ acts, Uncovers key act) :
    (run step state acts).Leaked key := by
  induction acts generalizing state with
  | nil => exact hleaked
  | cons act rest ih =>
      have hstep := hleaked.step (hacts act List.mem_cons_self)
      exact ih hstep (fun later hlater => hacts later (List.mem_cons_of_mem _ hlater))

/-- A replay of a channel that is neither applied nor in flight leaks its observation. -/
theorem replay_leaks {keys : Finset SubKey} {owners : Multiset SubKey} {channel : String}
    (hkeys : ⟨.channelH, channel⟩ ∉ keys) :
    ((idle (.holding keys owners)).step (.replayChannelChat channel true)).Leaked
      ⟨.channelH, channel⟩ where
  planned := planned_idle _
  isOpen := Finset.mem_insert_self _ _
  notApplied := hkeys
  untouched := fun edit hedit => by cases hedit

def roomSnapshot (archived : Finset String) : CoverageSnapshot :=
  ⟨{"room"}, ∅, ∅, archived, []⟩

/-- A pass covers a channel, the channel is archived and a second pass closes its two
observations, and then the replay runs that was requested while the channel was covered. -/
def archivedBeforeReplay : List SyncAct :=
  roundActs (roomSnapshot ∅) 3 ++
    (roundActs (roomSnapshot {"room"}) 2 ++ [.replayChannelChat "room" true])

theorem run_archivedBeforeReplay :
    run step (idle .new) archivedBeforeReplay =
      (idle (.holding (desiredKeys (roomSnapshot {"room"}))
        (desiredOwners (roomSnapshot {"room"})))).step (.replayChannelChat "room" true) := by
  have hopened : Observing.new.syncSubscriptions (roomSnapshot ∅) 3 =
      .holding (desiredKeys (roomSnapshot ∅)) (desiredOwners (roomSnapshot ∅)) := by
    show (Observing.holding ∅ 0).syncSubscriptions (roomSnapshot ∅) 3 = _
    exact Observing.syncSubscriptions_complete (Nat.le_refl 3)
  have hclosed : (Observing.holding (desiredKeys (roomSnapshot ∅))
      (desiredOwners (roomSnapshot ∅))).syncSubscriptions (roomSnapshot {"room"}) 2 =
      .holding (desiredKeys (roomSnapshot {"room"})) (desiredOwners (roomSnapshot {"room"})) := by
    exact Observing.syncSubscriptions_complete (Nat.le_refl 2)
  rw [archivedBeforeReplay, run_append, run_roundActs, hopened, run_append, run_roundActs, hclosed]
  rfl

/-- The observation of an archived channel is opened by a replay, and no later pass closes it
while the channel is archived. -/
theorem archived_replay_leaks :
    (¬ ∀ acts : List SyncAct, (run step (idle .new) acts).Accounted) ∧
      ∀ later : List SyncAct,
        (∀ snapshot, .begin snapshot ∈ later → "room" ∈ snapshot.archivedChannels) →
          "mosaico-h-room" ∈
            (run step (idle .new) (archivedBeforeReplay ++ later)).observing.host := by
  have hleaked : (run step (idle .new) archivedBeforeReplay).Leaked ⟨.channelH, "room"⟩ := by
    rw [run_archivedBeforeReplay]
    refine replay_leaks ?_
    rw [mem_desiredKeys_of_channel (Or.inl rfl), not_and_not_right]
    exact fun _ => Finset.mem_singleton_self "room"
  constructor
  · intro hclaim
    have hhost : subId ⟨.channelH, "room"⟩ ∈
        (run step (idle .new) archivedBeforeReplay).observing.host := hleaked.isOpen
    rw [hclaim archivedBeforeReplay, accounted, run_archivedBeforeReplay] at hhost
    obtain ⟨key, hkey, hid⟩ := Finset.mem_image.mp hhost
    have hnotApplied := hleaked.notApplied
    rw [run_archivedBeforeReplay] at hnotApplied
    exact hnotApplied (subId_injective hid ▸ hkey)
  · intro later harchived
    rw [run_append]
    refine (run_leaked hleaked ?_).isOpen
    intro act hact
    cases act with
    | begin snapshot =>
        show _ ∉ desiredKeys snapshot
        rw [mem_desiredKeys_of_channel (Or.inl rfl), not_and_not_right]
        exact fun _ => harchived snapshot hact
    | apply succeeds | confirm | replayChannelChat channel succeeds => trivial

end SubscriptionSync

end Mosaico
