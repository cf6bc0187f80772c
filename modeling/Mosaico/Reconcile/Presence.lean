import Mosaico.Fabric.Relay

/-!
# Presence leases

The status reconciler projects the lifecycle of a session into an expiring status that
is signed and published.  One runtime generation of a pubkey owns its presence at a time.
An operation names the generation that it speaks for, and is ignored when another one owns
the presence.
-/

namespace Mosaico

open Relational Transition

/-! ## The reconciler -/

structure PresenceProjection where
  /-- In the order of the set. -/
  channels : List String
  state : SessionState
  stateSince : Nat
  title : String
  deriving DecidableEq, Repr

/-- Complete lifecycle-owned input to public presence. -/
structure PresenceSnapshot where
  host : String
  slug : String
  relCwd : String
  dispatchEvent : Option String
  projection : PresenceProjection
  deriving DecidableEq, Repr

/-- The presence of a pubkey, as it was published last. -/
structure PublishedPresence where
  pubkey : String
  generation : Nat
  snapshot : PresenceSnapshot
  live : Bool
  renewalArm : Nat
  deriving DecidableEq, Repr

/-- The presence with another projection, online. -/
def PublishedPresence.projected (state : PublishedPresence) (projection : PresenceProjection) :
    PublishedPresence :=
  { state with
    snapshot := { state.snapshot with projection := projection }
    live := true }

def PublishedPresence.rearmed (state : PublishedPresence) (arm : Nat) : PublishedPresence :=
  { state with renewalArm := arm }

def PublishedPresence.closed (state : PublishedPresence) : PublishedPresence :=
  { state with live := false }

structure StatusCommand where
  pubkey : String
  channels : List String
  title : String
  state : SessionState
  stateSince : Nat
  host : String
  slug : String
  relCwd : String
  dispatchEvent : Option String
  deriving DecidableEq, Repr

/-- A status on its way to the relay. -/
structure PublicStatus where
  pubkey : String
  slug : String
  channels : List String
  host : String
  title : String
  activity : String
  state : SessionState
  stateSince : Nat
  relCwd : String
  expiresAt : Option Nat
  dispatchEvent : Option String
  deriving DecidableEq, Repr

inductive PublishReason where
  | opened
  | changed
  | renewed
  deriving DecidableEq, Repr

inductive StatusEffect where
  | publish (status : PublicStatus) (reason : PublishReason)
  | expire (status : PublicStatus)
  deriving DecidableEq, Repr

def StatusEffect.status : StatusEffect → PublicStatus
  | .publish status _ => status
  | .expire status => status

structure StatusOutcome where
  effects : List StatusEffect
  revision : Nat
  pubkey : Option String
  deriving DecidableEq, Repr

structure StatusReconciler where
  ttlSecs : Nat
  renewalSecs : Nat
  sessions : Table PublishedPresence.pubkey
  revision : Nat

def commandOf (state : PublishedPresence) : StatusCommand where
  pubkey := state.pubkey
  channels := state.snapshot.projection.channels
  title := state.snapshot.projection.title
  state := if state.live = true then state.snapshot.projection.state else .offline
  stateSince := state.snapshot.projection.stateSince
  host := state.snapshot.host
  slug := state.snapshot.slug
  relCwd := state.snapshot.relCwd
  dispatchEvent := state.snapshot.dispatchEvent

def toStatus (cmd : StatusCommand) (ttlSecs now : Nat) (expiring : Bool) : PublicStatus where
  pubkey := cmd.pubkey
  slug := cmd.slug
  channels := cmd.channels
  host := cmd.host
  title := cmd.title
  activity := ""
  state := if expiring = true then .offline else cmd.state
  stateSince := if expiring = true ∨ cmd.state = .offline then now else cmd.stateSince
  relCwd := cmd.relCwd
  expiresAt := some (if expiring = true ∨ cmd.state = .offline then now
    else Rust.saturatingAdd now ttlSecs)
  dispatchEvent := cmd.dispatchEvent

namespace StatusReconciler

def new (ttlSecs renewalSecs : Nat) : StatusReconciler where
  ttlSecs := max ttlSecs 1
  renewalSecs := max renewalSecs 1
  sessions := Table.empty
  revision := 0

def renewalArmAt (policy : StatusReconciler) (now : Nat) : Nat := now / policy.renewalSecs

def emptyOutcome (policy : StatusReconciler) (pubkey : String) : StatusOutcome :=
  ⟨[], policy.revision, some pubkey⟩

/-- Count a revision, and report the effects under it. -/
def outcome (policy : StatusReconciler) (pubkey : String) (effects : List StatusEffect) :
    StatusOutcome × StatusReconciler :=
  let revision := Rust.saturatingAdd policy.revision 1
  (⟨effects, revision, some pubkey⟩, { policy with revision := revision })

/-- The presence of the pubkey, if the generation owns it. -/
def owned (policy : StatusReconciler) (pubkey : String) (generation : Nat) :
    Option PublishedPresence :=
  (policy.sessions.find? pubkey).filter (fun state => state.generation = generation)

def put (policy : StatusReconciler) (state : PublishedPresence) : StatusReconciler :=
  { policy with
    sessions := policy.sessions.upsert state (fun old => { state with pubkey := old.pubkey }) }

/-- Acquire publication ownership for one runtime generation.  Equal and older starts are
idempotent. -/
def openGeneration (policy : StatusReconciler) (pubkey : String) (generation : Nat)
    (snapshot : PresenceSnapshot) (now : Nat) : StatusOutcome × StatusReconciler :=
  if (policy.sessions.find? pubkey).any (fun current => generation ≤ current.generation) then
    (policy.emptyOutcome pubkey, policy)
  else
    let state : PublishedPresence := ⟨pubkey, generation, snapshot, true, policy.renewalArmAt now⟩
    let status := toStatus (commandOf state) policy.ttlSecs now false
    (policy.put state).outcome pubkey [.publish status .opened]

/-- Publish a semantic lifecycle change for the owning generation. -/
def reconcile (policy : StatusReconciler) (pubkey : String) (generation : Nat)
    (projection : PresenceProjection) (now : Nat) : StatusOutcome × StatusReconciler :=
  match policy.owned pubkey generation with
  | none => (policy.emptyOutcome pubkey, policy)
  | some state =>
      let next := state.projected projection
      let effects := if commandOf next ≠ commandOf state then
        [.publish (toStatus (commandOf next) policy.ttlSecs now false) .changed] else []
      (policy.put next).outcome pubkey effects

/-- Extend freshness only. -/
def renew (policy : StatusReconciler) (pubkey : String) (generation now : Nat) :
    StatusOutcome × StatusReconciler :=
  match policy.owned pubkey generation with
  | none => (policy.emptyOutcome pubkey, policy)
  | some state =>
      if state.renewalArm = policy.renewalArmAt now then (policy.emptyOutcome pubkey, policy)
      else
        let next := state.rearmed (policy.renewalArmAt now)
        (policy.put next).outcome pubkey
          [.publish (toStatus (commandOf next) policy.ttlSecs now false) .renewed]

/-- Publish immediate offline state for exactly one runtime generation. -/
def close (policy : StatusReconciler) (pubkey : String) (generation now : Nat) :
    StatusOutcome × StatusReconciler :=
  match policy.owned pubkey generation with
  | none => (policy.emptyOutcome pubkey, policy)
  | some state =>
      if state.live = true then
        let next := state.closed
        (policy.put next).outcome pubkey
          [.publish (toStatus (commandOf next) policy.ttlSecs now false) .changed]
      else (policy.emptyOutcome pubkey, policy)

/-- Remove all presence for exactly one revoked runtime generation. -/
def revoke (policy : StatusReconciler) (pubkey : String) (generation now : Nat) :
    StatusOutcome × StatusReconciler :=
  match policy.owned pubkey generation with
  | none => (policy.emptyOutcome pubkey, policy)
  | some state =>
      let removed := { policy with
        sessions := policy.sessions.deleteWhere (fun row => row.pubkey = pubkey) }
      removed.outcome pubkey [.expire (toStatus (commandOf state) policy.ttlSecs now true)]

end StatusReconciler

inductive StatusOp where
  | openGeneration (pubkey : String) (generation : Nat) (snapshot : PresenceSnapshot) (now : Nat)
  | reconcile (pubkey : String) (generation : Nat) (projection : PresenceProjection) (now : Nat)
  | renew (pubkey : String) (generation now : Nat)
  | close (pubkey : String) (generation now : Nat)
  | revoke (pubkey : String) (generation now : Nat)
  deriving DecidableEq

namespace StatusOp

def pubkey : StatusOp → String
  | .openGeneration pubkey _ _ _ => pubkey
  | .reconcile pubkey _ _ _ => pubkey
  | .renew pubkey _ _ => pubkey
  | .close pubkey _ _ => pubkey
  | .revoke pubkey _ _ => pubkey

def generation : StatusOp → Nat
  | .openGeneration _ generation _ _ => generation
  | .reconcile _ generation _ _ => generation
  | .renew _ generation _ => generation
  | .close _ generation _ => generation
  | .revoke _ generation _ => generation

/-- The operation opens, reconciles or renews its generation. -/
def Announces : StatusOp → Prop
  | .openGeneration _ _ _ _ => True
  | .reconcile _ _ _ _ => True
  | .renew _ _ _ => True
  | .close _ _ _ => False
  | .revoke _ _ _ => False

instance : DecidablePred Announces
  | .openGeneration _ _ _ _ | .reconcile _ _ _ _ | .renew _ _ _ => inferInstanceAs (Decidable True)
  | .close _ _ _ | .revoke _ _ _ => inferInstanceAs (Decidable False)

/-- The operation closes or revokes the generation, or a newer one. -/
def Ends (pubkey : String) (generation : Nat) : StatusOp → Prop
  | .openGeneration _ _ _ _ => False
  | .reconcile _ _ _ _ => False
  | .renew _ _ _ => False
  | .close closed ended _ => closed = pubkey ∧ generation ≤ ended
  | .revoke revoked ended _ => revoked = pubkey ∧ generation ≤ ended

instance (pubkey : String) (generation : Nat) : DecidablePred (Ends pubkey generation)
  | .openGeneration _ _ _ _ | .reconcile _ _ _ _ | .renew _ _ _ => inferInstanceAs (Decidable False)
  | .close _ _ _ => inferInstanceAs (Decidable (_ ∧ _))
  | .revoke _ _ _ => inferInstanceAs (Decidable (_ ∧ _))

theorem Ends.of_pubkey {op : StatusOp} {pubkey : String} {generation : Nat}
    (hends : op.Ends pubkey generation) : op.pubkey = pubkey := by
  cases op with
  | openGeneration _ _ _ _ | reconcile _ _ _ _ | renew _ _ _ => exact hends.elim
  | close closed ended now | revoke revoked ended now => exact hends.1

end StatusOp

namespace StatusReconciler

def apply (policy : StatusReconciler) : StatusOp → StatusOutcome × StatusReconciler
  | .openGeneration pubkey generation snapshot now =>
      policy.openGeneration pubkey generation snapshot now
  | .reconcile pubkey generation projection now =>
      policy.reconcile pubkey generation projection now
  | .renew pubkey generation now => policy.renew pubkey generation now
  | .close pubkey generation now => policy.close pubkey generation now
  | .revoke pubkey generation now => policy.revoke pubkey generation now

def step (policy : StatusReconciler) (op : StatusOp) : StatusReconciler := (policy.apply op).2

/-! ## The entry of a generation -/

theorem owned_eq_some_iff {policy : StatusReconciler} {pubkey : String} {generation : Nat}
    {state : PublishedPresence} :
    policy.owned pubkey generation = some state ↔
      policy.sessions.find? pubkey = some state ∧ state.generation = generation := by
  simp [owned, Option.filter_eq_some_iff]

theorem pubkey_of_owned {policy : StatusReconciler} {pubkey : String} {generation : Nat}
    {state : PublishedPresence} (howned : policy.owned pubkey generation = some state) :
    state.pubkey = pubkey :=
  Table.key_of_find? (owned_eq_some_iff.mp howned).1

theorem find?_put {policy : StatusReconciler} (next : PublishedPresence) (k : String) :
    (policy.put next).sessions.find? k =
      if k = next.pubkey then some next else policy.sessions.find? k := by
  unfold put
  rw [Table.find?_upsert]
  by_cases hk : k = next.pubkey
  · rw [if_pos hk, if_pos hk]
    cases hfind : policy.sessions.find? k with
    | none => rfl
    | some old =>
        have hold := Table.key_of_find? hfind
        have hmerged : { next with pubkey := old.pubkey } = next := by
          rw [hold, hk]
        rw [Option.elim_some, hmerged]
  · rw [if_neg hk, if_neg hk]

/-! ## What an operation publishes -/

/-- Every status that the operation emits is offline. -/
def StaysOffline (policy : StatusReconciler) (op : StatusOp) : Prop :=
  ∀ effect ∈ (policy.apply op).1.effects, effect.status.state = .offline

instance (policy : StatusReconciler) (op : StatusOp) : Decidable (policy.StaysOffline op) :=
  inferInstanceAs (Decidable (∀ _ ∈ _, _))

/-- The operation brings nothing online, and an open, a reconcile or a renewal emits
nothing at all. -/
def StaysClosed (policy : StatusReconciler) (op : StatusOp) : Prop :=
  policy.StaysOffline op ∧ (op.Announces → (policy.apply op).1.effects = [])

instance (policy : StatusReconciler) (op : StatusOp) : Decidable (policy.StaysClosed op) :=
  inferInstanceAs (Decidable (_ ∧ _))

theorem staysClosed_of_silent {policy : StatusReconciler} {op : StatusOp}
    (hsilent : (policy.apply op).1.effects = []) : policy.StaysClosed op := by
  refine ⟨?_, fun _ => hsilent⟩
  intro effect heffect
  rw [hsilent] at heffect
  cases heffect

/-- A close emits the offline status of the generation. -/
theorem close_staysOffline (policy : StatusReconciler) (pubkey : String) (generation now : Nat) :
    policy.StaysOffline (.close pubkey generation now) := by
  dsimp only [StaysOffline, apply, close]
  split
  · simp [emptyOutcome]
  · split
    · simp [outcome, StatusEffect.status, toStatus, commandOf, PublishedPresence.closed]
    · simp [emptyOutcome]

theorem revoke_staysOffline (policy : StatusReconciler) (pubkey : String)
    (generation now : Nat) : policy.StaysOffline (.revoke pubkey generation now) := by
  dsimp only [StaysOffline, apply, revoke]
  split
  · simp [emptyOutcome]
  · simp [outcome, StatusEffect.status, toStatus]

/-! ## Ended generations -/

/-- A close or a revocation has named the generation, or a newer one. -/
def Ended (ops : List StatusOp) (pubkey : String) (generation : Nat) : Prop :=
  ∃ op ∈ ops, op.Ends pubkey generation

instance (ops : List StatusOp) (pubkey : String) (generation : Nat) :
    Decidable (Ended ops pubkey generation) :=
  inferInstanceAs (Decidable (∃ _ ∈ _, _))

theorem ended_concat_iff {ops : List StatusOp} {op : StatusOp} {pubkey : String}
    {generation : Nat} :
    Ended (ops ++ [op]) pubkey generation ↔
      Ended ops pubkey generation ∨ op.Ends pubkey generation := by
  simp [Ended, or_and_right, exists_or]

/-- The operations after which what has ended can stay closed.  An open that takes a presence
over is newer than every generation that has ended, a reconcile finds its own presence live,
a renewal finds it live or already renewed, and an end does not name a newer generation than
the one that is live. -/
def KeepsClosed (policy : StatusReconciler) (before : List StatusOp) : StatusOp → Prop
  | .openGeneration pubkey generation _ _ =>
      (∃ current ∈ policy.sessions.find? pubkey, generation ≤ current.generation) ∨
        ¬ Ended before pubkey generation
  | .reconcile pubkey generation _ _ => ∀ state ∈ policy.owned pubkey generation, state.live = true
  | .renew pubkey generation now =>
      ∀ state ∈ policy.owned pubkey generation,
        state.live = true ∨ state.renewalArm = policy.renewalArmAt now
  | .close pubkey generation _ =>
      ∀ state ∈ policy.sessions.find? pubkey, state.live = true → generation ≤ state.generation
  | .revoke pubkey generation _ =>
      ∀ state ∈ policy.sessions.find? pubkey, state.live = true → generation ≤ state.generation

instance (policy : StatusReconciler) (before : List StatusOp) (op : StatusOp) :
    Decidable (policy.KeepsClosed before op) :=
  match op with
  | .openGeneration _ _ _ _ => inferInstanceAs (Decidable (_ ∨ _))
  | .reconcile _ _ _ _ => inferInstanceAs (Decidable (∀ _ ∈ _, _))
  | .renew _ _ _ => inferInstanceAs (Decidable (∀ _ ∈ _, _))
  | .close _ _ _ => inferInstanceAs (Decidable (∀ _ ∈ _, _))
  | .revoke _ _ _ => inferInstanceAs (Decidable (∀ _ ∈ _, _))

/-- No presence of an ended generation is live. -/
def EndedClosed (before : List StatusOp) (policy : StatusReconciler) : Prop :=
  ∀ pubkey, ∀ state ∈ policy.sessions.find? pubkey,
    Ended before pubkey state.generation → state.live = false

theorem EndedClosed.owned {before : List StatusOp} {policy : StatusReconciler}
    (hclosed : EndedClosed before policy) {pubkey : String} {generation : Nat}
    {state : PublishedPresence} (howned : state ∈ policy.owned pubkey generation)
    (hended : Ended before pubkey generation) : state.live = false := by
  obtain ⟨hfind, rfl⟩ := owned_eq_some_iff.mp howned
  exact hclosed pubkey state hfind hended

/-- In such a state an operation that keeps it so leaves an ended generation closed. -/
theorem EndedClosed.staysClosed {before : List StatusOp} {policy : StatusReconciler}
    (hclosed : EndedClosed before policy) {op : StatusOp}
    (hkeeps : policy.KeepsClosed before op) (hended : Ended before op.pubkey op.generation) :
    policy.StaysClosed op := by
  cases op with
  | openGeneration pubkey generation snapshot now =>
      refine staysClosed_of_silent ?_
      rcases hkeeps with ⟨current, hcurrent, hnewer⟩ | hfresh
      · have hholder : (policy.sessions.find? pubkey).any
            (fun state => decide (generation ≤ state.generation)) = true := by
          rw [Option.mem_def.mp hcurrent]
          exact decide_eq_true hnewer
        simp only [apply, openGeneration, hholder, if_true, emptyOutcome]
      · exact absurd hended hfresh
  | reconcile pubkey generation projection now =>
      refine staysClosed_of_silent ?_
      cases howned : policy.owned pubkey generation with
      | none => simp only [apply, reconcile, howned, emptyOutcome]
      | some state =>
          -- the tombstone of the generation would have to be live
          have hlive : state.live = true := hkeeps state howned
          rw [hclosed.owned howned hended] at hlive
          cases hlive
  | renew pubkey generation now =>
      refine staysClosed_of_silent ?_
      cases howned : policy.owned pubkey generation with
      | none => simp only [apply, renew, howned, emptyOutcome]
      | some state =>
          rcases hkeeps state howned with hlive | harm
          · rw [hclosed.owned howned hended] at hlive
            cases hlive
          · simp only [apply, renew, howned, harm, if_true, emptyOutcome]
  | close pubkey generation now =>
      exact ⟨close_staysOffline policy pubkey generation now, fun hannounces => hannounces.elim⟩
  | revoke pubkey generation now =>
      exact ⟨revoke_staysOffline policy pubkey generation now, fun hannounces => hannounces.elim⟩

/-! ## What an operation changes -/

section Steps

variable {policy : StatusReconciler} {before : List StatusOp}

/-- An operation is about the presence of one pubkey. -/
theorem find?_step_of_ne {op : StatusOp} {pubkey : String} (hne : pubkey ≠ op.pubkey) :
    (policy.step op).sessions.find? pubkey = policy.sessions.find? pubkey := by
  have hput {state : PublishedPresence} (hkey : state.pubkey = op.pubkey) :
      (policy.put state).sessions.find? pubkey = policy.sessions.find? pubkey := by
    rw [find?_put, if_neg (hkey ▸ hne)]
  cases op with
  | openGeneration owner generation snapshot now =>
      dsimp only [step, apply, openGeneration]
      split
      · rfl
      · exact hput rfl
  | reconcile owner generation projection now =>
      dsimp only [step, apply, reconcile]
      split
      · rfl
      · rename_i state howned
        have hpubkey : state.pubkey = owner := pubkey_of_owned howned
        exact hput hpubkey
  | renew owner generation now =>
      dsimp only [step, apply, renew]
      split
      · rfl
      · rename_i state howned
        have hpubkey : state.pubkey = owner := pubkey_of_owned howned
        split
        · rfl
        · exact hput hpubkey
  | close owner generation now =>
      dsimp only [step, apply, close]
      split
      · rfl
      · rename_i state howned
        have hpubkey : state.pubkey = owner := pubkey_of_owned howned
        split
        · exact hput hpubkey
        · rfl
  | revoke owner generation now =>
      dsimp only [step, apply, revoke]
      split
      · rfl
      · show (policy.sessions.deleteWhere _).find? pubkey = _
        rw [Table.find?_deleteWhere]
        cases hstate : policy.sessions.find? pubkey with
        | none => rfl
        | some state =>
            have hother : state.pubkey = pubkey := Table.key_of_find? hstate
            exact Option.filter_some_pos (decide_eq_true (hother ▸ hne))

/-- It is enough to look at the presence that the operation is about. -/
theorem EndedClosed.step_of_own (hclosed : EndedClosed before policy) {op : StatusOp}
    (hown : ∀ state ∈ (policy.step op).sessions.find? op.pubkey,
      Ended (before ++ [op]) op.pubkey state.generation → state.live = false) :
    EndedClosed (before ++ [op]) (policy.step op) := by
  intro pubkey state hstate hended
  by_cases hpubkey : pubkey = op.pubkey
  · subst hpubkey
    exact hown state hstate hended
  · rw [find?_step_of_ne hpubkey] at hstate
    rcases ended_concat_iff.mp hended with hearlier | hnow
    · exact hclosed pubkey state hstate hearlier
    · exact absurd hnow.of_pubkey.symm hpubkey

/-- The presence that a put leaves for its pubkey. -/
theorem eq_of_mem_find?_put {state found : PublishedPresence} {pubkey : String}
    (hpubkey : state.pubkey = pubkey) (hfound : found ∈ (policy.put state).sessions.find? pubkey) :
    found = state := by
  rw [find?_put, if_pos hpubkey.symm] at hfound
  exact (Option.some.inj hfound).symm

/-- Every operation that can keep the ended generations closed does. -/
theorem EndedClosed.preserved (hclosed : EndedClosed before policy) {op : StatusOp}
    (hkeeps : policy.KeepsClosed before op) :
    EndedClosed (before ++ [op]) (policy.step op) := by
  refine hclosed.step_of_own ?_
  intro found hfound hended
  -- the generation that an end names is closed, gone or older than the one that is live
  have hpassed (ended : Nat) (pubkey : String) (hfind : found ∈ policy.sessions.find? pubkey)
      (hguard : ∀ state ∈ policy.sessions.find? pubkey, state.live = true → ended ≤ state.generation)
      (hother : found ∉ policy.owned pubkey ended)
      (hnow : Ended before pubkey found.generation ∨ found.generation ≤ ended) :
      found.live = false := by
    rcases hnow with hearlier | holder
    · exact hclosed pubkey found hfind hearlier
    · by_contra hlive
      have hnewer := hguard found hfind (by simpa using hlive)
      exact hother (owned_eq_some_iff.mpr ⟨hfind, by omega⟩)
  cases op with
  | openGeneration pubkey generation snapshot now =>
      have hearlier : Ended before pubkey found.generation :=
        (ended_concat_iff.mp hended).resolve_right id
      dsimp only [step, apply, openGeneration] at hfound
      split at hfound
      · exact hclosed pubkey found hfound hearlier
      · rename_i hfresh
        obtain rfl := eq_of_mem_find?_put rfl hfound
        rcases hkeeps with ⟨current, hcurrent, holder⟩ | hnewest
        · refine absurd ?_ hfresh
          rw [Option.mem_def.mp hcurrent]
          exact decide_eq_true holder
        · exact absurd hearlier hnewest
  | reconcile pubkey generation projection now =>
      have hearlier : Ended before pubkey found.generation :=
        (ended_concat_iff.mp hended).resolve_right id
      dsimp only [step, apply, reconcile] at hfound
      split at hfound
      · exact hclosed pubkey found hfound hearlier
      · rename_i state howned
        obtain ⟨hfind, hgeneration⟩ := owned_eq_some_iff.mp howned
        have hpubkey : state.pubkey = pubkey := Table.key_of_find? hfind
        obtain rfl : found = state.projected projection := eq_of_mem_find?_put hpubkey hfound
        -- a presence that is live has not ended, so it may be shown again
        have hdead : state.live = false := hclosed pubkey state hfind hearlier
        rw [hkeeps state howned] at hdead
        cases hdead
  | renew pubkey generation now =>
      have hearlier : Ended before pubkey found.generation :=
        (ended_concat_iff.mp hended).resolve_right id
      dsimp only [step, apply, renew] at hfound
      split at hfound
      · exact hclosed pubkey found hfound hearlier
      · rename_i state howned
        obtain ⟨hfind, hgeneration⟩ := owned_eq_some_iff.mp howned
        split at hfound
        · exact hclosed pubkey found hfound hearlier
        · have hpubkey : state.pubkey = pubkey := Table.key_of_find? hfind
          obtain rfl : found = state.rearmed (policy.renewalArmAt now) := eq_of_mem_find?_put hpubkey hfound
          exact hclosed pubkey state hfind hearlier
  | close pubkey generation now =>
      have hnow := (ended_concat_iff.mp hended).imp_right And.right
      dsimp only [step, apply, close] at hfound
      split at hfound
      · rename_i howned
        have hother : found ∉ policy.owned pubkey generation := by
          rw [howned]
          exact Option.not_mem_none found
        exact hpassed generation pubkey hfound hkeeps hother hnow
      · rename_i state howned
        obtain ⟨hfind, hgeneration⟩ := owned_eq_some_iff.mp howned
        split at hfound
        · have hpubkey : state.pubkey = pubkey := Table.key_of_find? hfind
          obtain rfl : found = state.closed := eq_of_mem_find?_put hpubkey hfound
          rfl
        · rename_i hdead
          have hsame : state = found := Option.some.inj (hfind.symm.trans hfound)
          rw [← hsame]
          simpa using hdead
  | revoke pubkey generation now =>
      have hnow := (ended_concat_iff.mp hended).imp_right And.right
      dsimp only [step, apply, revoke] at hfound
      split at hfound
      · rename_i howned
        have hother : found ∉ policy.owned pubkey generation := by
          rw [howned]
          exact Option.not_mem_none found
        exact hpassed generation pubkey hfound hkeeps hother hnow
      · have hleft : (policy.sessions.deleteWhere (fun row => row.pubkey = pubkey)).find? pubkey =
            some found := hfound
        rw [Table.find?_deleteWhere, Option.filter_eq_some_iff] at hleft
        exact absurd (Table.key_of_find? hleft.1) (of_decide_eq_true hleft.2)

end Steps

/-! ## Runs -/

/-- In every run whose operations all keep what has ended closed, an operation of a generation
that was closed or revoked before it, or of an older one, brings nothing online, and an open,
a reconcile or a renewal of it emits nothing. -/
theorem run_closedStaysClosed {start : StatusReconciler} {ops : List StatusOp}
    (hkeeps : ∀ before op after, ops = before ++ op :: after →
      (run step start before).KeepsClosed before op) :
    ∀ before op after, ops = before ++ op :: after → Ended before op.pubkey op.generation →
      (run step start before).StaysClosed op := by
  have hclosed : ∀ before, before <+: ops → EndedClosed before (run step start before) := by
    intro before
    -- What has ended stays closed: the tombstones are carried along the run.
    induction before using List.reverseRecOn with
    | nil =>
        intro _ pubkey state _ hended
        obtain ⟨op, hop, _⟩ := hended
        cases hop
    | append_singleton earlier op ih =>
        intro hprefix
        obtain ⟨after, hops⟩ := hprefix
        have hops : ops = earlier ++ op :: after := by rw [← hops, List.append_assoc]; rfl
        rw [run_append]
        exact (ih ⟨op :: after, hops.symm⟩).preserved (hkeeps earlier op after hops)
  intro before op after hops hended
  exact (hclosed before ⟨op :: after, hops.symm⟩).staysClosed (hkeeps before op after hops) hended

/-! ## A delayed reconcile -/

def workingProjection : PresenceProjection := ⟨["room"], .working, 5, "Task"⟩

/-- A generation is opened and closed. -/
def closedGeneration : List StatusOp :=
  [.openGeneration "agent" 1 ⟨"laptop", "coder", ".", none, workingProjection⟩ 0,
    .close "agent" 1 20]

/-- The next generation runs while operations of the closed one are still under way. -/
def delayedOperations : List StatusOp :=
  [.renew "agent" 1 21,
    .openGeneration "agent" 2 ⟨"laptop", "coder", ".", none, workingProjection⟩ 40,
    .openGeneration "agent" 1 ⟨"laptop", "coder", ".", none, workingProjection⟩ 41,
    .reconcile "agent" 1 workingProjection 42,
    .renew "agent" 1 70,
    .close "agent" 1 71,
    .renew "agent" 2 72,
    .revoke "agent" 2 80]

theorem run_closedStaysClosed_delayed :
    (run step (new 90 30) (closedGeneration ++ delayedOperations.take 3)).StaysClosed
        (.reconcile "agent" 1 workingProjection 42) ∧
      (run step (new 90 30) (closedGeneration ++ delayedOperations.take 4)).StaysClosed
        (.renew "agent" 1 70) := by
  have hguarded : Guarded (fun past op => past ++ [op])
      (fun past op => (run step (new 90 30) past).KeepsClosed past op) []
      (closedGeneration ++ delayedOperations) := by
    decide +kernel
  have hclosed := run_closedStaysClosed (fun before op after hops => by
    have hkeeps := guarded_iff_forall_step.mp hguarded before op after hops
    rwa [run_concat, List.nil_append] at hkeeps)
  exact ⟨hclosed _ _ (delayedOperations.drop 4) rfl (by decide),
    hclosed _ _ (delayedOperations.drop 5) rfl (by decide)⟩

/-- A reconcile that was on its way when its generation was closed brings it back online, and
a renewal publishes it offline once more. -/
theorem delayed_reconcile_reopens :
    ¬ ∀ (ttlSecs renewalSecs : Nat) (before : List StatusOp) (op : StatusOp),
      Ended before op.pubkey op.generation →
        (run step (new ttlSecs renewalSecs) before).StaysClosed op := by
  intro hclaim
  have hended : Ended closedGeneration "agent" 1 := by decide
  have honline : ¬ (run step (new 90 30) closedGeneration).StaysClosed
      (.reconcile "agent" 1 workingProjection 21) := by
    decide +kernel
  exact honline (hclaim 90 30 closedGeneration (.reconcile "agent" 1 workingProjection 21) hended)

end StatusReconciler

end Mosaico
