import Mathlib.Data.List.Basic

/-!
# The delivery policy

What a doorbell scan does about the pending mentions of one session, decided from
the facts it gathered and from nothing else.
-/

namespace Mosaico

structure DeliveryScanFact where
  pubkey : String
  pendingEventIds : List String
  endpointId : Option String
  endpointLive : Bool
  lastInjectedAt : Option Nat
  debounceSecs : Nat
  force : Bool
  instant : Nat
  deriving DecidableEq, Repr

inductive DeliveryAction where
  | inject
  | deferDebounced
  | deferNoEndpoint
  | clearDeadEndpoint
  deriving DecidableEq, Repr

structure DeliveryDecision where
  pubkey : String
  action : DeliveryAction
  eventIds : List String
  endpointId : Option String
  retryAfterSecs : Option Nat
  deriving DecidableEq, Repr

inductive DeliveryEffect where
  | inject (pubkey endpointId : String) (eventIds : List String)
  | retryAfter (pubkey : String) (delaySecs : Nat)
  | clearDeadEndpoint (pubkey : String)
  deriving DecidableEq, Repr

namespace DeliveryScanFact

def decision (fact : DeliveryScanFact) (action : DeliveryAction) (endpointId : Option String)
    (retryAfterSecs : Option Nat) : DeliveryDecision where
  pubkey := fact.pubkey
  action := action
  eventIds := fact.pendingEventIds
  endpointId := endpointId
  retryAfterSecs := retryAfterSecs

/-- The seconds since the last injection, counted from the epoch if there is none. -/
def elapsed (fact : DeliveryScanFact) : Nat :=
  fact.instant - fact.lastInjectedAt.getD 0

/-- The last injection is too recent for another one. -/
def debounced (fact : DeliveryScanFact) : Prop :=
  fact.force = false ∧ 0 < fact.lastInjectedAt.getD 0 ∧ fact.elapsed < fact.debounceSecs

instance (fact : DeliveryScanFact) : Decidable fact.debounced :=
  inferInstanceAs (Decidable (_ ∧ _))

def decide (fact : DeliveryScanFact) : Option DeliveryDecision :=
  if fact.pendingEventIds = [] then none
  else match fact.endpointId with
    | none => some (fact.decision .deferNoEndpoint none none)
    | some endpointId =>
        if fact.endpointLive = false then
          some (fact.decision .clearDeadEndpoint (some endpointId) none)
        else if fact.debounced then
          some (fact.decision .deferDebounced (some endpointId)
            (some (max (fact.debounceSecs - fact.elapsed) 1)))
        else some (fact.decision .inject (some endpointId) none)

end DeliveryScanFact

def DeliveryDecision.effects (decision : DeliveryDecision) : List DeliveryEffect :=
  match decision.action with
  | .inject => (decision.endpointId.map (fun endpointId =>
      DeliveryEffect.inject decision.pubkey endpointId decision.eventIds)).toList
  | .deferDebounced => (decision.retryAfterSecs.map (fun delaySecs =>
      DeliveryEffect.retryAfter decision.pubkey delaySecs)).toList
  | .clearDeadEndpoint => [.clearDeadEndpoint decision.pubkey]
  | .deferNoEndpoint => []

/-- The effects of one scan of a session. -/
def DeliveryScanFact.effects (fact : DeliveryScanFact) : List DeliveryEffect :=
  (fact.decide.map DeliveryDecision.effects).getD []

namespace DeliveryScanFact

variable {fact : DeliveryScanFact} {endpointId : String}

/-- The pending mentions of a live endpoint are injected or retried. -/
theorem effects_live (hpending : fact.pendingEventIds ≠ [])
    (hendpoint : fact.endpointId = some endpointId) (hlive : fact.endpointLive = true) :
    fact.effects = [.inject fact.pubkey endpointId fact.pendingEventIds] ∨
      ∃ delaySecs, fact.effects = [.retryAfter fact.pubkey delaySecs] := by
  unfold effects decide
  rw [if_neg hpending, hendpoint]
  dsimp only
  rw [if_neg (by simp [hlive])]
  split
  · exact Or.inr ⟨_, rfl⟩
  · exact Or.inl rfl

/-- A forced scan is not debounced. -/
theorem effects_forced (hpending : fact.pendingEventIds ≠ [])
    (hendpoint : fact.endpointId = some endpointId) (hlive : fact.endpointLive = true)
    (hforce : fact.force = true) :
    fact.effects = [.inject fact.pubkey endpointId fact.pendingEventIds] := by
  unfold effects decide
  rw [if_neg hpending, hendpoint]
  dsimp only
  rw [if_neg (by simp [hlive]), if_neg]
  · rfl
  · rintro ⟨hunforced, _⟩
    rw [hforce] at hunforced
    cases hunforced

/-- Only a dead endpoint is cleared. -/
theorem dead_of_clearDeadEndpoint {pubkey : String}
    (hclears : fact.effects.head? = some (.clearDeadEndpoint pubkey)) :
    fact.endpointLive = false := by
  unfold effects decide at hclears
  split at hclears
  · cases hclears
  · split at hclears
    · cases hclears
    · split at hclears
      · assumption
      · split at hclears
        · cases hclears
        · cases hclears

end DeliveryScanFact

end Mosaico
