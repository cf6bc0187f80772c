import Mathlib.Logic.Function.Basic
import Mosaico.Rust.Core
import Mosaico.Transition.Run

/-!
# Offers to move a conversation

A busy session that takes part in a conversation draws in a lottery, at most once in ten
seconds; a win shows it an offer to move the conversation into a channel of its own.  The
offer can be accepted for two minutes, unless the session clears it before.

What `current_offer` answers is stated of the whole history of calls: it is the offer shown
last, as long as nobody cleared it and every look at it came in time.  Clocks may go back.
-/

namespace Mosaico

open Transition

def lotteryCooldownSecs : Nat := 10
def offerTtlSecs : Nat := 2 * 60

structure ParticipantSnapshot where
  pubkey : String
  label : String
  host : String
  runtimeGeneration : Option Nat
  live : Bool
  busy : Bool
  deriving DecidableEq, Repr

structure ConversationEvidence where
  parent : String
  cohort : List ParticipantSnapshot
  busyPubkeys : List String
  audienceCount : Nat
  engagedCount : Nat
  messageCount : Nat
  alternations : Nat
  startedAt : Nat
  endedAt : Nat
  lastMessageId : String
  deriving DecidableEq, Repr

def ConversationEvidence.callerIsBusy (evidence : ConversationEvidence) (pubkey : String) : Bool :=
  evidence.busyPubkeys.any fun candidate => candidate == pubkey

structure MoveOffer where
  evidence : ConversationEvidence
  offeredAt : Nat
  expiresAt : Nat
  deriving DecidableEq, Repr

structure SessionNudgeState where
  lastLotteryAt : Option Nat
  offer : Option MoveOffer
  deriving DecidableEq, Repr

/-- A roll of 64 bits wins with a chance of one in the square of the number of busy
participants. -/
def lotteryWins (roll busyCount : Nat) : Bool :=
  decide (roll ≤ Rust.u64Max / max (busyCount * busyCount) 1)

/-- The state of each session; one that was never considered has the default state. -/
abbrev ChannelNudgeState := String → SessionNudgeState

namespace ChannelNudgeState

def empty : ChannelNudgeState := fun _ => ⟨none, none⟩

def consider (state : ChannelNudgeState) (callerPubkey : String)
    (evidence : ConversationEvidence) (now roll : Nat) : ChannelNudgeState × Option MoveOffer :=
  if !evidence.callerIsBusy callerPubkey || evidence.busyPubkeys.isEmpty then (state, none)
  else
    let session := state callerPubkey
    if session.offer.any fun offer => decide (now ≤ offer.expiresAt) then (state, none)
    else
      if session.lastLotteryAt.any fun last => decide (now - last < lotteryCooldownSecs) then
        (Function.update state callerPubkey { session with offer := none }, none)
      else if lotteryWins roll evidence.busyPubkeys.length then
        let offer : MoveOffer := ⟨evidence, now, Rust.saturatingAdd now offerTtlSecs⟩
        (Function.update state callerPubkey ⟨some now, some offer⟩, some offer)
      else (Function.update state callerPubkey ⟨some now, none⟩, none)

def currentOffer (state : ChannelNudgeState) (callerPubkey : String) (now : Nat) :
    ChannelNudgeState × Option MoveOffer :=
  let session := state callerPubkey
  let offer := session.offer.filter fun offer => decide (now ≤ offer.expiresAt)
  (Function.update state callerPubkey { session with offer := offer }, offer)

def clearOffer (state : ChannelNudgeState) (callerPubkey : String) : ChannelNudgeState :=
  Function.update state callerPubkey { state callerPubkey with offer := none }

/-! ## Calls -/

inductive Call where
  | consider (callerPubkey : String) (evidence : ConversationEvidence) (now roll : Nat)
  | currentOffer (callerPubkey : String) (now : Nat)
  | clearOffer (callerPubkey : String)

def step (state : ChannelNudgeState) : Call → ChannelNudgeState
  | .consider callerPubkey evidence now roll =>
      (state.consider callerPubkey evidence now roll).1
  | .currentOffer callerPubkey now => (state.currentOffer callerPubkey now).1
  | .clearOffer callerPubkey => state.clearOffer callerPubkey

/-- The state after a history of calls. -/
def after (history : List Call) : ChannelNudgeState := run step empty history

/-- The offer that a call shows to `pubkey`. -/
def shown (state : ChannelNudgeState) (pubkey : String) : Call → Option MoveOffer
  | .consider callerPubkey evidence now roll =>
      if callerPubkey = pubkey then (state.consider callerPubkey evidence now roll).2 else none
  | _ => none

/-- A call that ends an offer of `pubkey`: it clears it, or looks at it too late. -/
def Ends (pubkey : String) (offer : MoveOffer) : Call → Prop
  | .consider callerPubkey evidence now _ =>
      callerPubkey = pubkey ∧ evidence.callerIsBusy pubkey = true ∧ offer.expiresAt < now
  | .currentOffer callerPubkey now => callerPubkey = pubkey ∧ offer.expiresAt < now
  | .clearOffer callerPubkey => callerPubkey = pubkey

/-- The history shows `offer` to `pubkey`, and no later call ends it. -/
def Pending (pubkey : String) (offer : MoveOffer) (history : List Call) : Prop :=
  ∃ before call later, history = before ++ call :: later ∧
    shown (after before) pubkey call = some offer ∧ ∀ next ∈ later, ¬ Ends pubkey offer next

/-! ## What one call does -/

theorem callerIsBusy_of_not {evidence : ConversationEvidence} {pubkey : String}
    (hbusy : ¬ (!evidence.callerIsBusy pubkey || evidence.busyPubkeys.isEmpty) = true) :
    evidence.callerIsBusy pubkey = true := by
  simp only [Bool.or_eq_true, Bool.not_eq_true', not_or, Bool.not_eq_false] at hbusy
  exact hbusy.1

theorem not_callerIsBusy_of {evidence : ConversationEvidence} {pubkey : String}
    (hidle : (!evidence.callerIsBusy pubkey || evidence.busyPubkeys.isEmpty) = true) :
    evidence.callerIsBusy pubkey ≠ true := by
  intro hbusy
  simp only [hbusy, Bool.not_true, Bool.false_or, List.isEmpty_iff] at hidle
  simp [ConversationEvidence.callerIsBusy, hidle] at hbusy

/-- A call on behalf of another session. -/
theorem step_of_ne (state : ChannelNudgeState) {pubkey : String} {call : Call}
    (hother : match call with
      | .consider callerPubkey _ _ _ => callerPubkey ≠ pubkey
      | .currentOffer callerPubkey _ => callerPubkey ≠ pubkey
      | .clearOffer callerPubkey => callerPubkey ≠ pubkey) :
    step state call pubkey = state pubkey := by
  cases call with
  | consider callerPubkey evidence now roll =>
      have hne : pubkey ≠ callerPubkey := Ne.symm hother
      simp only [step, consider]
      split
      · rfl
      · split
        · rfl
        · split
          · exact Function.update_of_ne hne _ _
          · split <;> exact Function.update_of_ne hne _ _
  | currentOffer callerPubkey now | clearOffer callerPubkey =>
      exact Function.update_of_ne (Ne.symm hother) _ _

/-- After a call a session has the offer that the call shows, or the one that it had if the
call does not end it. -/
theorem offer_step (state : ChannelNudgeState) (pubkey : String) (call : Call)
    (offer : MoveOffer) :
    (step state call pubkey).offer = some offer ↔
      shown state pubkey call = some offer ∨
        ((state pubkey).offer = some offer ∧ ¬ Ends pubkey offer call) := by
  cases call with
  | clearOffer callerPubkey =>
      by_cases heq : callerPubkey = pubkey
      · subst heq
        simp [step, clearOffer, shown, Ends]
      · rw [step_of_ne state heq]
        simp [shown, Ends, heq]
  | currentOffer callerPubkey now =>
      by_cases heq : callerPubkey = pubkey
      · subst heq
        simp [step, currentOffer, shown, Ends, Option.filter_eq_some_iff]
      · rw [step_of_ne state heq]
        simp [shown, Ends, heq]
  | consider callerPubkey evidence now roll =>
      by_cases heq : callerPubkey = pubkey
      · subst heq
        simp only [step, shown, if_pos, Ends, true_and]
        unfold consider
        split
        · next hidle =>
            simp [not_callerIsBusy_of hidle]
        · next hbusy =>
            have hbusy := callerIsBusy_of_not hbusy
            dsimp only
            split
            · next hlive =>
                cases hoffer : (state callerPubkey).offer with
                | none => simp [hoffer] at hlive
                | some old =>
                    simp only [hoffer, Option.any_some, decide_eq_true_eq] at hlive
                    simp only [hbusy, reduceCtorEq, false_or, Option.some.injEq]
                    constructor
                    · rintro rfl
                      exact ⟨rfl, fun hends => absurd hends.2 (Nat.not_lt.mpr hlive)⟩
                    · exact fun hboth => hboth.1
            · next hended =>
                -- The old offer is over, so only the lottery can leave one.
                have hold : ¬ ((state callerPubkey).offer = some offer ∧
                    ¬ (evidence.callerIsBusy callerPubkey = true ∧ offer.expiresAt < now)) := by
                  rintro ⟨hoffer, hends⟩
                  simp only [hoffer, Option.any_some, decide_eq_true_eq] at hended
                  exact hends ⟨hbusy, Nat.lt_of_not_le hended⟩
                split
                · simp only [Function.update_self, reduceCtorEq, false_or, false_iff]
                  exact hold
                · split
                  · simp only [Function.update_self, hold, or_false]
                  · simp only [Function.update_self, reduceCtorEq, false_or, false_iff]
                    exact hold
      · rw [step_of_ne state heq]
        simp [shown, Ends, heq]

/-- The offer that a session has is the one its history left pending. -/
theorem offer_after_iff (history : List Call) (pubkey : String) (offer : MoveOffer) :
    (after history pubkey).offer = some offer ↔ Pending pubkey offer history := by
  induction history using List.reverseRecOn with
  | nil =>
      constructor
      · intro hoffer
        cases hoffer
      · rintro ⟨before, call, later, hhistory, -⟩
        simp at hhistory
  | append_singleton earlier last ih =>
      have hrun : after (earlier ++ [last]) = step (after earlier) last := by
        rw [after, run_append]
        rfl
      rw [hrun, offer_step, ih]
      constructor
      · rintro (hshown | ⟨⟨before, call, later, rfl, hshown, hkept⟩, hends⟩)
        · exact ⟨earlier, last, [], rfl, hshown, by simp⟩
        · refine ⟨before, call, later ++ [last], by simp, hshown, ?_⟩
          intro next hnext
          rcases List.mem_append.mp hnext with hlater | hlast
          · exact hkept next hlater
          · rw [List.mem_singleton.mp hlast]
            exact hends
      · rintro ⟨before, call, later, hhistory, hshown, hkept⟩
        rcases List.eq_nil_or_concat later with rfl | ⟨middle, final, rfl⟩
        · obtain ⟨rfl, hlast⟩ := List.append_inj' hhistory rfl
          obtain rfl := List.singleton_inj.mp hlast
          exact .inl hshown
        · rw [List.concat_eq_append] at hhistory hkept
          rw [← List.cons_append, ← List.append_assoc] at hhistory
          obtain ⟨rfl, hlast⟩ := List.append_inj' hhistory rfl
          obtain rfl := List.singleton_inj.mp hlast
          refine .inr ⟨⟨before, call, middle, rfl, hshown, ?_⟩, ?_⟩
          · exact fun next hnext => hkept next (List.mem_append_left _ hnext)
          · exact hkept _ (List.mem_append_right _ List.mem_cons_self)

/-- After any history of calls on behalf of any sessions, `current_offer` answers with an
offer exactly if it is the one left pending and it has not expired. -/
theorem currentOffer_after_iff (history : List Call) (pubkey : String) (now : Nat)
    (offer : MoveOffer) :
    ((after history).currentOffer pubkey now).2 = some offer ↔
      Pending pubkey offer history ∧ now ≤ offer.expiresAt := by
  rw [← offer_after_iff]
  simp [currentOffer, Option.filter_eq_some_iff]

/-! ## How often offers are shown -/

/-- What a call that shows an offer found and left. -/
structure Shown (state : ChannelNudgeState) (pubkey : String) (call : Call) (offer : MoveOffer) :
    Prop where
  waited : ∀ last, (state pubkey).lastLotteryAt = some last →
    last + lotteryCooldownSecs ≤ offer.offeredAt
  expired : ∀ old, (state pubkey).offer = some old → old.expiresAt < offer.offeredAt
  drawn : (step state call pubkey).lastLotteryAt = some offer.offeredAt

theorem shown_spec {state : ChannelNudgeState} {pubkey : String} {call : Call}
    {offer : MoveOffer} (hshown : shown state pubkey call = some offer) :
    Shown state pubkey call offer := by
  cases call with
  | currentOffer callerPubkey now | clearOffer callerPubkey => cases hshown
  | consider callerPubkey evidence now roll =>
      simp only [shown] at hshown
      split at hshown
      · next heq =>
          subst heq
          rcases hresult : state.consider callerPubkey evidence now roll with ⟨later, answer⟩
          rw [hresult] at hshown
          obtain rfl : answer = some offer := hshown
          have hafter : step state (.consider callerPubkey evidence now roll) = later :=
            congrArg Prod.fst hresult
          unfold consider at hresult
          split at hresult
          · simp at hresult
          dsimp only at hresult
          split at hresult
          · simp at hresult
          next hended =>
          split at hresult
          · simp at hresult
          next hcool =>
          split at hresult
          · simp only [Prod.mk.injEq, Option.some.injEq] at hresult
            obtain ⟨hlater, rfl⟩ := hresult
            refine ⟨?_, ?_, ?_⟩
            · intro last hlast
              have hwaited : ¬ now - last < lotteryCooldownSecs := by simpa [hlast] using hcool
              simp only [lotteryCooldownSecs] at hwaited ⊢
              omega
            · intro old hold
              have hlate : ¬ now ≤ old.expiresAt := by simpa [hold] using hended
              exact Nat.lt_of_not_le hlate
            · rw [hafter, ← hlater]
              simp
          · simp at hresult
      · cases hshown

/-- The time of the last lottery never goes back. -/
theorem lastLotteryAt_step {state : ChannelNudgeState} {pubkey : String} {last : Nat}
    (hlast : (state pubkey).lastLotteryAt = some last) (call : Call) :
    ∃ later, (step state call pubkey).lastLotteryAt = some later ∧ last ≤ later := by
  cases call with
  | clearOffer callerPubkey =>
      by_cases heq : callerPubkey = pubkey
      · subst heq
        exact ⟨last, by simp [step, clearOffer, hlast], Nat.le_refl last⟩
      · exact ⟨last, by rw [step_of_ne state heq, hlast], Nat.le_refl last⟩
  | currentOffer callerPubkey now =>
      by_cases heq : callerPubkey = pubkey
      · subst heq
        exact ⟨last, by simp [step, currentOffer, hlast], Nat.le_refl last⟩
      · exact ⟨last, by rw [step_of_ne state heq, hlast], Nat.le_refl last⟩
  | consider callerPubkey evidence now roll =>
      by_cases heq : callerPubkey = pubkey
      · subst heq
        simp only [step, consider]
        split
        · exact ⟨last, hlast, Nat.le_refl last⟩
        split
        · exact ⟨last, hlast, Nat.le_refl last⟩
        split
        · exact ⟨last, by simp [hlast], Nat.le_refl last⟩
        · next hcool =>
            have hwaited : ¬ now - last < 10 := fun hlt => by
              rw [hlast] at hcool
              exact hcool (decide_eq_true hlt)
            split
            · exact ⟨now, by simp, by omega⟩
            · exact ⟨now, by simp, by omega⟩
      · exact ⟨last, by rw [step_of_ne state heq, hlast], Nat.le_refl last⟩

theorem lastLotteryAt_run {state : ChannelNudgeState} {pubkey : String} {last : Nat}
    (hlast : (state pubkey).lastLotteryAt = some last) (calls : List Call) :
    ∃ later, (run step state calls pubkey).lastLotteryAt = some later ∧ last ≤ later := by
  induction calls generalizing state last with
  | nil => exact ⟨last, hlast, Nat.le_refl last⟩
  | cons call rest ih =>
      obtain ⟨next, hnext, hle⟩ := lastLotteryAt_step hlast call
      obtain ⟨later, hlater, hle'⟩ := ih hnext
      exact ⟨later, hlater, Nat.le_trans hle hle'⟩

/-- Two offers to one session are ten seconds apart, and the second is not shown while the
first can still be accepted, whatever calls of any session come in between and whatever
their clocks say. -/
theorem offers_spaced (before middle : List Call) (first second : Call) (pubkey : String)
    (old new : MoveOffer) (hfirst : shown (after before) pubkey first = some old)
    (hsecond : shown (after (before ++ first :: middle)) pubkey second = some new) :
    old.offeredAt + lotteryCooldownSecs ≤ new.offeredAt ∧
      (old.expiresAt < new.offeredAt ∨ ∃ call ∈ middle, Ends pubkey old call) := by
  have hnew := shown_spec hsecond
  constructor
  · have hdrawn := (shown_spec hfirst).drawn
    -- The time of the last lottery does not go back.
    obtain ⟨later, hlater, hle⟩ := lastLotteryAt_run hdrawn middle
    have hstate : run step (step (after before) first) middle =
        after (before ++ first :: middle) := by
      rw [after, after, run_append, run_cons]
    rw [hstate] at hlater
    exact Nat.le_trans (Nat.add_le_add_right hle _) (hnew.waited later hlater)
  · by_cases hends : ∃ call ∈ middle, Ends pubkey old call
    · exact .inr hends
    -- The first offer is still current, so the second one was drawn after its expiry.
    · have hpending : Pending pubkey old (before ++ first :: middle) :=
        ⟨before, first, middle, rfl, hfirst, fun call hcall hcallEnds =>
          hends ⟨call, hcall, hcallEnds⟩⟩
      exact .inl (hnew.expired old ((offer_after_iff _ _ _).mpr hpending))

def busyPair : ConversationEvidence where
  parent := "root"
  cohort := []
  busyPubkeys := ["a", "b"]
  audienceCount := 2
  engagedCount := 2
  messageCount := 6
  alternations := 3
  startedAt := 0
  endedAt := 60
  lastMessageId := "m"

/-- An offer at 100 is not followed by another one before 221. -/
theorem offers_spaced_after_expiry :
    100 + lotteryCooldownSecs ≤ 221 ∧
      (220 < 221 ∨ ∃ call ∈ [Call.currentOffer "a" 150], Ends "a" ⟨busyPair, 100, 220⟩ call) :=
  offers_spaced [] [.currentOffer "a" 150] (.consider "a" busyPair 100 0)
    (.consider "a" busyPair 221 0) "a" ⟨busyPair, 100, 220⟩ ⟨busyPair, 221, 341⟩ (by decide)
    (by decide)

end ChannelNudgeState

end Mosaico
