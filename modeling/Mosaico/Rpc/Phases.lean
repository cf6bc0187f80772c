import Mosaico.Rpc.Correlation

/-!
# The course of a request

A request only moves forward: it registers, queues its line, waits and leaves.
Only its own turns, and whoever drops it, move it.
-/

namespace Mosaico

namespace Rpc

open Transition

/-- What a request does with one turn. -/
inductive Advance : Phase → Phase → Prop
  | register : Advance .allocated .sending
  | dead : Advance .allocated (.left (some (.error .childExited)))
  | queue : Advance .sending .waiting
  | closed : Advance .sending (.leaving (some (.error .childExited)))
  | receive (outcome : Outcome) (honTime : outcome ≠ .error .timeout) :
      Advance .waiting (.leaving (some outcome))
  | leave (result : Option Outcome) : Advance (.leaving result) (.left result)

/-- How many turns a request has before it. -/
def Phase.rank : Phase → Nat
  | .allocated => 4
  | .sending => 3
  | .waiting => 2
  | .leaving _ => 1
  | .left _ => 0

theorem Advance.rank_lt {before after : Phase} (hadvance : Advance before after) :
    after.rank < before.rank := by
  cases hadvance with
  | register | dead | queue => decide
  | closed => exact Nat.one_lt_succ_succ 1
  | receive outcome honTime => exact Nat.one_lt_two
  | leave result => exact Nat.one_pos

namespace Transport

variable {state : Transport} {index : Nat} {phase : Phase}

/-! ## The phase of a request -/

def phaseAt (state : Transport) (index : Nat) : Option Phase :=
  state.calls[index]?.map Call.phase

theorem phaseAt_eq_some :
    state.phaseAt index = some phase ↔
      ∃ call, state.calls[index]? = some call ∧ call.phase = phase := by
  unfold phaseAt
  rw [Option.map_eq_some_iff]

theorem phaseAt_setPhase {call : Call} (hcall : state.calls[index]? = some call) (phase : Phase) :
    (state.setPhase index phase).phaseAt index = some phase := by
  refine phaseAt_eq_some.mpr ⟨_, calls_modify_self hcall _, rfl⟩

theorem phaseAt_setPhase_ne {other : Nat} (hne : other ≠ index) (phase : Phase) :
    (state.setPhase other phase).phaseAt index = state.phaseAt index := by
  unfold phaseAt setPhase
  rw [calls_modify_ne (Ne.symm hne)]

@[simp] theorem phaseAt_send (other : Nat) (outcome : Outcome) :
    (state.send other outcome).phaseAt index = state.phaseAt index := by
  by_cases heq : index = other
  · subst heq
    cases hcall : state.calls[index]? with
    | none =>
        show (state.calls.modify index _)[index]?.map Call.phase = _
        simp [phaseAt, hcall]
    | some call =>
        unfold phaseAt send
        rw [calls_modify_self hcall, hcall]
        by_cases hreceives : call.phase.receives = true
        · simp [hreceives]
        · simp [hreceives]
  · unfold phaseAt send
    rw [calls_modify_ne heq]

@[simp] theorem phaseAt_deliver (other frame : Nat) (outcome : Outcome) :
    (state.deliver other frame outcome).phaseAt index = state.phaseAt index := by
  unfold deliver
  split
  · rfl
  · split
    · exact phaseAt_send other outcome
    · rfl

/-- Frames change no phase. -/
theorem phaseAt_read (codec : WireCodec) :
    (state.read codec).phaseAt index = state.phaseAt index := by
  unfold read
  split
  · split
    · unfold readLine
      split
      · rfl
      · unfold dispatchInbound
        split
        · split
          · rfl
          · rw [phaseAt_deliver]
            rfl
        · rfl
    · split
      · rfl
      · rfl
  · rfl
  · rfl
  · rw [phaseAt_send]
    rfl
  · rfl

theorem phaseAt_write (taken : Option Bool) :
    (state.write taken).phaseAt index = state.phaseAt index := by
  unfold write
  split
  · split
    · rfl
    · rfl
  · split
    · rfl
    · rfl
    · rfl
  · rfl

theorem phaseAt_push (line : String) : (state.push line).phaseAt index = state.phaseAt index := by
  unfold push
  split
  · rfl
  · split
    · rfl
    · rfl

theorem phaseAt_start (hphase : state.phaseAt index = some phase) (codec : WireCodec)
    (method : String) (params : Json) :
    (state.start codec method params).phaseAt index = some phase := by
  obtain ⟨call, hcall, rfl⟩ := phaseAt_eq_some.mp hphase
  exact phaseAt_eq_some.mpr ⟨call, calls_start hcall codec method params, rfl⟩

/-- A turn of one request leaves the phases of the others. -/
theorem phaseAt_turn_ne {other : Nat} (hne : other ≠ index) (stale : Bool) :
    (state.turn other stale).phaseAt index = state.phaseAt index := by
  unfold turn
  split
  · rfl
  · split
    · unfold register
      split
      · rw [phaseAt_setPhase_ne hne]
        rfl
      · exact phaseAt_setPhase_ne hne _
    · unfold sendLine
      split
      · exact phaseAt_setPhase_ne hne _
      · split
        · rw [phaseAt_setPhase_ne hne]
          rfl
        · rfl
    · unfold receive
      split
      · exact phaseAt_setPhase_ne hne _
      · split
        · rfl
        · exact phaseAt_setPhase_ne hne _
    · unfold leave
      rw [phaseAt_setPhase_ne hne]
      rfl
    · rfl

theorem phaseAt_drop_ne {other : Nat} (hne : other ≠ index) (result : Option Outcome) :
    (state.drop other result).phaseAt index = state.phaseAt index := by
  unfold drop
  split
  · rfl
  · split
    · exact phaseAt_setPhase_ne hne _
    · rfl

/-- What a oneshot channel holds is never a timeout. -/
theorem Sound.slot_ne_timeout (hsound : Sound state) {call : Call}
    (hcall : state.calls[index]? = some call) {outcome : Outcome}
    (hslot : call.slot = some outcome) : outcome ≠ .error .timeout := by
  rcases hsound.answered.slots index call outcome hcall hslot with rfl | ⟨frame, hdelivery⟩
  · intro heq
    cases heq
  · obtain ⟨receiver, result, hreceiver, _, hresult⟩ :=
      hsound.answered.delivered frame index hdelivery
    rw [hcall] at hreceiver
    cases hreceiver
    rw [hslot] at hresult
    cases hresult
    cases result with
    | error error | ok value =>
        intro heq
        cases heq

/-- A turn advances its request or finds that it has to wait. -/
theorem phaseAt_turn (hsound : Sound state) (hphase : state.phaseAt index = some phase)
    (stale : Bool) :
    (state.turn index stale).phaseAt index = some phase ∨
      ∃ next, (state.turn index stale).phaseAt index = some next ∧ Advance phase next := by
  obtain ⟨call, hcall, hcallPhase⟩ := phaseAt_eq_some.mp hphase
  unfold turn
  rw [hcall]
  simp only
  rw [hcallPhase]
  cases phase with
  | allocated =>
      refine Or.inr ?_
      simp only [register]
      split
      · exact ⟨.sending, phaseAt_setPhase hcall _, .register⟩
      · exact ⟨_, phaseAt_setPhase hcall _, .dead⟩
  | sending =>
      simp only [sendLine]
      split
      · exact Or.inr ⟨_, phaseAt_setPhase hcall _, .closed⟩
      · split
        · exact Or.inr ⟨.waiting, phaseAt_setPhase hcall _, .queue⟩
        · exact Or.inl hphase
  | waiting =>
      simp only [receive]
      split
      · rename_i outcome hslot
        exact Or.inr ⟨_, phaseAt_setPhase hcall _,
          .receive outcome (hsound.slot_ne_timeout hcall hslot)⟩
      · split
        · exact Or.inl hphase
        · exact Or.inr ⟨_, phaseAt_setPhase hcall _, .receive _ (by simp)⟩
  | leaving result => exact Or.inr ⟨.left result, phaseAt_setPhase hcall _, .leave result⟩
  | left result => exact Or.inl hphase

theorem phaseAt_drop (hphase : state.phaseAt index = some phase) (result : Option Outcome) :
    (state.drop index result).phaseAt index = some phase ∨
      (phase.receives = true ∧
        (state.drop index result).phaseAt index = some (.leaving result)) := by
  obtain ⟨call, hcall, rfl⟩ := phaseAt_eq_some.mp hphase
  unfold drop
  rw [hcall]
  simp only
  split
  · rename_i hreceives
    exact Or.inr ⟨hreceives, phaseAt_setPhase hcall _⟩
  · exact Or.inl hphase

end Transport

/-- The moves that may change the phase of the request, or start it. -/
inductive Move.Concerns (index : Nat) : Move → Prop
  | start (method : String) (params : Json) : Concerns index (.start method params)
  | turn (stale : Bool) : Concerns index (.turn index stale)
  | cancel : Concerns index (.cancel index)
  | expire : Concerns index (.expire index)

namespace Transport

variable {state : Transport} {index : Nat} {phase : Phase}

theorem phaseAt_step_of_other {move : Move} (hother : ¬ move.Concerns index)
    (codec : WireCodec) : (state.step codec move).phaseAt index = state.phaseAt index := by
  cases move with
  | start method params => exact absurd (.start method params) hother
  | turn other stale =>
      refine phaseAt_turn_ne ?_ stale
      rintro rfl
      exact hother (.turn stale)
  | cancel other =>
      refine phaseAt_drop_ne ?_ none
      rintro rfl
      exact hother .cancel
  | expire other =>
      refine phaseAt_drop_ne ?_ _
      rintro rfl
      exact hother .expire
  | push line => exact phaseAt_push line
  | write taken => exact phaseAt_write taken
  | read => exact phaseAt_read codec
  | print line | killed =>
      simp only [step]
      split
      · rfl
      · rfl
  | exit | hangUp => rfl

/-- What one move does to the phase of a request: nothing, one advance in a turn of its own, or
the drop of its future. -/
theorem phaseAt_step (hsound : Sound state) (hphase : state.phaseAt index = some phase)
    (codec : WireCodec) (move : Move) :
    (state.step codec move).phaseAt index = some phase ∨
      (∃ next, (state.step codec move).phaseAt index = some next ∧ Advance phase next) ∨
      (phase.receives = true ∧
        ((move = .cancel index ∧
            (state.step codec move).phaseAt index = some (.leaving none)) ∨
          (move = .expire index ∧
            (state.step codec move).phaseAt index =
              some (.leaving (some (.error .timeout)))))) := by
  by_cases hmove : move.Concerns index
  · cases hmove with
    | start method params => exact Or.inl (phaseAt_start hphase codec method params)
    | turn stale =>
        rcases phaseAt_turn hsound hphase stale with hsame | hnext
        · exact Or.inl hsame
        · exact Or.inr (Or.inl hnext)
    | cancel =>
        rcases phaseAt_drop hphase none with hsame | ⟨hreceives, hleaving⟩
        · exact Or.inl hsame
        · exact Or.inr (Or.inr ⟨hreceives, Or.inl ⟨rfl, hleaving⟩⟩)
    | expire =>
        rcases phaseAt_drop hphase (some (.error .timeout)) with hsame | ⟨hreceives, hleaving⟩
        · exact Or.inl hsame
        · exact Or.inr (Or.inr ⟨hreceives, Or.inr ⟨rfl, hleaving⟩⟩)
  · exact Or.inl ((phaseAt_step_of_other hmove codec).trans hphase)

/-- A request that is not there yet starts by allocating its id. -/
theorem phaseAt_step_of_none (hnone : state.phaseAt index = none) (codec : WireCodec)
    (move : Move) :
    (state.step codec move).phaseAt index = none ∨
      (state.step codec move).phaseAt index = some .allocated := by
  have hcalls : state.calls[index]? = none := by
    unfold phaseAt at hnone
    exact Option.map_eq_none_iff.mp hnone
  by_cases hmove : move.Concerns index
  · cases hmove with
    | start method params =>
        cases hafter : (state.start codec method params).phaseAt index with
        | none => exact Or.inl hafter
        | some phase =>
            obtain ⟨call, hcall, rfl⟩ := phaseAt_eq_some.mp hafter
            rcases calls_start_cases hcall with hbefore | ⟨_, rfl⟩
            · rw [hcalls] at hbefore
              cases hbefore
            · exact Or.inr hafter
    | turn stale =>
        refine Or.inl ?_
        show (state.turn index stale).phaseAt index = none
        unfold turn
        rw [hcalls]
        exact hnone
    | cancel =>
        refine Or.inl ?_
        show (state.drop index none).phaseAt index = none
        unfold drop
        rw [hcalls]
        exact hnone
    | expire =>
        refine Or.inl ?_
        show (state.drop index _).phaseAt index = none
        unfold drop
        rw [hcalls]
        exact hnone
  · exact Or.inl ((phaseAt_step_of_other hmove codec).trans hnone)

/-! ## Whole runs -/

theorem sound_run (codec : WireCodec) (moves : List Move) :
    Sound (run (step codec) initial moves) :=
  run_invariant sound_initial (fun _ move hsound => hsound.step codec move) moves

/-- A request ends without a result only if its caller drops it, and with a timeout only if its
deadline passes. -/
theorem causes_run (codec : WireCodec) (moves : List Move)
    (hphase : (run (step codec) initial moves).phaseAt index = some phase) :
    ((phase = .leaving none ∨ phase = .left none) → Move.cancel index ∈ moves) ∧
      (phase.result? = some (.error .timeout) → Move.expire index ∈ moves) := by
  induction moves using List.reverseRecOn generalizing phase with
  | nil => simp [phaseAt, initial] at hphase
  | append_singleton earlier last ih =>
      rw [run_append, run_cons, run_nil] at hphase
      have hsound := sound_run codec earlier
      have hearlier : ∀ {move : Move}, move ∈ earlier → move ∈ earlier ++ [last] :=
        fun hmem => List.mem_append_left _ hmem
      cases hbefore : (run (step codec) initial earlier).phaseAt index with
      | none =>
          rcases phaseAt_step_of_none hbefore codec last with hnone | hallocated
          · rw [hnone] at hphase
            cases hphase
          · have hnew : phase = .allocated := Option.some.inj (hphase.symm.trans hallocated)
            subst hnew
            simp [Phase.result?]
      | some before =>
          obtain ⟨hcancel, hexpire⟩ := ih hbefore
          rcases phaseAt_step hsound hbefore codec last with
            hsame | ⟨next, hnext, hadvance⟩ | ⟨_, ⟨rfl, hnext⟩ | ⟨rfl, hnext⟩⟩
          · have heq : phase = before := Option.some.inj (hphase.symm.trans hsame)
            subst heq
            exact ⟨fun hdropped => hearlier (hcancel hdropped),
              fun htimeout => hearlier (hexpire htimeout)⟩
          · have heq : phase = next := Option.some.inj (hphase.symm.trans hnext)
            subst heq
            cases hadvance with
            | register | dead | queue | closed => simp [Phase.result?]
            | receive outcome honTime => simp [Phase.result?, honTime]
            | leave result =>
                refine ⟨?_, fun htimeout => hearlier (hexpire htimeout)⟩
                intro hdropped
                refine hearlier (hcancel (Or.inl ?_))
                simpa using hdropped
          · have heq : phase = .leaving none := Option.some.inj (hphase.symm.trans hnext)
            subst heq
            simp [Phase.result?]
          · have heq : phase = .leaving (some (.error .timeout)) :=
              Option.some.inj (hphase.symm.trans hnext)
            subst heq
            simp

end Transport

end Rpc

end Mosaico
