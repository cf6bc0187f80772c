import Mosaico.Rpc.Requests

/-!
# Who gets which response

A sender is at one place at a time: registered under the id of its request, among
those that the reader still has to fail, or used up.  Hence a oneshot channel
is written once, by the frame that carries its request's id or by the end of the
stream.
-/

namespace Mosaico

namespace Rpc

open Transition

namespace Transport

variable {state : Transport} {index : Nat} {call : Call}

/-! ## Registrations -/

/-- Nobody holds the sender of the request any more. -/
def Gone (state : Transport) (index : Nat) : Prop :=
  (∀ id, state.pending.lookup id ≠ some index) ∧ index ∉ state.reader.senders

/-- The ids are the positions of the requests, a registration belongs to the request that
allocated its id and has not left, and a sender that somebody holds has not been used. -/
structure Registered (state : Transport) : Prop where
  ids : state.ids = state.calls.length + 1
  id_eq : ∀ (index : Nat) (call : Call), state.calls[index]? = some call →
    call.id = (index : Int) + 1
  fresh : ∀ (index : Nat) (call : Call), state.calls[index]? = some call → call.phase = .allocated →
    call.slot = none
  owner : ∀ (id : Int) (index : Nat), state.pending.lookup id = some index →
    ∃ call : Call, state.calls[index]? = some call ∧ call.id = id ∧
      call.phase.registered = true ∧ call.slot = none
  senders_nodup : state.reader.senders.Nodup
  senders_unsent : ∀ index ∈ state.reader.senders,
    ∃ call : Call, state.calls[index]? = some call ∧ call.slot = none
  marked : state.reader ≠ .reading → state.alive = false
  drained : state.reader.drained = true → state.pending = ∅

theorem registered_initial : Registered initial where
  ids := rfl
  id_eq := by simp [initial]
  fresh := by simp [initial]
  owner := by simp [initial]
  senders_nodup := List.nodup_nil
  senders_unsent := by simp [initial, Reader.senders]
  marked := by simp [initial]
  drained := by simp [initial, Reader.drained]

theorem calls_modify_self (hcall : state.calls[index]? = some call) (change : Call → Call) :
    (state.modify index change).calls[index]? = some (change call) := by
  show (state.calls.modify index change)[index]? = _
  simp [hcall]

theorem calls_modify_ne {other : Nat} (hne : other ≠ index) (change : Call → Call) :
    (state.modify index change).calls[other]? = state.calls[other]? := by
  show (state.calls.modify index change)[other]? = _
  simp [Ne.symm hne]

/-- Requests after a change of one of them. -/
theorem getElem?_modify_eq_some {calls : List Call} {change : Call → Call} {other : Nat}
    {after : Call} (hcall : calls[index]? = some call)
    (hafter : (calls.modify index change)[other]? = some after) :
    (other = index ∧ after = change call) ∨ (other ≠ index ∧ calls[other]? = some after) := by
  by_cases heq : other = index
  · rw [heq, List.getElem?_modify_eq, hcall] at hafter
    cases hafter
    exact Or.inl ⟨heq, rfl⟩
  · rw [List.getElem?_modify_ne _ _ (Ne.symm heq)] at hafter
    exact Or.inr ⟨heq, hafter⟩

namespace Registered

/-- A change of one request keeps the registrations if it keeps the id, leaves an unused channel
unused as long as somebody holds its sender, and does not let a registered request leave. -/
theorem modify (hregistered : Registered state) (hcall : state.calls[index]? = some call)
    {change : Call → Call} (hid : (change call).id = call.id)
    (hslot : ¬ state.Gone index → (change call).slot = call.slot)
    (hphase : (∃ id, state.pending.lookup id = some index) →
      (change call).phase.registered = true)
    (hfresh : (change call).phase = .allocated → (change call).slot = none) :
    Registered (state.modify index change) where
  ids := by
    show state.ids = (state.calls.modify index change).length + 1
    rw [List.length_modify]
    exact hregistered.ids
  id_eq := by
    intro other after hafter
    rcases getElem?_modify_eq_some hcall hafter with ⟨rfl, rfl⟩ | ⟨_, hother⟩
    · rw [hid]
      exact hregistered.id_eq other call hcall
    · exact hregistered.id_eq other after hother
  fresh := by
    intro other after hafter hallocated
    rcases getElem?_modify_eq_some hcall hafter with ⟨rfl, rfl⟩ | ⟨_, hother⟩
    · exact hfresh hallocated
    · exact hregistered.fresh other after hother hallocated
  owner := by
    intro id other hlookup
    obtain ⟨holder, hholder, hheld, hstill, hunsent⟩ := hregistered.owner id other hlookup
    by_cases heq : other = index
    · subst heq
      rw [hcall] at hholder
      cases hholder
      refine ⟨change call, calls_modify_self hcall change, hid.trans hheld,
        hphase ⟨id, hlookup⟩, ?_⟩
      rw [hslot (fun hgone => hgone.1 id hlookup)]
      exact hunsent
    · exact ⟨holder, (calls_modify_ne heq change).trans hholder, hheld, hstill, hunsent⟩
  senders_nodup := hregistered.senders_nodup
  senders_unsent := by
    intro other hother
    obtain ⟨holder, hholder, hunsent⟩ := hregistered.senders_unsent other hother
    by_cases heq : other = index
    · subst heq
      rw [hcall] at hholder
      cases hholder
      refine ⟨change call, calls_modify_self hcall change, ?_⟩
      rw [hslot (fun hgone => hgone.2 hother)]
      exact hunsent
    · exact ⟨holder, (calls_modify_ne heq change).trans hholder, hunsent⟩
  marked := hregistered.marked
  drained := hregistered.drained

theorem setPhase (hregistered : Registered state) (hcall : state.calls[index]? = some call)
    {phase : Phase} (hphase : (∃ id, state.pending.lookup id = some index) →
      phase.registered = true) (hallocated : phase ≠ .allocated) :
    Registered (state.setPhase index phase) :=
  hregistered.modify hcall rfl (fun _ => rfl) hphase (fun heq => absurd heq hallocated)

/-- Once its sender has been taken from its holder, a channel may be written. -/
theorem send (hregistered : Registered state) (hcall : state.calls[index]? = some call)
    (hgone : state.Gone index) (outcome : Outcome) :
    Registered (state.send index outcome) := by
  refine hregistered.modify hcall ?_ (fun hheld => absurd hgone hheld)
    (fun hpending => ?_) (fun hallocated => ?_)
  · by_cases hreceives : call.phase.receives = true
    · simp [hreceives]
    · simp [hreceives]
  · obtain ⟨id, hlookup⟩ := hpending
    exact absurd hlookup (hgone.1 id)
  · by_cases hreceives : call.phase.receives = true
    · simp only [hreceives, if_true] at hallocated
      rw [hallocated] at hreceives
      cases hreceives
    · simp only [hreceives] at hallocated ⊢
      exact hregistered.fresh index call hcall hallocated

/-- Registering under the id that the request has allocated. -/
theorem insert (hregistered : Registered state) (hcall : state.calls[index]? = some call)
    (hallocated : call.phase = .allocated) (hundrained : state.reader.drained = false) :
    Registered
      ({ state with pending := state.pending.insert call.id index }.setPhase index .sending) := by
  have hsent : Registered (state.setPhase index .sending) :=
    hregistered.setPhase hcall (fun _ => rfl) (by simp)
  exact
    { hsent with
      owner := by
        intro id other hlookup
        have hlookup : (state.pending.insert call.id index).lookup id = some other := hlookup
        by_cases heq : id = call.id
        · rw [heq, AList.lookup_insert] at hlookup
          cases hlookup
          exact ⟨{ call with phase := .sending }, calls_modify_self hcall _, heq.symm, rfl,
            hregistered.fresh index call hcall hallocated⟩
        · rw [AList.lookup_insert_ne heq] at hlookup
          exact hsent.owner id other hlookup
      drained := by
        intro hdrained
        have hstill : state.reader.drained = true := hdrained
        rw [hundrained] at hstill
        cases hstill }

/-- A registration that is dropped, if there is one. -/
theorem erase (hregistered : Registered state) (id : Int) :
    Registered { state with pending := state.pending.erase id } :=
  { hregistered with
    owner := by
      intro other holder hlookup
      by_cases heq : other = id
      · rw [heq, AList.lookup_erase] at hlookup
        cases hlookup
      · rw [AList.lookup_erase_ne heq] at hlookup
        exact hregistered.owner other holder hlookup
    drained := by
      intro hdrained
      show state.pending.erase id = ∅
      rw [hregistered.drained hdrained]
      rfl }

/-- After the request's id has been dropped, it has no registration. -/
theorem unregistered_erase (hregistered : Registered state)
    (hcall : state.calls[index]? = some call) (id : Int) :
    (state.pending.erase call.id).lookup id ≠ some index := by
  intro hlookup
  by_cases heq : id = call.id
  · rw [heq, AList.lookup_erase] at hlookup
    cases hlookup
  · rw [AList.lookup_erase_ne heq] at hlookup
    obtain ⟨holder, hholder, hid, _⟩ := hregistered.owner id index hlookup
    rw [hcall] at hholder
    cases hholder
    exact heq hid.symm

/-- No request is registered twice, nor registered and still to be failed. -/
theorem gone_erase (hregistered : Registered state) {id : Int}
    (hlookup : state.pending.lookup id = some index) :
    Gone { state with pending := state.pending.erase id } index := by
  obtain ⟨holder, hholder, rfl, _⟩ := hregistered.owner id index hlookup
  refine ⟨fun other => hregistered.unregistered_erase hholder other, ?_⟩
  intro hmem
  have hdrained : state.reader.drained = true := by
    cases hreader : state.reader with
    | draining senders => rfl
    | reading | ended => simp [hreader, Reader.senders] at hmem
    | finished => rfl
  rw [hregistered.drained hdrained, AList.lookup_empty] at hlookup
  cases hlookup

theorem mem_entries_iff :
    index ∈ state.pending.entries.map (·.snd) ↔ ∃ id, state.pending.lookup id = some index := by
  rw [List.mem_map]
  constructor
  · rintro ⟨⟨id, holder⟩, hmem, rfl⟩
    exact ⟨id, AList.mem_lookup_iff.mpr hmem⟩
  · rintro ⟨id, hlookup⟩
    exact ⟨⟨id, index⟩, AList.mem_lookup_iff.mp hlookup, rfl⟩

/-- The drain empties the map and leaves the reader with its senders. -/
theorem drain (hregistered : Registered state) (hended : state.reader = .ended) :
    Registered { state with
      reader := .draining (state.pending.entries.map (·.snd))
      pending := ∅ } where
  ids := hregistered.ids
  id_eq := hregistered.id_eq
  fresh := hregistered.fresh
  owner := by
    intro id other hlookup
    cases hlookup
  senders_nodup := by
    show (state.pending.entries.map (·.snd)).Nodup
    refine List.Nodup.map_on ?_ state.pending.nodupKeys.nodup
    rintro ⟨first, holder⟩ hfirst ⟨second, other⟩ hsecond heq
    have heq : holder = other := heq
    subst heq
    obtain ⟨_, hcall, rfl, _⟩ :=
      hregistered.owner first holder (AList.mem_lookup_iff.mpr hfirst)
    obtain ⟨_, hsame, rfl, _⟩ :=
      hregistered.owner second holder (AList.mem_lookup_iff.mpr hsecond)
    rw [hcall] at hsame
    cases hsame
    rfl
  senders_unsent := by
    intro other hother
    obtain ⟨id, hlookup⟩ := mem_entries_iff.mp hother
    obtain ⟨call, hcall, _, _, hunsent⟩ := hregistered.owner id other hlookup
    exact ⟨call, hcall, hunsent⟩
  marked := fun _ => hregistered.marked (by simp [hended])
  drained := fun _ => rfl

end Registered

/-! ## Answers -/

/-- What a oneshot channel holds is the end of the stream or the response that was delivered to its
request, each response at most once; a request ends with what its channel holds, unless it found the
child dead or was dropped. -/
structure Answered (state : Transport) : Prop where
  slots : ∀ (index : Nat) (call : Call) (outcome : Outcome),
    state.calls[index]? = some call → call.slot = some outcome →
      outcome = .error .childExited ∨ ∃ frame, (frame, index) ∈ state.deliveries
  results : ∀ (index : Nat) (call : Call) (outcome : Outcome),
    state.calls[index]? = some call → call.phase.result? = some outcome →
      outcome = .error .childExited ∨ outcome = .error .timeout ∨ call.slot = some outcome
  delivered : ∀ frame index : Nat, (frame, index) ∈ state.deliveries →
    ∃ (call : Call) (result : Except RpcErrorObject Json), state.calls[index]? = some call ∧
      state.frames[frame]? = some (.response call.id result) ∧
      call.slot = some (result.mapError .protocol)
  frames_nodup : (state.deliveries.map Prod.fst).Nodup
  calls_nodup : (state.deliveries.map Prod.snd).Nodup

theorem answered_initial : Answered initial where
  slots := by simp [initial]
  results := by simp [initial]
  delivered := by simp [initial]
  frames_nodup := List.nodup_nil
  calls_nodup := List.nodup_nil

namespace Answered

theorem setPhase (hanswered : Answered state) (hcall : state.calls[index]? = some call)
    {phase : Phase} (hresult : ∀ outcome, phase.result? = some outcome →
      outcome = .error .childExited ∨ outcome = .error .timeout ∨ call.slot = some outcome) :
    Answered (state.setPhase index phase) where
  slots := by
    intro other after outcome hafter hslot
    rcases getElem?_modify_eq_some hcall hafter with ⟨rfl, rfl⟩ | ⟨_, hother⟩
    · exact hanswered.slots other call outcome hcall hslot
    · exact hanswered.slots other after outcome hother hslot
  results := by
    intro other after outcome hafter hgiven
    rcases getElem?_modify_eq_some hcall hafter with ⟨rfl, rfl⟩ | ⟨_, hother⟩
    · exact hresult outcome hgiven
    · exact hanswered.results other after outcome hother hgiven
  delivered := by
    intro frame other hdelivery
    obtain ⟨receiver, result, hreceiver, hframe, hslot⟩ :=
      hanswered.delivered frame other hdelivery
    by_cases heq : other = index
    · subst heq
      rw [hcall] at hreceiver
      cases hreceiver
      exact ⟨{ call with phase := phase }, result, calls_modify_self hcall _, hframe, hslot⟩
    · exact ⟨receiver, result, (calls_modify_ne heq _).trans hreceiver, hframe, hslot⟩
  frames_nodup := hanswered.frames_nodup
  calls_nodup := hanswered.calls_nodup

/-- Nothing has been delivered to a request whose channel is empty. -/
theorem undelivered (hanswered : Answered state) (hcall : state.calls[index]? = some call)
    (hunsent : call.slot = none) (frame : Nat) : (frame, index) ∉ state.deliveries := by
  intro hdelivery
  obtain ⟨receiver, result, hreceiver, _, hslot⟩ := hanswered.delivered frame index hdelivery
  rw [hcall] at hreceiver
  cases hreceiver
  rw [hunsent] at hslot
  cases hslot

/-- Failing a sender that has not been used. -/
theorem fail (hanswered : Answered state) (hcall : state.calls[index]? = some call)
    (hunsent : call.slot = none) : Answered (state.send index (.error .childExited)) where
  slots := by
    intro other after outcome hafter hslot
    rcases getElem?_modify_eq_some hcall hafter with ⟨rfl, rfl⟩ | ⟨_, hother⟩
    · split at hslot
      · cases hslot
        exact Or.inl rfl
      · rw [hunsent] at hslot
        cases hslot
    · exact hanswered.slots other after outcome hother hslot
  results := by
    intro other after outcome hafter hgiven
    rcases getElem?_modify_eq_some hcall hafter with ⟨rfl, rfl⟩ | ⟨_, hother⟩
    · have hsame : call.phase.result? = some outcome := by
        split at hgiven
        · exact hgiven
        · exact hgiven
      rcases hanswered.results other call outcome hcall hsame with hexited | htimeout | hslot
      · exact Or.inl hexited
      · exact Or.inr (Or.inl htimeout)
      · rw [hunsent] at hslot
        cases hslot
    · exact hanswered.results other after outcome hother hgiven
  delivered := by
    intro frame other hdelivery
    have hne : other ≠ index := by
      rintro rfl
      exact hanswered.undelivered hcall hunsent frame hdelivery
    obtain ⟨receiver, result, hreceiver, hframe, hslot⟩ :=
      hanswered.delivered frame other hdelivery
    exact ⟨receiver, result, (calls_modify_ne hne _).trans hreceiver, hframe, hslot⟩
  frames_nodup := hanswered.frames_nodup
  calls_nodup := hanswered.calls_nodup

/-- A frame more. -/
theorem frame (hanswered : Answered state) (inbound : Inbound) :
    Answered { state with frames := state.frames ++ [inbound] } :=
  { hanswered with
    delivered := by
      intro frame other hdelivery
      obtain ⟨receiver, result, hreceiver, hframe, hslot⟩ :=
        hanswered.delivered frame other hdelivery
      refine ⟨receiver, result, hreceiver, ?_, hslot⟩
      show (state.frames ++ [inbound])[frame]? = _
      rw [List.getElem?_append_left (List.getElem?_eq_some_iff.mp hframe).1]
      exact hframe }

/-- The latest frame is delivered to the request whose id it carries. -/
theorem deliver (hanswered : Answered state) {number : Nat}
    (hcall : state.calls[index]? = some call) (hunsent : call.slot = none)
    (hnew : ∀ other, (number, other) ∉ state.deliveries)
    {result : Except RpcErrorObject Json}
    (hframe : state.frames[number]? = some (.response call.id result)) :
    Answered (state.deliver index number (result.mapError .protocol)) := by
  unfold Transport.deliver
  rw [hcall]
  simp only
  split
  · rename_i hreceives
    exact
      { slots := by
          intro other after outcome hafter hslot
          rcases getElem?_modify_eq_some hcall hafter with ⟨rfl, rfl⟩ | ⟨_, hother⟩
          · exact Or.inr ⟨number, List.mem_append_right _ (List.mem_singleton.mpr rfl)⟩
          · rcases hanswered.slots other after outcome hother hslot with hexited | ⟨frame, hmem⟩
            · exact Or.inl hexited
            · exact Or.inr ⟨frame, List.mem_append_left _ hmem⟩
        results := by
          intro other after outcome hafter hgiven
          rcases getElem?_modify_eq_some hcall hafter with ⟨rfl, rfl⟩ | ⟨_, hother⟩
          · -- A request that still receives has not been given a result.
            rw [if_pos hreceives] at hgiven
            cases hphase : call.phase with
            | sending | waiting => simp [hphase, Phase.result?] at hgiven
            | allocated | leaving given | left given => simp [hphase, Phase.receives] at hreceives
          · exact hanswered.results other after outcome hother hgiven
        -- The frame goes to the one call that had an empty slot.
        delivered := by
          intro frame other hdelivery
          rcases List.mem_append.mp hdelivery with hbefore | hnow
          · have hne : other ≠ index := by
              rintro rfl
              exact hanswered.undelivered hcall hunsent frame hbefore
            obtain ⟨receiver, given, hreceiver, hgiven, hslot⟩ :=
              hanswered.delivered frame other hbefore
            exact ⟨receiver, given, (calls_modify_ne hne _).trans hreceiver, hgiven, hslot⟩
          · cases List.mem_singleton.mp hnow
            refine ⟨{ call with slot := some (result.mapError .protocol) }, result,
              (calls_modify_self hcall _).trans ?_, hframe, rfl⟩
            simp [hreceives]
        frames_nodup := by
          show ((state.deliveries ++ [(number, index)]).map Prod.fst).Nodup
          rw [List.map_append, List.map_singleton, ← List.concat_eq_append]
          refine List.Nodup.concat ?_ hanswered.frames_nodup
          intro hmem
          obtain ⟨⟨frame, receiver⟩, hdelivery, hsame⟩ := List.mem_map.mp hmem
          cases hsame
          exact hnew receiver hdelivery
        calls_nodup := by
          show ((state.deliveries ++ [(number, index)]).map Prod.snd).Nodup
          rw [List.map_append, List.map_singleton, ← List.concat_eq_append]
          refine List.Nodup.concat ?_ hanswered.calls_nodup
          intro hmem
          obtain ⟨⟨frame, receiver⟩, hdelivery, hsame⟩ := List.mem_map.mp hmem
          cases hsame
          exact hanswered.undelivered hcall hunsent frame hdelivery }
  · exact hanswered

end Answered

/-! ## Every move -/

structure Sound (state : Transport) : Prop where
  registered : Registered state
  answered : Answered state

theorem sound_initial : Sound initial := ⟨registered_initial, answered_initial⟩

/-- A new request leaves the others where they are. -/
theorem calls_start (hcall : state.calls[index]? = some call) (codec : WireCodec)
    (method : String) (params : Json) :
    (state.start codec method params).calls[index]? = some call := by
  show (state.calls ++ [_])[index]? = _
  rw [List.getElem?_append_left (List.getElem?_eq_some_iff.mp hcall).1]
  exact hcall

theorem calls_start_cases {codec : WireCodec} {method : String} {params : Json}
    (hafter : (state.start codec method params).calls[index]? = some call) :
    state.calls[index]? = some call ∨
      (index = state.calls.length ∧
        call = { id := state.ids, line := codec.requestLine state.ids method params }) := by
  have hafter : (state.calls ++ [_])[index]? = some call := hafter
  rw [List.getElem?_append] at hafter
  split at hafter
  · exact Or.inl hafter
  · obtain ⟨hlength, heq⟩ := List.getElem?_eq_some_iff.mp hafter
    simp only [List.length_singleton] at hlength
    have hzero : index - state.calls.length = 0 := by omega
    refine Or.inr ⟨by omega, ?_⟩
    simpa [hzero] using heq.symm

namespace Sound

theorem start (hsound : Sound state) (codec : WireCodec) (method : String) (params : Json) :
    Sound (state.start codec method params) := by
  refine ⟨?_, ?_⟩
  · exact
      { hsound.registered with
        ids := by
          show state.ids + 1 = ((state.calls ++ [_]).length : Int) + 1
          rw [List.length_append, hsound.registered.ids]
          simp
        id_eq := by
          intro other after hafter
          rcases calls_start_cases hafter with hother | ⟨rfl, rfl⟩
          · exact hsound.registered.id_eq other after hother
          · exact hsound.registered.ids
        fresh := by
          intro other after hafter hallocated
          rcases calls_start_cases hafter with hother | ⟨rfl, rfl⟩
          · exact hsound.registered.fresh other after hother hallocated
          · rfl
        owner := by
          intro id other hlookup
          obtain ⟨holder, hholder, hheld⟩ := hsound.registered.owner id other hlookup
          exact ⟨holder, calls_start hholder codec method params, hheld⟩
        senders_unsent := by
          intro other hother
          obtain ⟨holder, hholder, hunsent⟩ := hsound.registered.senders_unsent other hother
          exact ⟨holder, calls_start hholder codec method params, hunsent⟩ }
  · exact
      { hsound.answered with
        slots := by
          intro other after outcome hafter hslot
          rcases calls_start_cases hafter with hother | ⟨rfl, rfl⟩
          · exact hsound.answered.slots other after outcome hother hslot
          · cases hslot
        results := by
          intro other after outcome hafter hgiven
          rcases calls_start_cases hafter with hother | ⟨rfl, rfl⟩
          · exact hsound.answered.results other after outcome hother hgiven
          · cases hgiven
        delivered := by
          intro frame other hdelivery
          obtain ⟨receiver, result, hreceiver, hrest⟩ :=
            hsound.answered.delivered frame other hdelivery
          exact ⟨receiver, result, calls_start hreceiver codec method params, hrest⟩ }

theorem setPhase (hsound : Sound state) (hcall : state.calls[index]? = some call) {phase : Phase}
    (hphase : (∃ id, state.pending.lookup id = some index) → phase.registered = true)
    (hallocated : phase ≠ .allocated)
    (hresult : ∀ outcome, phase.result? = some outcome →
      outcome = .error .childExited ∨ outcome = .error .timeout ∨ call.slot = some outcome) :
    Sound (state.setPhase index phase) :=
  ⟨hsound.registered.setPhase hcall hphase hallocated, hsound.answered.setPhase hcall hresult⟩

/-- A request that leaves with what it was given. -/
theorem leaving (hsound : Sound state) (hcall : state.calls[index]? = some call)
    {result : Option Outcome} (hresult : ∀ outcome, result = some outcome →
      outcome = .error .childExited ∨ outcome = .error .timeout ∨ call.slot = some outcome) :
    Sound (state.setPhase index (.leaving result)) :=
  hsound.setPhase hcall (fun _ => rfl) (by simp) hresult

theorem childExited (outcome : Outcome)
    (houtcome : some (Except.error RpcError.childExited) = some outcome) :
    outcome = .error .childExited ∨ outcome = .error .timeout ∨ call.slot = some outcome :=
  Or.inl (Option.some.inj houtcome).symm

/-- A reader that has drained the map has been seen dead, however stale the load. -/
theorem undrained_of_seen (hsound : Sound state) {stale : Bool}
    (hseen : (state.alive || (stale && !state.reader.drained)) = true) :
    state.reader.drained = false := by
  by_contra hdrained
  have hdrained : state.reader.drained = true := Bool.eq_true_of_not_eq_false hdrained
  have hdead : state.alive = false := by
    refine hsound.registered.marked ?_
    intro hreading
    rw [hreading] at hdrained
    cases hdrained
  simp [hdead, hdrained] at hseen

theorem register (hsound : Sound state) (hcall : state.calls[index]? = some call)
    (hallocated : call.phase = .allocated) (stale : Bool) :
    Sound (state.register index call stale) := by
  have hunregistered : ¬ ∃ id, state.pending.lookup id = some index := by
    rintro ⟨id, hlookup⟩
    obtain ⟨holder, hholder, _, hstill, _⟩ := hsound.registered.owner id index hlookup
    rw [hcall] at hholder
    cases hholder
    rw [hallocated] at hstill
    cases hstill
  unfold Transport.register
  split
  · rename_i hseen
    have hkept : Answered { state with pending := state.pending.insert call.id index } :=
      { hsound.answered with }
    exact ⟨hsound.registered.insert hcall hallocated (hsound.undrained_of_seen hseen),
      hkept.setPhase hcall (fun outcome hgiven => by cases hgiven)⟩
  · exact hsound.setPhase hcall (fun hheld => absurd hheld hunregistered) (by simp) childExited

/-- A request that has queued its line keeps its registration. -/
theorem sendLine (hsound : Sound state) (hcall : state.calls[index]? = some call) :
    Sound (state.sendLine index call) := by
  unfold Transport.sendLine
  split
  · exact hsound.leaving hcall childExited
  · split
    · have hkept : Sound (state.enqueue call.line) :=
        ⟨{ hsound.registered with }, { hsound.answered with }⟩
      have hsame : (state.enqueue call.line).calls[index]? = some call := hcall
      exact ⟨hkept.registered.modify hsame rfl (fun _ => rfl) (fun _ => rfl)
          (fun hwaiting => by cases hwaiting),
        hkept.answered.setPhase hsame (fun outcome hgiven => by cases hgiven)⟩
    · exact hsound

theorem receive (hsound : Sound state) (hcall : state.calls[index]? = some call) :
    Sound (state.receive index call) := by
  unfold Transport.receive
  split
  · rename_i outcome hslot
    refine hsound.leaving hcall ?_
    intro given hgiven
    cases hgiven
    exact Or.inr (Or.inr hslot)
  · split
    · exact hsound
    · exact hsound.leaving hcall childExited

theorem leave (hsound : Sound state) (hcall : state.calls[index]? = some call)
    {result : Option Outcome} (hleaving : call.phase = .leaving result) :
    Sound (state.leave index call result) := by
  unfold Transport.leave
  have hkept : Sound { state with pending := state.pending.erase call.id } :=
    ⟨hsound.registered.erase call.id, { hsound.answered with }⟩
  refine hkept.setPhase hcall ?_ (by simp) ?_
  · rintro ⟨id, hlookup⟩
    exact absurd hlookup (hsound.registered.unregistered_erase hcall id)
  · intro outcome hgiven
    refine hsound.answered.results index call outcome hcall ?_
    rw [hleaving]
    exact hgiven

theorem turn (hsound : Sound state) (index : Nat) (stale : Bool) :
    Sound (state.turn index stale) := by
  unfold Transport.turn
  split
  · exact hsound
  · rename_i call hcall
    split
    · rename_i hallocated
      exact hsound.register hcall hallocated stale
    · exact hsound.sendLine hcall
    · exact hsound.receive hcall
    · rename_i result hleaving
      exact hsound.leave hcall hleaving
    · exact hsound

theorem drop (hsound : Sound state) (index : Nat) {result : Option Outcome}
    (hresult : result = none ∨ result = some (.error .timeout)) :
    Sound (state.drop index result) := by
  unfold Transport.drop
  split
  · exact hsound
  · rename_i call hcall
    split
    · refine hsound.leaving hcall ?_
      intro outcome hgiven
      rcases hresult with rfl | rfl
      · cases hgiven
      · exact Or.inr (Or.inl (Option.some.inj hgiven).symm)
    · exact hsound

theorem write (hsound : Sound state) (taken : Option Bool) : Sound (state.write taken) := by
  have hkept : ∀ (channel : List String) (writer : Writer),
      Sound { state with channel := channel, writer := writer } := fun channel writer =>
    ⟨{ hsound.registered with }, { hsound.answered with }⟩
  unfold Transport.write
  split
  · split
    · exact hsound
    · exact hkept _ _
  · split
    · exact hkept _ _
    · exact hkept _ _
    · exact hsound
  · exact hsound

theorem push (hsound : Sound state) (line : String) : Sound (state.push line) := by
  unfold Transport.push
  split
  · exact hsound
  · split
    · exact ⟨{ hsound.registered with }, { hsound.answered with }⟩
    · exact hsound

theorem dispatchInbound (hsound : Sound state) (inbound : Inbound) :
    Sound (state.dispatchInbound inbound) := by
  have hframe : Sound { state with frames := state.frames ++ [inbound] } :=
    ⟨{ hsound.registered with }, hsound.answered.frame inbound⟩
  unfold Transport.dispatchInbound
  split
  · rename_i id result
    split
    · exact hframe
    · rename_i index hlookup
      obtain ⟨call, hcall, rfl, _, hunsent⟩ := hsound.registered.owner id index hlookup
      -- The map held the only sender, so that the channel is written once.
      have hgone := hframe.registered.gone_erase hlookup
      have herased := hframe.registered.erase call.id
      have hanswered : Answered { state with
          frames := state.frames ++ [.response call.id result]
          pending := state.pending.erase call.id } := { hframe.answered with }
      have hnew : ∀ other, (state.frames.length, other) ∉ state.deliveries := by
        intro other hdelivery
        obtain ⟨_, _, _, hgiven, _⟩ :=
          hsound.answered.delivered state.frames.length other hdelivery
        simp at hgiven
      refine ⟨?_, hanswered.deliver hcall hunsent hnew (by simp)⟩
      unfold Transport.deliver
      simp only
      rw [hcall]
      simp only
      split
      · exact { herased.send hcall hgone (result.mapError .protocol) with }
      · exact herased
  · exact hframe

theorem read (hsound : Sound state) (codec : WireCodec) : Sound (state.read codec) := by
  unfold Transport.read
  split
  · split
    · rename_i line rest _
      have hkept : Sound { state with stdout := rest } :=
        ⟨{ hsound.registered with }, { hsound.answered with }⟩
      unfold Transport.readLine
      split
      · exact hkept
      · exact hkept.dispatchInbound _
    · split
      · rename_i hreader _ _
        refine ⟨{ hsound.registered with
          senders_nodup := List.nodup_nil
          senders_unsent := ?_
          marked := fun _ => rfl
          drained := ?_ }, { hsound.answered with }⟩
        · intro index hindex
          cases hindex
        · intro hdrained
          cases hdrained
      · exact hsound
  · rename_i hended
    exact ⟨hsound.registered.drain hended, { hsound.answered with }⟩
  · rename_i hdraining
    have hdead := hsound.registered.marked (by simp [hdraining])
    have hempty := hsound.registered.drained (by simp [hdraining, Reader.drained])
    refine ⟨{ hsound.registered with
      senders_nodup := List.nodup_nil
      senders_unsent := ?_
      marked := fun _ => hdead
      drained := fun _ => hempty }, { hsound.answered with }⟩
    intro index hindex
    cases hindex
  · rename_i index rest hdraining
    have hdead := hsound.registered.marked (by simp [hdraining])
    have hempty := hsound.registered.drained (by simp [hdraining, Reader.drained])
    have hnodup := hsound.registered.senders_nodup
    have hunsent := hsound.registered.senders_unsent
    simp only [hdraining, Reader.senders, List.nodup_cons] at hnodup hunsent
    have hkept : Registered { state with reader := .draining rest } :=
      { hsound.registered with
        senders_nodup := hnodup.2
        senders_unsent := fun other hother => hunsent other (List.mem_cons_of_mem index hother)
        marked := fun _ => hdead
        drained := fun _ => hempty }
    obtain ⟨call, hcall, hslot⟩ := hunsent index List.mem_cons_self
    -- The reader held the only sender: the map is empty and no sender is listed twice.
    have hgone : Gone { state with reader := .draining rest } index := by
      refine ⟨?_, hnodup.1⟩
      intro id hlookup
      have hlookup : state.pending.lookup id = some index := hlookup
      rw [hempty] at hlookup
      cases hlookup
    have hanswered : Answered { state with reader := .draining rest } := { hsound.answered with }
    exact ⟨hkept.send hcall hgone _, hanswered.fail hcall hslot⟩
  · exact hsound

theorem step (hsound : Sound state) (codec : WireCodec) (move : Move) :
    Sound (state.step codec move) := by
  cases move with
  | start method params => exact hsound.start codec method params
  | turn index stale => exact hsound.turn index stale
  | cancel index => exact hsound.drop index (Or.inl rfl)
  | expire index => exact hsound.drop index (Or.inr rfl)
  | push line => exact hsound.push line
  | write taken => exact hsound.write taken
  | read => exact hsound.read codec
  | print line =>
      simp only [Transport.step]
      split
      · exact hsound
      · exact ⟨{ hsound.registered with }, { hsound.answered with }⟩
  | exit | hangUp => exact ⟨{ hsound.registered with }, { hsound.answered with }⟩
  | killed =>
      simp only [Transport.step]
      split
      · exact ⟨{ hsound.registered with
          marked := fun _ => rfl }, { hsound.answered with }⟩
      · exact hsound

end Sound

end Transport

end Rpc

end Mosaico
