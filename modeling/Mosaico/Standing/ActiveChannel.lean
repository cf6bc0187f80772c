import Mosaico.Standing.JoinedChannels

/-!
# The active channel stays joined

A switch activates a channel that it has admitted, and only while the route is there.  The
active channel can lose its route only to a removal that takes away the active channel itself.
A leave refuses that, and a switch leaves the channel that it found active, but both go by the
row that was read before the round trips.
-/

namespace Mosaico

open Relational Transition Concurrent

/-! ## The steps of a request -/

/-- The lifecycle of the session runs and its active channel is empty or joined. -/
structure LanedStore.Sound (pubkey : String) (state : LanedStore) : Prop where
  runs : state.store.Runs pubkey
  active : state.store.ActiveJoined pubkey

def LanedStore.Within (pubkey : String) (before after : LanedStore) : Prop :=
  Store.Steady pubkey before.store after.store

/-- A removal takes away a channel that is not the active one. -/
def RevokesInactive (pubkey : String) (label : ChannelLabel) (state : LanedStore) : Prop :=
  match label with
  | .revoke channelH => ∀ session, state.store.getSession pubkey = some session →
      session.channelH = channelH → channelH = ""
  | _ => True

instance (pubkey : String) (state : LanedStore) :
    ∀ label, Decidable (RevokesInactive pubkey label state)
  | .revoke channelH => decidable_of_iff (∀ session ∈ state.store.getSession pubkey,
      session.channelH = channelH → channelH = "") Iff.rfl
  | .takeLane | .other => inferInstanceAs (Decidable True)

namespace ChannelTask

/-- From `state` on the task keeps the session sound, as long as its removals take away
inactive channels. -/
def Keeps (pubkey : String) (task : ChannelTask) (state : LanedStore) : Prop :=
  task.Meets (LanedStore.Sound pubkey) (LanedStore.Within pubkey) (RevokesInactive pubkey)
    (fun _ _ => True) state

variable {pubkey channel : String} {rec : Session} {state : LanedStore} {β : Type}

theorem keeps_query {question : ChannelAnswer → Store → β} {rest : β → ChannelTask}
    (hrest : ∀ current, LanedStore.Within pubkey state current → LanedStore.Sound pubkey current →
      ∀ answer, (rest (question answer current.store)).Keeps pubkey current) :
    (query question rest).Keeps pubkey state :=
  Task.meets_read (fun current => Store.Steady.refl pubkey current.store)
    (fun current hwithin hsound _ => hrest current hwithin hsound)

theorem keeps_takeLane {rest : ChannelTask}
    (hrest : ∀ current, LanedStore.Within pubkey state current → rest.Keeps pubkey current) :
    (takeLane rest).Keeps pubkey state := by
  intro current hwithin hsound _ _
  refine ⟨⟨hsound.runs, hsound.active⟩, Store.Steady.refl pubkey current.store, ?_⟩
  exact hrest _ hwithin

theorem keeps_dropLane {rest : ChannelTask}
    (hrest : ∀ current, LanedStore.Within pubkey state current → rest.Keeps pubkey current) :
    (dropLane rest).Keeps pubkey state := by
  intro current hwithin hsound _ _
  refine ⟨⟨hsound.runs, hsound.active⟩, Store.Steady.refl pubkey current.store, ?_⟩
  exact hrest _ hwithin

/-- A write that succeeds keeps the session sound; one that fails changes nothing. -/
theorem keeps_write {label : ChannelLabel}
    {operation : ChannelAnswer → Store → Except StoreError (β × Store)}
    {rest : Except StoreError β → ChannelTask}
    (hok : ∀ current, LanedStore.Within pubkey state current → LanedStore.Sound pubkey current →
      RevokesInactive pubkey label current → ∀ answer value after,
      operation answer current.store = .ok (value, after) →
        after.ActiveJoined pubkey ∧ Store.Steady pubkey current.store after ∧
          (rest (.ok value)).Keeps pubkey { current with store := after })
    (herror : ∀ current, LanedStore.Within pubkey state current →
      LanedStore.Sound pubkey current → ∀ error, (rest (.error error)).Keeps pubkey current) :
    (write label operation rest).Keeps pubkey state := by
  refine Task.meets_attempt (fun current => Store.Steady.refl pubkey current.store) ?_ herror
  intro current hwithin hsound hinactive answer value after hoperation
  cases hresult : operation answer current.store with
  | error error =>
      rw [hresult] at hoperation
      cases hoperation
  | ok result =>
      rw [hresult] at hoperation
      cases hoperation
      obtain ⟨hactive, hsteady, hrest⟩ :=
        hok current hwithin hsound hinactive answer result.1 result.2 hresult
      exact ⟨⟨hsteady.runs hsound.runs, hactive⟩, hsteady, hrest⟩

theorem Keeps.of_within {task : ChannelTask} {before after : LanedStore}
    (hkeeps : task.Keeps pubkey before) (hwithin : LanedStore.Within pubkey before after) :
    task.Keeps pubkey after :=
  Task.Meets.stable (fun hleft hright => Store.Steady.trans hleft hright)
    (fun _ _ _ _ _ => trivial) hkeeps hwithin

theorem keeps_done (reply : ChannelReply) : Keeps pubkey (.done reply) state := trivial

theorem keeps_compensate {due : SessionStanding} (hdue : due.state = .retained)
    {rest : ChannelTask} (hrest : rest.Keeps pubkey state) :
    (compensateDueAdmission due rest).Keeps pubkey state := by
  apply keeps_query
  intro current hwithin _ answer
  cases answer.confirmed with
  | false => exact hrest.of_within hwithin
  | true =>
      apply keeps_write
      · intro next hnext hsound _ answer marked after hok
        rw [hdue] at hok
        have hkeeps : Store.KeepsChannels pubkey next.store after :=
          Store.markSessionStandingAbsentIfEpoch_ok hok
        exact ⟨hkeeps.activeJoined hsound.active, hkeeps.steady,
          hrest.of_within ((hwithin.trans hnext).trans hkeeps.steady)⟩
      · intro next hnext _ _
        exact hrest.of_within (hwithin.trans hnext)

/-- A recorded admission leaves the channel backed. -/
theorem keeps_commit {rest : Bool → ChannelTask} (hcurrent : state.store.Current rec)
    (hrecorded : ∀ current, LanedStore.Within rec.pubkey state current →
      current.store.Backed rec.pubkey channel → (rest true).Keeps rec.pubkey current)
    (hrefused : (rest false).Keeps rec.pubkey state) :
    (commitConfirmedAdmission rec channel rest).Keeps rec.pubkey state := by
  apply keeps_write
  · intro current hwithin hsound _ answer outcome after hok
    obtain ⟨rfl, rfl⟩ := Store.commitConfirmedSessionAdmission_ok (hcurrent.steady hwithin)
      hsound.runs hok
    have hkeeps := current.store.keepsChannels_writeAdmission rec.pubkey channel rec.lifecycleEpoch
      answer.now
    refine ⟨hkeeps.activeJoined hsound.active, hkeeps.steady, ?_⟩
    exact hrecorded _ (hwithin.trans hkeeps.steady)
      (fun _ => (current.store.joined_writeAdmission rec.pubkey channel rec.lifecycleEpoch answer.now).2)
  · -- the relay has the member and the store does not: the cleanup row decides
    intro current hwithin _ _
    apply keeps_write
    · intro next hnext hsound _ answer outcome after hok
      have hreached := hwithin.trans hnext
      obtain ⟨hkeeps, hcommitted, hdue⟩ := Store.scheduleConfirmedAdmissionCleanup_ok
        (hcurrent.steady hreached) hsound.runs hok
      have hfinal := hreached.trans hkeeps.steady
      refine ⟨hkeeps.activeJoined hsound.active, hkeeps.steady, ?_⟩
      cases outcome with
      | committed => exact hrecorded _ hfinal (fun _ => (hcommitted rfl).2)
      | superseded => exact hrefused.of_within hfinal
      | cleanupDue due => exact keeps_compensate (hdue due rfl) (hrefused.of_within hfinal)
    · intro next hnext _ _
      exact hrefused.of_within (hwithin.trans hnext)

theorem keeps_ensureJoinable {rest : Bool → ChannelTask} (hcurrent : state.store.Current rec)
    (hrecorded : ∀ current, LanedStore.Within rec.pubkey state current →
      current.store.Backed rec.pubkey channel → (rest true).Keeps rec.pubkey current)
    (hrefused : (rest false).Keeps rec.pubkey state) :
    (ensureJoinable rec channel rest).Keeps rec.pubkey state := by
  -- the lane is given back with either answer
  have hcommit : ∀ current, LanedStore.Within rec.pubkey state current →
      (commitConfirmedAdmission rec channel fun recorded => dropLane (rest recorded)).Keeps
        rec.pubkey current := by
    intro current hwithin
    apply keeps_commit (hcurrent.steady hwithin)
    · intro next hnext hbacked
      apply keeps_dropLane
      intro last hlast
      exact hrecorded last ((hwithin.trans hnext).trans hlast) (hlast.backed channel hbacked)
    · apply keeps_dropLane
      intro last hlast
      exact hrefused.of_within (hwithin.trans hlast)
  apply keeps_takeLane
  intro current hwithin
  apply keeps_query
  intro next hnext _ answer
  have hreached := hwithin.trans hnext
  cases answer.isMember with
  | true => exact hcommit next hreached
  | false =>
      apply keeps_query
      intro last hlast _ answer
      cases answer.confirmed with
      | true => exact hcommit last (hreached.trans hlast)
      | false =>
          apply keeps_dropLane
          intro final hfinal
          exact hrefused.of_within ((hreached.trans hlast).trans hfinal)

/-- The request goes on with the row of the lifecycle that runs. -/
theorem keeps_resolveCaller {rest : Session → String → ChannelTask}
    (hrest : ∀ rec channel current, rec.pubkey = pubkey → current.store.Current rec →
      (rest rec channel).Keeps pubkey current) :
    (resolveCaller pubkey rest).Keeps pubkey state := by
  apply keeps_query
  intro current _ _ _
  cases hsession : current.store.getSession pubkey with
  | none => exact keeps_done _
  | some rec =>
      have hpubkey : rec.pubkey = pubkey := Table.key_of_find? hsession
      apply keeps_query
      intro next hnext _ answer
      cases answer.target with
      | none => exact keeps_done _
      | some channel =>
          refine hrest rec channel next hpubkey ?_
          exact (Store.current_of_getSession hsession).steady (hpubkey ▸ hnext)

/-! ## The requests -/

theorem keeps_channelJoin : (channelJoin pubkey).Keeps pubkey state := by
  apply keeps_resolveCaller
  rintro rec channel current rfl hcurrent
  apply keeps_ensureJoinable hcurrent
  · intro next _ _
    apply keeps_query
    intro last _ _ answer
    cases answer.synced with
    | false | true => exact keeps_done _
  · exact keeps_done _

/-- The removal that ends a request. -/
theorem keeps_revoke {rest : Except StoreError Bool → ChannelTask}
    (hrest : ∀ outcome current, (rest outcome).Keeps pubkey current) :
    (write (.revoke channel) (fun answer store =>
      store.revokeRouteAndMarkAbsent pubkey channel answer.now) rest).Keeps pubkey state := by
  apply keeps_write
  · intro current _ hsound hinactive answer removed after hok
    exact ⟨Store.activeJoined_revoke hok hsound.active hinactive, Store.steady_revoke hok,
      hrest _ _⟩
  · intro current _ _ error
    exact hrest _ _

theorem keeps_channelLeave : (channelLeave pubkey).Keeps pubkey state := by
  apply keeps_resolveCaller
  rintro rec channel current rfl _
  split_ifs with hactive
  · exact keeps_done _
  · apply keeps_query
    intro next _ _ _
    cases next.store.hasSessionRoute rec.pubkey channel with
    | false => exact keeps_done _
    | true =>
        apply keeps_takeLane
        intro held _
        apply keeps_query
        intro asked _ _ answer
        cases answer.confirmed with
        | false => exact keeps_dropLane (fun _ _ => keeps_done _)
        | true => exact keeps_revoke (fun _ _ => keeps_dropLane (fun _ _ => keeps_done _))

theorem keeps_leavePrevious (newChannel : String) :
    (leavePrevious rec newChannel).Keeps rec.pubkey state := by
  unfold leavePrevious
  split_ifs with hsame
  · exact keeps_done _
  · apply keeps_takeLane
    intro held _
    apply keeps_query
    intro asked _ _ answer
    cases answer.confirmed with
    | false => exact keeps_dropLane (fun _ _ => keeps_done _)
    | true =>
        apply keeps_revoke
        intro outcome current
        cases outcome with
        | error error | ok removed => exact keeps_dropLane (fun _ _ => keeps_done _)

/-- The new channel is backed from its admission on, so it is joined when it becomes active. -/
theorem keeps_channelSwitch : (channelSwitch pubkey).Keeps pubkey state := by
  apply keeps_resolveCaller
  rintro rec newChannel current rfl hcurrent
  apply keeps_ensureJoinable hcurrent
  · intro next _ hbacked
    apply keeps_query
    intro synced hsynced _ answer
    cases answer.synced with
    | false => exact keeps_done _
    | true =>
        apply Task.meets_call
        intro last hlast hsound _ answer moved after houtcome
        obtain ⟨_, rfl⟩ := Prod.mk.inj houtcome
        have hbackedLast := hlast.backed newChannel (hsynced.backed newChannel hbacked)
        have hsteady := last.store.steady_setActive rec.pubkey newChannel answer.now
        refine ⟨⟨hsteady.runs hsound.runs,
          Store.activeJoined_setActive hbackedLast hsound.active⟩, hsteady, ?_⟩
        cases moved with
        | false => exact keeps_done _
        | true => exact keeps_leavePrevious newChannel
  · exact keeps_done _

theorem keeps_task (request : ChannelRequest) :
    (request.task pubkey).Keeps pubkey state := by
  cases request with
  | join => exact keeps_channelJoin
  | leave => exact keeps_channelLeave
  | switch => exact keeps_channelSwitch

end ChannelTask

/-! ## Runs -/

namespace ChannelPool

variable {pubkey : String}

/-- The pool of a session without requests in flight. -/
def idle (store : Store) : ChannelPool := Pool.fresh ⟨store, false⟩

theorem sound_step {pool : ChannelPool} {event : ChannelEvent}
    (hsound : Pool.Sound (LanedStore.Sound pubkey) (LanedStore.Within pubkey)
      (RevokesInactive pubkey) (fun _ _ => True) pool)
    (hpasses : pool.Passes (RevokesInactive pubkey) event) :
    Pool.Sound (LanedStore.Sound pubkey) (LanedStore.Within pubkey) (RevokesInactive pubkey)
      (fun _ _ => True) (channelStep pubkey pool event) := by
  unfold channelStep
  split_ifs with hfree
  · refine hsound.step (R := LanedStore.Within pubkey) (H := fun _ _ => True)
      (fun state => Store.Steady.refl pubkey state.store)
      (fun hleft hright => Store.Steady.trans hleft hright) (fun _ _ _ _ _ => trivial) ?_ ?_
      hpasses ?_
    · intro state event
      exact event.elim
    · intro request state _
      exact ChannelTask.keeps_task request
    · cases event with
      | interfere event => exact event.elim
      | spawn request | advance index answer => trivial
  · exact hsound

/-- As long as every removal takes away a channel that is not the active one, the active
channel of a running session is empty or joined in every state that joins, leaves and switches
reach, whatever their order and whatever the relay answers. -/
theorem activeJoined_run {store : Store} (hruns : store.Runs pubkey)
    (hjoined : store.ActiveJoined pubkey) {events : List ChannelEvent}
    (hguarded : Guarded (channelStep pubkey) (Pool.Passes (RevokesInactive pubkey)) (idle store)
      events) :
    (run (channelStep pubkey) (idle store) events).shared.store.ActiveJoined pubkey := by
  have hstart : Pool.Sound (LanedStore.Sound pubkey) (LanedStore.Within pubkey)
      (RevokesInactive pubkey) (fun _ _ => True) (idle store) := Pool.Sound.fresh ⟨hruns, hjoined⟩
  have hsound := guarded_run_invariant hstart
    (fun _ _ hbefore hpasses => sound_step hbefore hpasses) hguarded
  exact hsound.shared.active

/-! ## Two requests of one session -/

/-- The session publishes in `a` and has joined these channels. -/
def publishingInA (joined : List String) (hnodup : joined.Nodup) : Store :=
  { Store.empty with
    sessions :=
      { rows := [{ Session.defaults "pk" 1 1 with channelH := "a" }]
        keysNodup := List.nodup_singleton _ }
    sessionChannels :=
      { rows := joined.map (fun channelH =>
          { pubkey := "pk", channelH := channelH, grantedAt := 1 })
        keysNodup := by
          rw [List.map_map]
          exact hnodup.map (Prod.mk_right_injective "pk") }
    sessionStanding :=
      { rows := joined.map (fun channelH =>
          { pubkey := "pk"
            channelH := channelH
            state := .member
            retainUntil := 0
            standingEpoch := 1
            sessionLifecycleEpoch := 1
            updatedAt := 1 })
        keysNodup := by
          rw [List.map_map]
          exact hnodup.map (Prod.mk_right_injective "pk") } }

/-- The request goes on for some steps, resolves its reference to `channel` and has every
round trip confirmed. -/
def goesOn (request : Nat) (channel : String) (steps : Nat) : List ChannelEvent :=
  List.replicate steps (.advance request ⟨5, some channel, true, true, true⟩)

/-- A switch that nobody overtakes leaves the old channel and has joined the new one. -/
theorem switch_to_b_joined :
    (run (channelStep "pk") (idle (publishingInA ["a"] (by decide)))
      (.spawn .switch :: goesOn 0 "b" 12)).shared.store.ActiveJoined "pk" :=
  activeJoined_run (by decide) (by decide) (by decide)

/-- A leave of `b` has read the row before a switch makes `b` active; and a switch from `a` to
`b` removes `a` after another switch has gone back to `a`.  No request is in flight in the end,
and the active channel has no route. -/
theorem stale_row_leaves_active :
    (let store := publishingInA ["a", "b"] (by decide)
      let pool := run (channelStep "pk") (idle store)
        (.spawn .leave :: .spawn .switch :: goesOn 0 "b" 3 ++ goesOn 1 "b" 12 ++ goesOn 0 "b" 4)
      store.Runs "pk" ∧ store.ActiveJoined "pk" ∧ pool.Settled ∧
        ¬ pool.shared.store.ActiveJoined "pk") ∧
    (let store := publishingInA ["a"] (by decide)
      let pool := run (channelStep "pk") (idle store)
        (.spawn .switch :: .spawn .switch :: goesOn 0 "b" 8 ++ goesOn 1 "a" 12 ++ goesOn 0 "b" 4)
      store.Runs "pk" ∧ store.ActiveJoined "pk" ∧ pool.Settled ∧
        ¬ pool.shared.store.ActiveJoined "pk") := by
  decide

end ChannelPool

end Mosaico
