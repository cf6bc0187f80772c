import Mosaico.Standing.ChannelRequests
import Mosaico.Standing.Compensation

/-!
# Joined channels

An admission writes the route of a channel and its member standing in one transaction, and a
removal deletes the one and ends the other in one transaction.  While a lifecycle runs, a
route that a request has admitted is therefore backed by a member row until it is removed.
-/

namespace Mosaico

open Relational Transition

/-- The two rows own the same admissions. -/
structure Session.SameOwner (left right : Session) : Prop where
  generation : right.runtimeGeneration = left.runtimeGeneration
  epoch : right.lifecycleEpoch = left.lifecycleEpoch
  runtime : right.runtimeState = left.runtimeState
  recovery : right.recoveryState = left.recoveryState

theorem Session.SameOwner.refl (session : Session) : session.SameOwner session :=
  ⟨rfl, rfl, rfl, rfl⟩

theorem Session.SameOwner.trans {first second third : Session}
    (hleft : first.SameOwner second) (hright : second.SameOwner third) :
    first.SameOwner third where
  generation := hright.generation.trans hleft.generation
  epoch := hright.epoch.trans hleft.epoch
  runtime := hright.runtime.trans hleft.runtime
  recovery := hright.recovery.trans hleft.recovery

namespace Store

/-! ## The law -/

/-- The standing of the channel is `member`. -/
def HasMember (store : Store) (pubkey channelH : String) : Prop :=
  ∃ row, store.getSessionStanding pubkey channelH = some row ∧ row.state = .member

/-- The channel has a route and a member standing. -/
def Joined (store : Store) (pubkey channelH : String) : Prop :=
  store.hasSessionRoute pubkey channelH = true ∧ store.HasMember pubkey channelH

/-- If the channel has a route, it is joined. -/
def Backed (store : Store) (pubkey channelH : String) : Prop :=
  store.hasSessionRoute pubkey channelH = true → store.HasMember pubkey channelH

/-- The active channel of the session is empty or joined. -/
def ActiveJoined (store : Store) (pubkey : String) : Prop :=
  ∀ session, store.getSession pubkey = some session →
    session.channelH = "" ∨ store.Joined pubkey session.channelH

/-- The session runs, and its recovery is not revoked. -/
def Runs (store : Store) (pubkey : String) : Prop :=
  ∃ session, store.getSession pubkey = some session ∧ session.runtimeState = .running ∧
    session.recoveryState ≠ .revoked

instance (store : Store) (pubkey channelH : String) : Decidable (store.HasMember pubkey channelH) :=
  decidable_of_iff (∃ row ∈ store.getSessionStanding pubkey channelH, row.state = .member)
    Iff.rfl

instance (store : Store) (pubkey channelH : String) : Decidable (store.Joined pubkey channelH) :=
  inferInstanceAs (Decidable (_ ∧ _))

instance (store : Store) (pubkey : String) : Decidable (store.ActiveJoined pubkey) :=
  decidable_of_iff (∀ session ∈ store.getSession pubkey,
    session.channelH = "" ∨ store.Joined pubkey session.channelH) Iff.rfl

instance (store : Store) (pubkey : String) : Decidable (store.Runs pubkey) :=
  decidable_of_iff (∃ session ∈ store.getSession pubkey, session.runtimeState = .running ∧
    session.recoveryState ≠ .revoked) Iff.rfl

/-- What a step of a request may change: the lifecycle of the session stays, and so does the
member row behind a route. -/
structure Steady (pubkey : String) (before after : Store) : Prop where
  session : ∀ session, before.getSession pubkey = some session →
    ∃ next, after.getSession pubkey = some next ∧ session.SameOwner next
  backed : ∀ channelH, before.Backed pubkey channelH → after.Backed pubkey channelH

/-- The row that a request has read is of the lifecycle that still runs. -/
def Current (store : Store) (rec : Session) : Prop :=
  ∃ session, store.getSession rec.pubkey = some session ∧ rec.SameOwner session

variable {store after : Store} {pubkey channelH : String} {rec : Session} {now : Nat}

theorem Steady.refl (pubkey : String) (store : Store) : Steady pubkey store store where
  session := fun session hsession => ⟨session, hsession, Session.SameOwner.refl session⟩
  backed := fun _ hbacked => hbacked

theorem Steady.trans {middle : Store} (hleft : Steady pubkey store middle)
    (hright : Steady pubkey middle after) : Steady pubkey store after where
  session := by
    intro session hsession
    obtain ⟨next, hnext, hsame⟩ := hleft.session session hsession
    obtain ⟨last, hlast, hlastSame⟩ := hright.session next hnext
    exact ⟨last, hlast, hsame.trans hlastSame⟩
  backed := fun channelH hbacked => hright.backed channelH (hleft.backed channelH hbacked)

theorem Current.steady (hcurrent : store.Current rec) (hsteady : Steady rec.pubkey store after) :
    after.Current rec := by
  obtain ⟨session, hsession, hsame⟩ := hcurrent
  obtain ⟨next, hnext, hnextSame⟩ := hsteady.session session hsession
  exact ⟨next, hnext, hsame.trans hnextSame⟩

theorem current_of_getSession (hsession : store.getSession pubkey = some rec) :
    store.Current rec := by
  have hpubkey : rec.pubkey = pubkey := Table.key_of_find? hsession
  exact ⟨rec, hpubkey ▸ hsession, Session.SameOwner.refl rec⟩

/-- A running session owns the admissions that its current row asks for. -/
theorem Current.owns (hcurrent : store.Current rec) (hruns : store.Runs rec.pubkey) :
    store.ownsAdmission rec.pubkey rec.runtimeGeneration rec.lifecycleEpoch := by
  obtain ⟨session, hsession, hsame⟩ := hcurrent
  obtain ⟨running, hrunning, hstate, hrecovery⟩ := hruns
  rw [hsession] at hrunning
  cases hrunning
  exact Table.any_key_iff.mpr
    ⟨session, hsession, hsame.generation, hsame.epoch, hstate, hrecovery⟩

/-! ## Steps that keep what is joined -/

/-- The session rows stay, and so does every channel that is backed or joined. -/
structure KeepsChannels (pubkey : String) (before after : Store) : Prop where
  sessions : after.sessions = before.sessions
  backed : ∀ channelH, before.Backed pubkey channelH → after.Backed pubkey channelH
  joined : ∀ channelH, before.Joined pubkey channelH → after.Joined pubkey channelH

theorem KeepsChannels.steady (hkeeps : KeepsChannels pubkey store after) :
    Steady pubkey store after where
  session := by
    intro session hsession
    refine ⟨session, ?_, Session.SameOwner.refl session⟩
    show after.sessions.find? pubkey = some session
    rw [hkeeps.sessions]
    exact hsession
  backed := hkeeps.backed

theorem KeepsChannels.activeJoined (hkeeps : KeepsChannels pubkey store after)
    (hjoined : store.ActiveJoined pubkey) : after.ActiveJoined pubkey := by
  intro session hsession
  have hbefore : store.getSession pubkey = some session := by
    show store.sessions.find? pubkey = some session
    rw [← hkeeps.sessions]
    exact hsession
  exact (hjoined session hbefore).imp id (hkeeps.joined session.channelH)

theorem Steady.runs (hsteady : Steady pubkey store after) (hruns : store.Runs pubkey) :
    after.Runs pubkey := by
  obtain ⟨session, hsession, hstate, hrecovery⟩ := hruns
  obtain ⟨next, hnext, hsame⟩ := hsteady.session session hsession
  refine ⟨next, hnext, hsame.runtime.trans hstate, ?_⟩
  rw [hsame.recovery]
  exact hrecovery

/-- Routes stay, and member rows stay. -/
theorem keepsChannels_of_standing (hsessions : after.sessions = store.sessions)
    (hroutes : after.sessionChannels = store.sessionChannels)
    (hmembers : ∀ channelH, store.hasSessionRoute pubkey channelH = true →
      store.HasMember pubkey channelH → after.HasMember pubkey channelH) :
    KeepsChannels pubkey store after := by
  have hroute : ∀ channelH, after.hasSessionRoute pubkey channelH =
      store.hasSessionRoute pubkey channelH := by
    intro channelH
    rw [hasSessionRoute, hroutes, hasSessionRoute]
  refine ⟨hsessions, ?_, ?_⟩
  · intro channelH hbacked hafter
    rw [hroute] at hafter
    exact hmembers channelH hafter (hbacked hafter)
  · intro channelH hjoined
    exact ⟨(hroute channelH).trans hjoined.1, hmembers channelH hjoined.1 hjoined.2⟩

theorem KeepsChannels.refl (pubkey : String) (store : Store) : KeepsChannels pubkey store store :=
  ⟨rfl, fun _ hbacked => hbacked, fun _ hjoined => hjoined⟩

/-! ## Admissions -/

/-- The rows that a confirmed admission writes. -/
def writeAdmission (store : Store) (pubkey channelH : String) (lifecycleEpoch now : Nat) : Store :=
  ({ store with
    sessionChannels := store.sessionChannels.upsert
      { pubkey := pubkey, channelH := channelH, grantedAt := now }
      (fun route => { route with grantedAt := now })
      (SessionChannel.key_granted now) } : Store).upsertMember pubkey channelH lifecycleEpoch now

theorem joined_writeAdmission (store : Store) (pubkey channelH : String) (lifecycleEpoch now : Nat) :
    (store.writeAdmission pubkey channelH lifecycleEpoch now).Joined pubkey channelH := by
  constructor
  · show Option.isSome (Table.find? (Table.upsert _ _ _) _) = true
    rw [Table.find?_upsert]
    exact congrArg Option.isSome (if_pos rfl)
  · exact find?_upsertMember_self _ pubkey channelH lifecycleEpoch now

theorem keepsChannels_writeAdmission (store : Store) (pubkey channelH : String) (lifecycleEpoch now : Nat) :
    KeepsChannels pubkey store (store.writeAdmission pubkey channelH lifecycleEpoch now) := by
  have hadmitted := store.joined_writeAdmission pubkey channelH lifecycleEpoch now
  -- the rows of the other channels are not touched
  have hroute : ∀ other, other ≠ channelH →
      (store.writeAdmission pubkey channelH lifecycleEpoch now).hasSessionRoute pubkey other =
        store.hasSessionRoute pubkey other := by
    intro other hother
    show Option.isSome (Table.find? (Table.upsert _ _ _) _) = _
    rw [Table.find?_upsert, if_neg (fun heq => hother (congrArg Prod.snd heq))]
    rfl
  have hmember : ∀ other, other ≠ channelH →
      (store.writeAdmission pubkey channelH lifecycleEpoch now).getSessionStanding pubkey other =
        store.getSessionStanding pubkey other := by
    intro other hother
    exact find?_upsertMember_of_ne (fun heq => hother (congrArg Prod.snd heq))
  refine ⟨rfl, ?_, ?_⟩
  · intro other hbacked
    by_cases hother : other = channelH
    · rw [hother]
      exact fun _ => hadmitted.2
    · rw [Backed, hroute other hother, HasMember, hmember other hother]
      exact hbacked
  · intro other hjoined
    by_cases hother : other = channelH
    · rw [hother]
      exact hadmitted
    · rw [Joined, hroute other hother, HasMember, hmember other hother]
      exact hjoined

/-- The commit of a request of the running lifecycle admits the session. -/
theorem commitConfirmedSessionAdmission_ok (hcurrent : store.Current rec)
    (hruns : store.Runs rec.pubkey) {outcome : ConfirmedAdmissionCommit}
    (hok : store.commitConfirmedSessionAdmission rec.pubkey channelH rec.runtimeGeneration
      rec.lifecycleEpoch now = .ok (outcome, after)) :
    outcome = .committed ∧ after = store.writeAdmission rec.pubkey channelH rec.lifecycleEpoch now := by
  simp only [commitConfirmedSessionAdmission, bind_eq_ok] at hok
  obtain ⟨_, _, hok⟩ := hok
  rw [if_pos (hcurrent.owns hruns), bind_eq_ok] at hok
  obtain ⟨_, _, hok⟩ := hok
  cases hok
  exact ⟨rfl, rfl⟩

/-- Cleanup work is written only where the session is not joined. -/
theorem keepsChannels_upsertCleanup (lifecycleEpoch : Nat)
    (hnot : ¬ store.Joined pubkey channelH) :
    KeepsChannels pubkey store (store.upsertCleanup pubkey channelH lifecycleEpoch now) := by
  refine keepsChannels_of_standing rfl rfl ?_
  intro other hroute hmember
  have hother : other ≠ channelH := by
    rintro rfl
    exact hnot ⟨hroute, hmember⟩
  rw [HasMember, getSessionStanding,
    find?_upsertCleanup_of_ne (fun heq => hother (congrArg Prod.snd heq))]
  exact hmember

/-- A joined channel is durable, or its member row is of another lifecycle. -/
theorem durable_or_other (hcurrent : store.Current rec) (hruns : store.Runs rec.pubkey)
    (hjoined : store.Joined rec.pubkey channelH) :
    store.admissionCommitted rec.pubkey channelH rec.runtimeGeneration rec.lifecycleEpoch ∨
      store.hasOtherMember rec.pubkey channelH rec.lifecycleEpoch := by
  obtain ⟨hroute, row, hrow, hmember⟩ := hjoined
  have hkey : row.key = (rec.pubkey, channelH) := Table.key_of_find? hrow
  have hpubkey : row.pubkey = rec.pubkey := congrArg Prod.fst hkey
  have hchannel : row.channelH = channelH := congrArg Prod.snd hkey
  have hmem := Table.mem_of_find? hrow
  by_cases hepoch : row.sessionLifecycleEpoch = rec.lifecycleEpoch
  · exact Or.inl ⟨hcurrent.owns hruns, hroute, row, hmem, hpubkey, hchannel, hmember, hepoch⟩
  · exact Or.inr ⟨row, hmem, hpubkey, hchannel, hmember, hepoch⟩

theorem joined_of_admissionCommitted (hcommitted : store.admissionCommitted rec.pubkey channelH
    rec.runtimeGeneration rec.lifecycleEpoch) : store.Joined rec.pubkey channelH := by
  obtain ⟨_, hroute, row, hrow, hpubkey, hchannel, hmember, _⟩ := hcommitted
  have hkey : row.key = (rec.pubkey, channelH) := Prod.ext hpubkey hchannel
  exact ⟨hroute, row, Table.find?_eq_some_iff.mpr ⟨hrow, hkey⟩, hmember⟩

theorem scheduleConfirmedAdmissionCleanup_ok (hcurrent : store.Current rec)
    (hruns : store.Runs rec.pubkey) {outcome : ConfirmedAdmissionCommit}
    (hok : store.scheduleConfirmedAdmissionCleanup rec.pubkey channelH rec.runtimeGeneration
      rec.lifecycleEpoch now = .ok (outcome, after)) :
    KeepsChannels rec.pubkey store after ∧
      (outcome = .committed → after.Joined rec.pubkey channelH) ∧
      ∀ due, outcome = .cleanupDue due → due.state = .retained := by
  simp only [scheduleConfirmedAdmissionCleanup, bind_eq_ok] at hok
  obtain ⟨_, _, hok⟩ := hok
  split_ifs at hok with hcommitted
  · cases hok
    refine ⟨KeepsChannels.refl _ _, fun _ => joined_of_admissionCommitted hcommitted, ?_⟩
    intro due hdue
    cases hdue
  · rw [bind_eq_ok] at hok
    obtain ⟨⟨pending, scheduled⟩, hscheduled, hfinish⟩ := hok
    unfold scheduleCleanupInTransaction at hscheduled
    split_ifs at hscheduled with hother
    · cases hscheduled
      cases hfinish
      refine ⟨KeepsChannels.refl _ _, ?_, ?_⟩
      · intro hcommitted
        cases hcommitted
      · intro due hdue
        cases hdue
    · rw [bind_eq_ok] at hscheduled
      obtain ⟨_, _, hscheduled⟩ := hscheduled
      cases hscheduled
      have hnot : ¬ store.Joined rec.pubkey channelH := fun hjoined =>
        (durable_or_other hcurrent hruns hjoined).elim hcommitted hother
      obtain ⟨row, hrow, hretained, _⟩ := store.find?_upsertCleanup_self rec.pubkey channelH
        rec.lifecycleEpoch now
      have hget : (store.upsertCleanup rec.pubkey channelH rec.lifecycleEpoch
          now).getSessionStanding rec.pubkey channelH = some row := hrow
      simp only [finishAdmissionOutcome, hget] at hfinish
      cases hfinish
      refine ⟨keepsChannels_upsertCleanup rec.lifecycleEpoch hnot, ?_, ?_⟩
      · intro hcommitted
        cases hcommitted
      · intro due hdue
        cases hdue
        exact hretained

/-- The end of a cleanup row ends no member row. -/
theorem markSessionStandingAbsentIfEpoch_ok {duePubkey dueChannel : String}
    {standingEpoch lifecycleEpoch : Nat} {marked : Bool}
    (hok : store.markSessionStandingAbsentIfEpoch duePubkey dueChannel .retained standingEpoch
      lifecycleEpoch now = .ok (marked, after)) : KeepsChannels pubkey store after := by
  simp only [markSessionStandingAbsentIfEpoch, bind_eq_ok, pure_eq_ok] at hok
  obtain ⟨_, _, hok⟩ := hok
  cases hok
  refine keepsChannels_of_standing rfl rfl ?_
  intro channelH _ hbefore
  obtain ⟨row, hrow, hmember⟩ := hbefore
  refine ⟨row, ?_, hmember⟩
  have hfound : store.sessionStanding.find? (pubkey, channelH) = some row := hrow
  have hnot : ¬ (row.key = (duePubkey, dueChannel) ∧ row.state = .retained ∧
      row.standingEpoch = standingEpoch ∧ row.sessionLifecycleEpoch = lifecycleEpoch) := by
    intro hmatch
    rw [hmember] at hmatch
    exact absurd hmatch.2.1 (by decide)
  dsimp only [getSessionStanding]
  rw [Table.find?_updateWhere, hfound, Option.map_some, if_neg hnot]

/-! ## Removals and activations -/

/-- A removal touches the rows of its own channel only, and its route is gone. -/
theorem revokeRouteAndMarkAbsent_rows {removed : Bool}
    (hok : store.revokeRouteAndMarkAbsent pubkey channelH now = .ok (removed, after)) :
    after.sessions = store.sessions ∧ after.hasSessionRoute pubkey channelH = false ∧
      ∀ other, other ≠ channelH →
        after.hasSessionRoute pubkey other = store.hasSessionRoute pubkey other ∧
        after.getSessionStanding pubkey other = store.getSessionStanding pubkey other := by
  let routed := store.sessionChannels.deleteWhere
    (fun row : SessionChannel => row.pubkey = pubkey ∧ row.channelH = channelH)
  have hself : (routed.find? (pubkey, channelH)).isSome = false := by
    rw [Table.find?_deleteWhere]
    cases hroute : store.sessionChannels.find? (pubkey, channelH) with
    | none => rfl
    | some route =>
        have hkey : route.key = (pubkey, channelH) := Table.key_of_find? hroute
        have hmatch : route.pubkey = pubkey ∧ route.channelH = channelH := Prod.mk.inj hkey
        simp [hmatch]
  have hothers : ∀ other, other ≠ channelH →
      routed.find? (pubkey, other) = store.sessionChannels.find? (pubkey, other) := by
    intro other hother
    rw [Table.find?_deleteWhere]
    cases hroute : store.sessionChannels.find? (pubkey, other) with
    | none => rfl
    | some route =>
        have hkey : route.key = (pubkey, other) := Table.key_of_find? hroute
        have hchannel : route.channelH = other := congrArg Prod.snd hkey
        simp [hchannel, hother]
  simp only [revokeRouteAndMarkAbsent, revokeSessionRoute, bind_eq_ok, pure_eq_ok] at hok
  obtain ⟨_, _, _, rfl, hok⟩ := hok
  split at hok
  · cases hok
    exact ⟨rfl, hself, fun other hother => ⟨congrArg Option.isSome (hothers other hother), rfl⟩⟩
  · cases hok
    refine ⟨rfl, hself, fun other hother => ⟨congrArg Option.isSome (hothers other hother), ?_⟩⟩
    show Table.find? (Table.upsert _ _ _) _ = _
    rw [Table.find?_upsert]
    exact if_neg (fun heq => hother (congrArg Prod.snd heq))

theorem steady_revoke {removed : Bool}
    (hok : store.revokeRouteAndMarkAbsent pubkey channelH now = .ok (removed, after)) :
    Steady pubkey store after := by
  obtain ⟨hsessions, hself, hothers⟩ := revokeRouteAndMarkAbsent_rows hok
  constructor
  · intro session hsession
    refine ⟨session, ?_, Session.SameOwner.refl session⟩
    show after.sessions.find? pubkey = some session
    rw [hsessions]
    exact hsession
  · intro other hbacked hroute
    have hother : other ≠ channelH := by
      rintro rfl
      rw [hself] at hroute
      cases hroute
    obtain ⟨hsameRoute, hsameStanding⟩ := hothers other hother
    rw [HasMember, hsameStanding]
    exact hbacked (hsameRoute.symm.trans hroute)

/-- A removal of a channel that is not the active one. -/
theorem activeJoined_revoke {removed : Bool}
    (hok : store.revokeRouteAndMarkAbsent pubkey channelH now = .ok (removed, after))
    (hjoined : store.ActiveJoined pubkey)
    (hinactive : ∀ session, store.getSession pubkey = some session →
      session.channelH = channelH → channelH = "") : after.ActiveJoined pubkey := by
  obtain ⟨hsessions, _, hothers⟩ := revokeRouteAndMarkAbsent_rows hok
  intro session hsession
  have hbefore : store.getSession pubkey = some session := by
    show store.sessions.find? pubkey = some session
    rw [← hsessions]
    exact hsession
  by_cases hactive : session.channelH = channelH
  · exact Or.inl (hactive.trans (hinactive session hbefore hactive))
  · obtain ⟨hsameRoute, hsameStanding⟩ := hothers session.channelH hactive
    rcases hjoined session hbefore with hempty | ⟨hroute, hmember⟩
    · exact Or.inl hempty
    · refine Or.inr ⟨hsameRoute.trans hroute, ?_⟩
      rw [HasMember, hsameStanding]
      exact hmember

/-- The session publishes in the channel. -/
def activate (store : Store) (pubkey channelH : String) : Store :=
  { store with
    sessions := store.sessions.updateWhere (fun row => row.pubkey = pubkey)
      (fun row => { row with channelH := channelH }) (Session.pubkey_moved channelH) }

/-- A route that is there is not granted again. -/
theorem grantSessionRoute_of_route (instant : Nat)
    (hroute : store.hasSessionRoute pubkey channelH = true) :
    store.grantSessionRoute pubkey channelH instant = .ok ((), store) ∨
      ∃ error, store.grantSessionRoute pubkey channelH instant = .error error := by
  obtain ⟨route, hfind⟩ := Option.isSome_iff_exists.mp hroute
  have hsame : store.sessionChannels.insertOrIgnore
      { pubkey := pubkey, channelH := channelH, grantedAt := instant } = store.sessionChannels :=
    Table.insertOrIgnore_of_some hfind
  unfold grantSessionRoute
  split_ifs
  · exact Or.inl rfl
  · rw [hsame]
    cases bindParams [instant] with
    | error error => exact Or.inr ⟨error, rfl⟩
    | ok value => exact Or.inl rfl

theorem setActiveSessionChannel_cases (store : Store) (pubkey channelH : String) (now : Nat) :
    store.setActiveSessionChannel pubkey channelH now = (false, store) ∨
      store.hasSessionRoute pubkey channelH = true ∧
        (store.setActiveSessionChannel pubkey channelH now).2 = store.activate pubkey channelH := by
  unfold setActiveSessionChannel
  cases store.getSession pubkey with
  | none => exact Or.inl rfl
  | some current =>
      dsimp only
      split_ifs with hchanged
      · exact Or.inl rfl
      · refine Or.inr ?_
        have hroute : store.hasSessionRoute pubkey channelH = true := by
          by_contra hnone
          exact hchanged (Or.inr (Or.inr (Bool.eq_false_iff.mpr hnone)))
        refine ⟨hroute, ?_⟩
        have hmoved : (store.activate pubkey channelH).hasSessionRoute pubkey channelH = true :=
          hroute
        have hgrant := grantSessionRoute_of_route now hmoved
        rw [activate] at hgrant ⊢
        rcases hgrant with hok | ⟨error, herror⟩
        · rw [hok]
        · rw [herror]

theorem getSession_activate (session : Session) (hsession : store.getSession pubkey = some session) :
    (store.activate pubkey channelH).getSession pubkey =
      some { session with channelH := channelH } := by
  have hfind : store.sessions.find? pubkey = some session := hsession
  have hpubkey : session.pubkey = pubkey := Table.key_of_find? hfind
  dsimp only [getSession, activate]
  rw [Table.find?_updateWhere, hfind, Option.map_some, if_pos hpubkey]

/-- An activation keeps every route and every standing. -/
theorem steady_setActive (store : Store) (pubkey channelH : String) (now : Nat) :
    Steady pubkey store (store.setActiveSessionChannel pubkey channelH now).2 := by
  rcases store.setActiveSessionChannel_cases pubkey channelH now with hsame | ⟨_, hactive⟩
  · rw [hsame]
    exact Steady.refl pubkey store
  · rw [hactive]
    refine ⟨?_, fun _ hbacked => hbacked⟩
    intro session hsession
    exact ⟨_, getSession_activate session hsession, rfl, rfl, rfl, rfl⟩

/-- A channel that is joined if it has a route is activated only if it is joined. -/
theorem activeJoined_setActive (hbacked : store.Backed pubkey channelH)
    (hjoined : store.ActiveJoined pubkey) :
    (store.setActiveSessionChannel pubkey channelH now).2.ActiveJoined pubkey := by
  rcases store.setActiveSessionChannel_cases pubkey channelH now with hsame | ⟨hroute, hactive⟩
  · rw [hsame]
    exact hjoined
  · rw [hactive]
    intro session hsession
    cases hbefore : store.getSession pubkey with
    | none =>
        have hfind : store.sessions.find? pubkey = none := hbefore
        dsimp only [getSession, activate] at hsession
        rw [Table.find?_updateWhere, hfind] at hsession
        cases hsession
    | some current =>
        rw [getSession_activate current hbefore] at hsession
        cases hsession
        exact Or.inr ⟨hroute, hbacked hroute⟩

end Store

end Mosaico
