import Mosaico.Reconcile.Presence

/-!
# Fresh leases

A status expires at the relay unless it is published again.  Changes are published at once,
and a renewal publishes when the clock has entered another renewal interval since the last
renewal that did.  If renewals are frequent enough, the last publication is younger than the
lifetime of a status at every moment.
-/

namespace Mosaico

open Relational Transition

namespace StatusOp

def now : StatusOp → Nat
  | .openGeneration _ _ _ now => now
  | .reconcile _ _ _ now => now
  | .renew _ _ now => now
  | .close _ _ now => now
  | .revoke _ _ now => now

/-- The operation leaves the presence to its generation: it is no open of a newer one, and
no close or revocation of this one. -/
def Leaves (pubkey : String) (generation : Nat) : StatusOp → Prop
  | .openGeneration target other _ _ => target = pubkey → other ≤ generation
  | .reconcile _ _ _ _ => True
  | .renew _ _ _ => True
  | .close target other _ => ¬ (target = pubkey ∧ other = generation)
  | .revoke target other _ => ¬ (target = pubkey ∧ other = generation)

instance (pubkey : String) (generation : Nat) : DecidablePred (Leaves pubkey generation)
  | .openGeneration _ _ _ _ => inferInstanceAs (Decidable (_ → _))
  | .reconcile _ _ _ _ | .renew _ _ _ => inferInstanceAs (Decidable True)
  | .close _ _ _ => inferInstanceAs (Decidable (¬ (_ ∧ _)))
  | .revoke _ _ _ => inferInstanceAs (Decidable (¬ (_ ∧ _)))

/-- A renewal of this presence. -/
def Renews (pubkey : String) (generation : Nat) : StatusOp → Prop
  | .renew target other _ => target = pubkey ∧ other = generation
  | _ => False

instance (pubkey : String) (generation : Nat) : DecidablePred (Renews pubkey generation)
  | .openGeneration _ _ _ _ | .reconcile _ _ _ _ => inferInstanceAs (Decidable False)
  | .renew _ _ _ => inferInstanceAs (Decidable (_ ∧ _))
  | .close _ _ _ | .revoke _ _ _ => inferInstanceAs (Decidable False)

end StatusOp

/-- An online status lives for the lifetime of the policy. -/
theorem expiresAt_toStatus {cmd : StatusCommand} {ttlSecs now : Nat}
    (honline : (toStatus cmd ttlSecs now false).state ≠ .offline) :
    (toStatus cmd ttlSecs now false).expiresAt = some (Rust.saturatingAdd now ttlSecs) := by
  have hcommand : ¬ (false = true ∨ cmd.state = .offline) := by
    rintro (hexpiring | hoffline)
    · cases hexpiring
    · exact honline hoffline
  exact congrArg some (if_neg hcommand)

namespace StatusReconciler

variable {policy : StatusReconciler} {pubkey : String} {generation : Nat}
  {state next : PublishedPresence}

/-! ## The entry of a generation -/

theorem owned_put_self (hkey : next.pubkey = pubkey) (hgeneration : next.generation = generation) :
    (policy.put next).owned pubkey generation = some next := by
  rw [owned_eq_some_iff, find?_put, if_pos hkey.symm]
  exact ⟨rfl, hgeneration⟩

theorem owned_put_of_ne (hkey : next.pubkey ≠ pubkey) :
    (policy.put next).owned pubkey generation = policy.owned pubkey generation := by
  unfold owned
  rw [find?_put, if_neg hkey.symm]

variable {other : Nat} {target : String}

/-- The entry of one pubkey belongs to one generation. -/
theorem owned_other (howned : policy.owned pubkey generation = some state)
    (hne : other ≠ generation) : policy.owned pubkey other = none := by
  obtain ⟨hfind, hgeneration⟩ := owned_eq_some_iff.mp howned
  unfold owned
  rw [hfind]
  exact Option.filter_some_neg (by simpa [hgeneration] using hne.symm)

/-- An operation for anything else finds no entry, or that of another pubkey. -/
theorem owned_none_or_ne (howned : policy.owned pubkey generation = some state)
    (hother : ¬ (target = pubkey ∧ other = generation)) :
    policy.owned target other = none ∨ target ≠ pubkey := by
  by_cases htarget : target = pubkey
  · subst htarget
    exact Or.inl (owned_other howned fun hequal => hother ⟨rfl, hequal⟩)
  · exact Or.inr htarget

/-! ## One operation -/

/-- What an operation that leaves the presence to its generation does with it. -/
inductive Follows (policy : StatusReconciler) (pubkey : String) (generation : Nat)
    (state : PublishedPresence) (op : StatusOp) : Prop
  /-- The operation is about another presence, or for a generation that owns none. -/
  | elsewhere (howned : (policy.step op).owned pubkey generation = some state)
      (hsilent : op.pubkey = pubkey → (policy.apply op).1.effects = [])
      (hnot : ¬ op.Renews pubkey generation)
  | reconciled (projection : PresenceProjection)
      (howned : (policy.step op).owned pubkey generation = some (state.projected projection))
      (htarget : op.pubkey = pubkey)
      (heffects : (policy.apply op).1.effects =
        if commandOf (state.projected projection) ≠ commandOf state then
          [.publish (toStatus (commandOf (state.projected projection)) policy.ttlSecs op.now
            false) .changed]
        else [])
      (hnot : ¬ op.Renews pubkey generation)
  | current (howned : (policy.step op).owned pubkey generation = some state)
      (harm : state.renewalArm = policy.renewalArmAt op.now)
      (heffects : (policy.apply op).1.effects = [])
      (hrenews : op.Renews pubkey generation)
  | renewed (howned : (policy.step op).owned pubkey generation =
        some (state.rearmed (policy.renewalArmAt op.now)))
      (htarget : op.pubkey = pubkey)
      (heffects : (policy.apply op).1.effects =
        [.publish (toStatus (commandOf state) policy.ttlSecs op.now false) .renewed])
      (hrenews : op.Renews pubkey generation)

theorem follows_openGeneration (howned : policy.owned pubkey generation = some state)
    {now : Nat} {snapshot : PresenceSnapshot}
    (hleaves : (StatusOp.openGeneration target other snapshot now).Leaves pubkey generation) :
    policy.Follows pubkey generation state (.openGeneration target other snapshot now) := by
  obtain ⟨hfind, hgeneration⟩ := owned_eq_some_iff.mp howned
  by_cases htarget : target = pubkey
  · have holder : other ≤ state.generation := by
      rw [hgeneration]
      exact hleaves htarget
    have hkept : policy.apply (.openGeneration target other snapshot now) =
        (policy.emptyOutcome target, policy) := by
      rw [apply, openGeneration, htarget, hfind, if_pos (by simpa using holder)]
    refine .elsewhere ?_ ?_ id
    · rw [step, hkept]
      exact howned
    · intro _
      rw [hkept]
      rfl
  · refine .elsewhere ?_ (fun hsame => absurd hsame htarget) id
    rw [step, apply, openGeneration]
    split
    · exact howned
    · exact (owned_put_of_ne htarget).trans howned

theorem follows_reconcile (howned : policy.owned pubkey generation = some state)
    (target : String) (other : Nat) (projection : PresenceProjection) (now : Nat) :
    policy.Follows pubkey generation state (.reconcile target other projection now) := by
  have hkey := pubkey_of_owned howned
  have hgeneration := (owned_eq_some_iff.mp howned).2
  cases hother : policy.owned target other with
  | none =>
      have hkept : policy.apply (.reconcile target other projection now) =
          (policy.emptyOutcome target, policy) := by
        rw [apply, reconcile, hother]
      refine .elsewhere ?_ (fun _ => ?_) id
      · rw [step, hkept]
        exact howned
      · rw [hkept]
        rfl
  | some found =>
      have hfound := pubkey_of_owned hother
      by_cases htarget : target = pubkey
      · subst htarget
        have hsame : other = generation := by
          by_contra hne
          rw [owned_other howned hne] at hother
          cases hother
        subst hsame
        rw [howned] at hother
        cases hother
        refine .reconciled projection ?_ rfl ?_ id
        · rw [step, apply, reconcile, howned]
          exact owned_put_self hkey hgeneration
        · rw [apply, reconcile, howned]
          rfl
      · refine .elsewhere ?_ (fun hsame => absurd hsame htarget) id
        rw [step, apply, reconcile, hother]
        refine (owned_put_of_ne ?_).trans howned
        change found.pubkey ≠ pubkey
        rw [hfound]
        exact htarget

theorem follows_renew (howned : policy.owned pubkey generation = some state)
    (target : String) (other now : Nat) :
    policy.Follows pubkey generation state (.renew target other now) := by
  have hkey := pubkey_of_owned howned
  have hgeneration := (owned_eq_some_iff.mp howned).2
  by_cases hsame : target = pubkey ∧ other = generation
  · obtain ⟨rfl, rfl⟩ := hsame
    by_cases harm : state.renewalArm = policy.renewalArmAt now
    · have hkept : policy.apply (.renew target other now) =
          (policy.emptyOutcome target, policy) := by
        rw [apply, renew, howned]
        exact if_pos harm
      refine .current ?_ harm ?_ ⟨rfl, rfl⟩
      · rw [step, hkept]
        exact howned
      · rw [hkept]
        rfl
    · have hrenewed : policy.apply (.renew target other now) =
          (policy.put (state.rearmed (policy.renewalArmAt now))).outcome target
            [.publish (toStatus (commandOf state) policy.ttlSecs now false) .renewed] := by
        rw [apply, renew, howned]
        exact if_neg harm
      refine .renewed ?_ rfl ?_ ⟨rfl, rfl⟩
      · rw [step, hrenewed]
        exact owned_put_self hkey hgeneration
      · rw [hrenewed]
        rfl
  · cases hother : policy.owned target other with
    | none =>
        have hkept : policy.apply (.renew target other now) =
            (policy.emptyOutcome target, policy) := by
          rw [apply, renew, hother]
        refine .elsewhere ?_ (fun _ => ?_) hsame
        · rw [step, hkept]
          exact howned
        · rw [hkept]
          rfl
    | some found =>
        -- another presence is renewed
        have hne : target ≠ pubkey :=
          (owned_none_or_ne howned hsame).resolve_left (by simp [hother])
        have hfound := pubkey_of_owned hother
        refine .elsewhere ?_ (fun heq => absurd heq hne) hsame
        rw [step, apply, renew, hother]
        dsimp only
        split
        · exact howned
        · refine (owned_put_of_ne ?_).trans howned
          change found.pubkey ≠ pubkey
          rw [hfound]
          exact hne

theorem follows_close (howned : policy.owned pubkey generation = some state)
    {now : Nat} (hleaves : (StatusOp.close target other now).Leaves pubkey generation) :
    policy.Follows pubkey generation state (.close target other now) := by
  cases hother : policy.owned target other with
  | none =>
      have hkept : policy.apply (.close target other now) =
          (policy.emptyOutcome target, policy) := by
        rw [apply, close, hother]
      refine .elsewhere ?_ (fun _ => ?_) id
      · rw [step, hkept]
        exact howned
      · rw [hkept]
        rfl
  | some found =>
      have hne : target ≠ pubkey :=
        (owned_none_or_ne howned hleaves).resolve_left (by simp [hother])
      have hfound := pubkey_of_owned hother
      refine .elsewhere ?_ (fun heq => absurd heq hne) id
      rw [step, apply, close, hother]
      dsimp only
      split
      · refine (owned_put_of_ne ?_).trans howned
        change found.pubkey ≠ pubkey
        rw [hfound]
        exact hne
      · exact howned

theorem follows_revoke (howned : policy.owned pubkey generation = some state)
    {now : Nat} (hleaves : (StatusOp.revoke target other now).Leaves pubkey generation) :
    policy.Follows pubkey generation state (.revoke target other now) := by
  cases hother : policy.owned target other with
  | none =>
      have hkept : policy.apply (.revoke target other now) =
          (policy.emptyOutcome target, policy) := by
        rw [apply, revoke, hother]
      refine .elsewhere ?_ (fun _ => ?_) id
      · rw [step, hkept]
        exact howned
      · rw [hkept]
        rfl
  | some found =>
      have hne : target ≠ pubkey :=
        (owned_none_or_ne howned hleaves).resolve_left (by simp [hother])
      obtain ⟨hfind, hgeneration⟩ := owned_eq_some_iff.mp howned
      have hkey := pubkey_of_owned howned
      refine .elsewhere ?_ (fun heq => absurd heq hne) id
      rw [step, apply, revoke, hother]
      refine owned_eq_some_iff.mpr ⟨?_, hgeneration⟩
      change (policy.sessions.deleteWhere (fun row => row.pubkey = target)).find? pubkey =
        some state
      rw [Table.find?_deleteWhere, hfind]
      refine Option.filter_some_pos (decide_eq_true ?_)
      rw [hkey]
      exact hne.symm

/-- The step lemma. -/
theorem follows_step (howned : policy.owned pubkey generation = some state) {op : StatusOp}
    (hleaves : op.Leaves pubkey generation) : policy.Follows pubkey generation state op := by
  cases op with
  | openGeneration target other snapshot now => exact follows_openGeneration howned hleaves
  | reconcile target other projection now =>
      exact follows_reconcile howned target other projection now
  | renew target other now => exact follows_renew howned target other now
  | close target other now => exact follows_close howned hleaves
  | revoke target other now => exact follows_revoke howned hleaves

/-- No operation changes the times of the policy. -/
theorem secs_step (policy : StatusReconciler) (op : StatusOp) :
    (policy.step op).ttlSecs = policy.ttlSecs ∧
      (policy.step op).renewalSecs = policy.renewalSecs := by
  cases op with
  | openGeneration target other snapshot now =>
      rw [step, apply, openGeneration]
      split
      · exact ⟨rfl, rfl⟩
      · exact ⟨rfl, rfl⟩
  | reconcile target other projection now =>
      rw [step, apply, reconcile]
      split
      · exact ⟨rfl, rfl⟩
      · exact ⟨rfl, rfl⟩
  | renew target other now =>
      rw [step, apply, renew]
      split
      · exact ⟨rfl, rfl⟩
      · split
        · exact ⟨rfl, rfl⟩
        · exact ⟨rfl, rfl⟩
  | close target other now =>
      rw [step, apply, close]
      split
      · exact ⟨rfl, rfl⟩
      · split
        · exact ⟨rfl, rfl⟩
        · exact ⟨rfl, rfl⟩
  | revoke target other now =>
      rw [step, apply, revoke]
      split
      · exact ⟨rfl, rfl⟩
      · exact ⟨rfl, rfl⟩

end StatusReconciler

/-! ## The lease -/

/-- A policy with the last publication of one presence, and its time. -/
structure Lease where
  policy : StatusReconciler
  last : StatusEffect
  instant : Nat

namespace Lease

open StatusReconciler

variable {pubkey : String} {generation ttlSecs renewalSecs : Nat}

/-- The lease after an operation: what the operation publishes of the presence is the last
publication. -/
def step (pubkey : String) (lease : Lease) (op : StatusOp) : Lease :=
  let next := lease.policy.step op
  match (lease.policy.apply op).1.effects.getLast? with
  | some effect =>
      if op.pubkey = pubkey then ⟨next, effect, op.now⟩ else { lease with policy := next }
  | none => { lease with policy := next }

variable {lease : Lease} {op : StatusOp}

/-- An operation that publishes nothing of the presence keeps the last publication. -/
theorem step_of_silent (hsilent : op.pubkey = pubkey → (lease.policy.apply op).1.effects = []) :
    lease.step pubkey op = { lease with policy := lease.policy.step op } := by
  unfold step
  split
  · rename_i effect heffect
    split
    · rename_i htarget
      rw [hsilent htarget] at heffect
      cases heffect
    · rfl
  · rfl

theorem step_of_publish {effect : StatusEffect}
    (htarget : op.pubkey = pubkey) (heffects : (lease.policy.apply op).1.effects = [effect]) :
    lease.step pubkey op = ⟨lease.policy.step op, effect, op.now⟩ := by
  unfold step
  rw [heffects, List.getLast?_singleton]
  exact if_pos htarget

/-- The last publication shows the presence as it is, and its owner is online. -/
structure Shows (pubkey : String) (generation ttlSecs : Nat) (lease : Lease)
    (state : PublishedPresence) : Prop where
  owned : lease.policy.owned pubkey generation = some state
  live : state.live = true
  ttl : lease.policy.ttlSecs = ttlSecs
  last : ∃ reason, lease.last =
    .publish (toStatus (commandOf state) ttlSecs lease.instant false) reason

/-! ## Paced operations -/

/-- The clock does not go back, and each operation finds the last renewal at most `pace`
seconds ago. -/
def Paced (pubkey : String) (generation pace : Nat) : Nat → Nat → List StatusOp → Prop
  | _, _, [] => True
  | clock, renewed, op :: rest =>
      clock ≤ op.now ∧ op.now ≤ renewed + pace ∧
        Paced pubkey generation pace op.now
          (if op.Renews pubkey generation then op.now else renewed) rest

/-- The arm is that of the last renewal, and it was set before the last publication. -/
structure Armed (renewalSecs clock renewed : Nat) (lease : Lease) (state : PublishedPresence) :
    Prop where
  secs : lease.policy.renewalSecs = renewalSecs
  instant_le : lease.instant ≤ clock
  renewed_arm : renewed / renewalSecs = state.renewalArm
  armed : ∃ armed, armed ≤ lease.instant ∧ armed / renewalSecs = state.renewalArm

/-- Times of one renewal interval lie close together. -/
theorem lt_add_of_div_eq {armed renewed interval : Nat} (hinterval : 0 < interval)
    (heq : armed / interval = renewed / interval) : renewed < armed + interval := by
  have hupper := Nat.lt_mul_div_succ renewed hinterval
  have hlower := Nat.mul_div_le armed interval
  rw [← heq, Nat.mul_add, Nat.mul_one] at hupper
  omega

theorem Armed.renewed_lt {clock renewed : Nat} {state : PublishedPresence}
    (harmed : lease.Armed renewalSecs clock renewed state) (hrenewal : 0 < renewalSecs) :
    renewed < lease.instant + renewalSecs := by
  obtain ⟨armed, hle, harm⟩ := harmed.armed
  have hlt := lt_add_of_div_eq hrenewal (harm.trans harmed.renewed_arm.symm)
  omega

/-- The step lemma of the lease. -/
theorem shows_step {state : PublishedPresence}
    (hshows : lease.Shows pubkey generation ttlSecs state) (hleaves : op.Leaves pubkey generation) :
    ∃ next, (lease.step pubkey op).Shows pubkey generation ttlSecs next ∧
      ∀ {clock renewed}, lease.Armed renewalSecs clock renewed state → clock ≤ op.now →
        (lease.step pubkey op).Armed renewalSecs op.now
          (if op.Renews pubkey generation then op.now else renewed) next := by
  have httl : (lease.policy.step op).ttlSecs = ttlSecs :=
    (secs_step lease.policy op).1.trans hshows.ttl
  have hsecs := (secs_step lease.policy op).2
  cases follows_step hshows.owned hleaves with
  | elsewhere howned hsilent hnot =>
      rw [step_of_silent hsilent]
      simp only [if_neg hnot]
      refine ⟨state, ⟨howned, hshows.live, httl, hshows.last⟩, ?_⟩
      intro clock renewed harmed hclock
      exact ⟨hsecs.trans harmed.secs, Nat.le_trans harmed.instant_le hclock,
        harmed.renewed_arm, harmed.armed⟩
  | reconciled projection howned htarget heffects hnot =>
      simp only [if_neg hnot]
      -- A reconcile publishes only when the command differs.
      by_cases hchanged : commandOf (state.projected projection) = commandOf state
      · rw [if_neg (not_not_intro hchanged)] at heffects
        rw [step_of_silent fun _ => heffects]
        refine ⟨state.projected projection, ⟨howned, rfl, httl, ?_⟩, ?_⟩
        · rw [hchanged]
          exact hshows.last
        · intro clock renewed harmed hclock
          exact ⟨hsecs.trans harmed.secs, Nat.le_trans harmed.instant_le hclock,
            harmed.renewed_arm, harmed.armed⟩
      · rw [if_pos hchanged, hshows.ttl] at heffects
        rw [step_of_publish htarget heffects]
        refine ⟨state.projected projection, ⟨howned, rfl, httl, .changed, rfl⟩, ?_⟩
        intro clock renewed harmed hclock
        obtain ⟨armed, hle, harm⟩ := harmed.armed
        have hinstant := Nat.le_trans harmed.instant_le hclock
        exact ⟨hsecs.trans harmed.secs, Nat.le_refl _, harmed.renewed_arm, armed,
          Nat.le_trans hle hinstant, harm⟩
  | current howned harm heffects hrenews =>
      rw [step_of_silent fun _ => heffects]
      simp only [if_pos hrenews]
      refine ⟨state, ⟨howned, hshows.live, httl, hshows.last⟩, ?_⟩
      intro clock renewed harmed hclock
      refine ⟨hsecs.trans harmed.secs, Nat.le_trans harmed.instant_le hclock, ?_, harmed.armed⟩
      rw [harm, renewalArmAt, harmed.secs]
  | renewed howned htarget heffects hrenews =>
      rw [hshows.ttl] at heffects
      rw [step_of_publish htarget heffects]
      simp only [if_pos hrenews]
      refine ⟨state.rearmed (lease.policy.renewalArmAt op.now),
        ⟨howned, hshows.live, httl, .renewed, rfl⟩, ?_⟩
      intro clock renewed harmed _
      have harm : op.now / renewalSecs =
          (state.rearmed (lease.policy.renewalArmAt op.now)).renewalArm := by
        rw [← harmed.secs]
        rfl
      exact ⟨hsecs.trans harmed.secs, Nat.le_refl _, harm, op.now, Nat.le_refl _, harm⟩

/-- A paced run never finds the last publication as old as a lease. -/
theorem paced_lt_instant {state : PublishedPresence} {clock renewed pace : Nat}
    (hshows : lease.Shows pubkey generation ttlSecs state)
    (harmed : lease.Armed renewalSecs clock renewed state) (hrenewal : 0 < renewalSecs)
    (hpace : renewalSecs + pace < ttlSecs) {before after : List StatusOp}
    (hleaves : ∀ other ∈ before, other.Leaves pubkey generation)
    (hpaced : Paced pubkey generation pace clock renewed (before ++ op :: after)) :
    op.now < (run (step pubkey) lease before).instant + ttlSecs := by
  induction before generalizing lease state clock renewed with
  | nil =>
      have hrenewed := harmed.renewed_lt hrenewal
      have hnow := hpaced.2.1
      rw [run_nil]
      omega
  | cons first rest ih =>
      obtain ⟨hclock, _, hrest⟩ := hpaced
      obtain ⟨next, hnext, hnextArmed⟩ := shows_step hshows (hleaves first List.mem_cons_self)
      exact ih hnext (hnextArmed harmed hclock)
        (fun other hother => hleaves other (List.mem_cons_of_mem first hother)) hrest

theorem shows_run {state : PublishedPresence}
    (hshows : lease.Shows pubkey generation ttlSecs state) {ops : List StatusOp}
    (hleaves : ∀ op ∈ ops, op.Leaves pubkey generation) :
    ∃ next, (run (step pubkey) lease ops).Shows pubkey generation ttlSecs next := by
  induction ops generalizing lease state with
  | nil => exact ⟨state, hshows⟩
  | cons op rest ih =>
      obtain ⟨next, hnext, _⟩ := @shows_step pubkey generation ttlSecs lease.policy.renewalSecs
        lease op state hshows (hleaves op List.mem_cons_self)
      exact ih hnext fun other hother => hleaves other (List.mem_cons_of_mem op hother)

/-! ## An opened presence -/

/-- An open that publishes starts a lease. -/
theorem shows_opened {snapshot : PresenceSnapshot} {now : Nat}
    (hopens : (lease.policy.openGeneration pubkey generation snapshot now).1.effects ≠ [])
    (httl : lease.policy.ttlSecs = ttlSecs) (hrenewal : lease.policy.renewalSecs = renewalSecs) :
    ∃ state, (lease.step pubkey (.openGeneration pubkey generation snapshot now)).Shows pubkey
        generation ttlSecs state ∧
      (lease.step pubkey (.openGeneration pubkey generation snapshot now)).Armed renewalSecs now
        now state := by
  let state : PublishedPresence :=
    ⟨pubkey, generation, snapshot, true, lease.policy.renewalArmAt now⟩
  have hnewer : ¬ (lease.policy.sessions.find? pubkey).any
      (fun current => decide (generation ≤ current.generation)) = true := by
    intro holder
    apply hopens
    rw [openGeneration, if_pos holder]
    rfl
  have happly : lease.policy.apply (.openGeneration pubkey generation snapshot now) =
      (lease.policy.put state).outcome pubkey
        [.publish (toStatus (commandOf state) lease.policy.ttlSecs now false) .opened] :=
    if_neg hnewer
  have hsecs := secs_step lease.policy (.openGeneration pubkey generation snapshot now)
  have heffects : (lease.policy.apply (.openGeneration pubkey generation snapshot now)).1.effects =
      [.publish (toStatus (commandOf state) lease.policy.ttlSecs now false) .opened] := by
    rw [happly]
    rfl
  have hstep : lease.step pubkey (.openGeneration pubkey generation snapshot now) = ⟨_, _, now⟩ :=
    step_of_publish rfl heffects
  rw [hstep]
  refine ⟨state, ⟨?_, rfl, hsecs.1.trans httl, .opened, by rw [httl]⟩,
    hsecs.2.trans hrenewal, Nat.le_refl _, ?_, now, Nat.le_refl _, ?_⟩
  · dsimp only
    rw [StatusReconciler.step, happly]
    exact owned_put_self rfl rfl
  · rw [← hrenewal]
    rfl
  · rw [← hrenewal]
    rfl

theorem secs_run (start : StatusReconciler) (ops : List StatusOp) :
    (run StatusReconciler.step start ops).ttlSecs = start.ttlSecs ∧
      (run StatusReconciler.step start ops).renewalSecs = start.renewalSecs := by
  let Same := fun policy : StatusReconciler =>
    policy.ttlSecs = start.ttlSecs ∧ policy.renewalSecs = start.renewalSecs
  refine run_invariant (I := Same) ⟨rfl, rfl⟩ ?_ ops
  intro policy op hsame
  have hstep := secs_step policy op
  exact ⟨hstep.1.trans hsame.1, hstep.2.trans hsame.2⟩

/-- From the open of a presence on, the last publication shows it as it is, a reconcile
publishes exactly the changes of what is shown, and if renewals come often enough no status
of an online session gets as old as its lifetime. -/
theorem lease_fresh (ttlSecs renewalSecs : Nat) (httl : 0 < ttlSecs) (hrenewal : 0 < renewalSecs)
    (start : Lease) (earlier : List StatusOp)
    (hstart : start.policy = run StatusReconciler.step (new ttlSecs renewalSecs) earlier)
    (pubkey : String) (generation : Nat) (snapshot : PresenceSnapshot) (now : Nat)
    (hopens : (start.policy.openGeneration pubkey generation snapshot now).1.effects ≠ [])
    (ops : List StatusOp) (hleaves : ∀ op ∈ ops, op.Leaves pubkey generation) :
    (∀ before, before <+: ops → ∃ state reason,
      let lease := run (step pubkey)
        (start.step pubkey (.openGeneration pubkey generation snapshot now)) before
      lease.policy.owned pubkey generation = some state ∧
        lease.last = .publish (toStatus (commandOf state) ttlSecs lease.instant false) reason ∧
        ∀ projection instant,
          (lease.policy.reconcile pubkey generation projection instant).1.effects =
            if commandOf (state.projected projection) ≠ commandOf state then
              [.publish (toStatus (commandOf (state.projected projection)) ttlSecs instant false)
                .changed]
            else []) ∧
      ∀ pace, renewalSecs + pace < ttlSecs → Paced pubkey generation pace now now ops →
        ∀ before op after, ops = before ++ op :: after →
          let lease := run (step pubkey)
            (start.step pubkey (.openGeneration pubkey generation snapshot now)) before
          op.now < lease.instant + ttlSecs ∧
            (lease.last.status.state ≠ .offline → op.now < Rust.u64Max →
              ∃ expiry, lease.last.status.expiresAt = some expiry ∧ op.now < expiry) := by
  have hsecs := secs_run (new ttlSecs renewalSecs) earlier
  have hstartTtl : start.policy.ttlSecs = ttlSecs := by
    rw [hstart, hsecs.1]
    exact Nat.max_eq_left httl
  have hstartRenewal : start.policy.renewalSecs = renewalSecs := by
    rw [hstart, hsecs.2]
    exact Nat.max_eq_left hrenewal
  obtain ⟨state, hshows, harmed⟩ := shows_opened hopens hstartTtl hstartRenewal
  constructor
  · intro before hbefore
    have hbeforeLeaves : ∀ op ∈ before, op.Leaves pubkey generation :=
      fun op hop => hleaves op (hbefore.subset hop)
    obtain ⟨shown, hshown⟩ := shows_run hshows hbeforeLeaves
    obtain ⟨reason, hlast⟩ := hshown.last
    refine ⟨shown, reason, hshown.owned, hlast, ?_⟩
    intro projection instant
    rw [reconcile, hshown.owned, ← hshown.ttl]
    rfl
  · intro pace hpace hpaced before op after hsplit
    subst hsplit
    have hbeforeLeaves : ∀ other ∈ before, other.Leaves pubkey generation :=
      fun other hother => hleaves other (List.mem_append_left _ hother)
    -- A renewal is due before the shown status expires, and the pace brings it in time.
    have hlt := paced_lt_instant hshows harmed hrenewal hpace hbeforeLeaves hpaced
    refine ⟨hlt, ?_⟩
    obtain ⟨shown, hshown⟩ := shows_run hshows hbeforeLeaves
    obtain ⟨reason, hlast⟩ := hshown.last
    rw [hlast]
    intro honline hmax
    exact ⟨_, expiresAt_toStatus honline, Nat.lt_min.mpr ⟨hlt, hmax⟩⟩

def workingSnapshot : PresenceSnapshot := ⟨"laptop", "coder", ".", none, workingProjection⟩

/-- A fresh policy; nothing has been published. -/
def unpublished : Lease where
  policy := new 90 30
  last := .expire (toStatus ⟨"", [], "", .offline, 0, "", "", "", none⟩ 90 0 true)
  instant := 0

theorem lease_fresh_working :
    60 < (run (step "agent")
      (unpublished.step "agent" (.openGeneration "agent" 1 workingSnapshot 0))
      [.renew "agent" 1 30, .reconcile "agent" 1 ⟨["room"], .idle, 40, "Task"⟩ 40]).instant + 90 := by
  have hpaced : Paced "agent" 1 30 0 0
      [.renew "agent" 1 30, .reconcile "agent" 1 ⟨["room"], .idle, 40, "Task"⟩ 40,
        .renew "agent" 1 60] := by
    simp [Paced, StatusOp.now, StatusOp.Renews]
  have hfresh := lease_fresh 90 30 (by decide) (by decide) unpublished [] rfl "agent" 1
    workingSnapshot 0 (by decide +kernel)
    [.renew "agent" 1 30, .reconcile "agent" 1 ⟨["room"], .idle, 40, "Task"⟩ 40,
      .renew "agent" 1 60] (by decide)
  exact (hfresh.2 30 (by decide) hpaced [.renew "agent" 1 30,
    .reconcile "agent" 1 ⟨["room"], .idle, 40, "Task"⟩ 40] (.renew "agent" 1 60) [] rfl).1

end Lease

end Mosaico
