import Mosaico.Standing.Admission

/-!
# The standing fence

Relay admissions complete outside the store lock.  A system is the store
together with the admissions requested so far; its steps are arbitrary store
operations and completions that carry the session snapshot of their request.

`AdmissionStep.Fenced` is the law that a completion must obey.  In a run every
step obeys it exactly as long as no completion overwrites an exposed row: the
cleanup of a completion looks only for a `member` row of another epoch, so it
overwrites a retained or absent row of a later lifecycle, and a member row that
a cancelled eviction has carried into a later one.
-/

namespace Mosaico

open Relational Transition

/-- The store and the admissions whose round trip may still be under way.  A
completion may be retried, so a ticket is never withdrawn. -/
structure AdmissionSystem where
  store : Store
  requested : List AdmissionTicket

/-- A step of the store or of a relay admission. -/
inductive AdmissionStep where
  | operate (op : StoreOp)
  | request (pubkey : String)
  | commit (ticket : AdmissionTicket) (channelH : String) (now : Nat)
  | compensate (ticket : AdmissionTicket) (channelH : String) (now : Nat)
  deriving DecidableEq

namespace AdmissionSystem

def empty : AdmissionSystem := ⟨Store.empty, []⟩

/-- A completion runs only with the snapshot of a request. -/
def step (system : AdmissionSystem) : AdmissionStep → AdmissionSystem
  | .operate op =>
      if op.isAdmission then system
      else { system with store := system.store.step op }
  | .request pubkey =>
      match system.store.getSession pubkey with
      | none => system
      | some session =>
          { system with
            requested :=
              ⟨pubkey, session.runtimeGeneration, session.lifecycleEpoch⟩ :: system.requested }
  | .commit ticket channelH now =>
      if ticket ∈ system.requested then
        { system with
          store := system.store.step (.standing (.commitConfirmedSessionAdmission ticket.pubkey
            channelH ticket.runtimeGeneration ticket.lifecycleEpoch now)) }
      else system
  | .compensate ticket channelH now =>
      if ticket ∈ system.requested then
        { system with
          store := system.store.step (.standing (.scheduleConfirmedAdmissionCleanup ticket.pubkey
            channelH ticket.runtimeGeneration ticket.lifecycleEpoch now)) }
      else system

end AdmissionSystem

/-! ## The law -/

/-- A running session of the row's pubkey. -/
def Store.Running (store : Store) (row : SessionStanding) : Prop :=
  store.sessions.Any (fun session =>
    session.pubkey = row.pubkey ∧ session.runtimeState = .running)

/-- The rows that an admission of `lifecycleEpoch` must not touch: those of a
later lifecycle and the member rows of the running generation. -/
def Store.Protects (store : Store) (lifecycleEpoch : Nat) (row : SessionStanding) : Prop :=
  lifecycleEpoch < row.sessionLifecycleEpoch ∨ (row.state = .member ∧ store.Running row)

namespace AdmissionStep

/-- The ticket and the channel of a completion. -/
def carried : AdmissionStep → Option (AdmissionTicket × String)
  | .commit ticket channelH _ => some (ticket, channelH)
  | .compensate ticket channelH _ => some (ticket, channelH)
  | _ => none

/-- The step is the commit of the lifecycle that owns the row: the admission
that makes it a member row. -/
def Readmits (store : Store) (row : SessionStanding) : AdmissionStep → Prop
  | .commit ticket channelH _ => store.Owns ticket ∧ row.key = (ticket.pubkey, channelH)
  | _ => False

/-- The law of one step. -/
structure Fenced (before : AdmissionSystem) (step : AdmissionStep) (after : AdmissionSystem) :
    Prop where
  /-- A completion leaves the protected rows as they are; only the running
  lifecycle itself refreshes its member row, which stays one. -/
  protects : ∀ ticket channelH, step.carried = some (ticket, channelH) →
    ∀ row ∈ before.store.sessionStanding.rows,
      before.store.Protects ticket.lifecycleEpoch row →
        after.store.sessionStanding.find? row.key = some row ∨
          (step.Readmits before.store row ∧ ∃ next,
            after.store.sessionStanding.find? row.key = some next ∧ next.state = .member ∧
              next.sessionLifecycleEpoch = ticket.lifecycleEpoch)
  /-- The epoch of a row never falls, and every write raises its version. -/
  advances : ∀ row ∈ before.store.sessionStanding.rows, ∃ next,
    after.store.sessionStanding.find? row.key = some next ∧
      row.sessionLifecycleEpoch ≤ next.sessionLifecycleEpoch ∧
      (next = row ∨ row.standingEpoch < next.standingEpoch)
  /-- A completion of an older lifecycle keeps the deadline of a retained row. -/
  retains : ∀ ticket channelH, step.carried = some (ticket, channelH) →
    ∀ row ∈ before.store.sessionStanding.rows, row.state = .retained →
      ticket.lifecycleEpoch < row.sessionLifecycleEpoch →
        ∃ next, after.store.sessionStanding.find? row.key = some next ∧
          next.retainUntil = row.retainUntil

/-! ## The condition -/

end AdmissionStep

/-- The rows that the cleanup of an admission of `lifecycleEpoch` fails to
recognise as protected. -/
def Store.Exposes (store : Store) (lifecycleEpoch : Nat) (row : SessionStanding) : Prop :=
  (row.state ≠ .member ∧ lifecycleEpoch < row.sessionLifecycleEpoch) ∨
    (row.state = .member ∧ row.sessionLifecycleEpoch = lifecycleEpoch ∧ store.Running row)

/-- A completion that is not settled finds an exposed row at its pubkey and
channel. -/
def Store.Overwrites (store : Store) (settled : Prop) (ticket : AdmissionTicket)
    (channelH : String) (now : Nat) : Prop :=
  ¬ settled ∧ Store.Binds ticket now ∧ store.sessionStanding.Any (fun row =>
    row.key = (ticket.pubkey, channelH) ∧ store.Exposes ticket.lifecycleEpoch row)

def AdmissionStep.Overwrites (system : AdmissionSystem) : AdmissionStep → Prop
  | .commit ticket channelH now => ticket ∈ system.requested ∧
      system.store.Overwrites (system.store.Owns ticket) ticket channelH now
  | .compensate ticket channelH now => ticket ∈ system.requested ∧
      system.store.Overwrites (system.store.Durable ticket channelH) ticket channelH now
  | _ => False

/-! ## The invariant of the system -/

/-- Standing rows and tickets never run ahead of their session. -/
structure AdmissionSystem.Invariant (system : AdmissionSystem) : Prop where
  standing : ∀ row ∈ system.store.sessionStanding.rows,
    ∃ session, system.store.sessions.find? row.pubkey = some session ∧
      row.sessionLifecycleEpoch ≤ session.lifecycleEpoch
  requested : ∀ ticket ∈ system.requested,
    ∃ session, system.store.sessions.find? ticket.pubkey = some session ∧
      ticket.lifecycleEpoch ≤ session.lifecycleEpoch

namespace Store

variable {store : Store} {pubkey channelH : String} {lifecycleEpoch now : Nat}

/-- Sessions do not disappear, and their lifecycle epoch does not fall. -/
theorem step_lifecycleEpoch_le (op : StoreOp)
    {session : Session} (hfind : store.sessions.find? pubkey = some session) :
    ∃ next, (store.step op).sessions.find? pubkey = some next ∧
      session.lifecycleEpoch ≤ next.lifecycleEpoch := by
  have hchange := step_sessionChange store op pubkey
  generalize (store.step op).sessions.find? pubkey = after at hchange
  cases hchange with
  | kept => exact ⟨session, hfind, Nat.le_refl _⟩
  | rewritten row next hrow hrewrites =>
      rw [hfind, Option.some.injEq] at hrow
      subst hrow
      exact ⟨next, rfl, StoreOp.rewrites_lifecycleEpoch_le hrewrites⟩
  | created next hfree => rw [hfind] at hfree; cases hfree

/-! ## Lookups after a completion -/

theorem find?_upsertCleanup_of_some {row : SessionStanding}
    (hfind : store.sessionStanding.find? (pubkey, channelH) = some row) :
    (store.upsertCleanup pubkey channelH lifecycleEpoch now).sessionStanding.find?
      (pubkey, channelH) = some (row.rewrite .retained now lifecycleEpoch now) := by
  simp only [upsertCleanup]
  rw [Table.find?_upsert, hfind]
  exact if_pos rfl

theorem find?_upsertCleanup_of_ne {k : String × String} (hk : k ≠ (pubkey, channelH)) :
    (store.upsertCleanup pubkey channelH lifecycleEpoch now).sessionStanding.find? k =
      store.sessionStanding.find? k := by
  simp only [upsertCleanup]
  rw [Table.find?_upsert]
  exact if_neg hk

theorem find?_upsertMember_of_some {row : SessionStanding}
    (hfind : store.sessionStanding.find? (pubkey, channelH) = some row) :
    (store.upsertMember pubkey channelH lifecycleEpoch now).sessionStanding.find?
      (pubkey, channelH) = some (row.rewrite .member 0 lifecycleEpoch now) := by
  simp only [upsertMember]
  rw [Table.find?_upsert, hfind]
  exact if_pos rfl

theorem find?_upsertMember_of_ne {k : String × String} (hk : k ≠ (pubkey, channelH)) :
    (store.upsertMember pubkey channelH lifecycleEpoch now).sessionStanding.find? k =
      store.sessionStanding.find? k := by
  simp only [upsertMember]
  rw [Table.find?_upsert]
  exact if_neg hk

/-- A cleanup overwrites a row exactly when it writes over an exposed one. -/
theorem overwrites_iff {settled : Prop} {ticket : AdmissionTicket}
      :
    store.Overwrites settled ticket channelH now ↔
      store.CleansUp settled ticket channelH now ∧
        ∃ row, store.sessionStanding.find? (ticket.pubkey, channelH) = some row ∧
          store.Protects ticket.lifecycleEpoch row := by
  have hother : store.hasOtherMember ticket.pubkey channelH ticket.lifecycleEpoch ↔
      ∃ row, store.sessionStanding.find? (ticket.pubkey, channelH) = some row ∧
        row.state = .member ∧ row.sessionLifecycleEpoch ≠ ticket.lifecycleEpoch := by
    rw [← Table.any_key_iff]
    simp only [hasOtherMember, SessionStanding.key, Prod.mk.injEq, and_assoc]
  constructor
  · rintro ⟨hsettled, hbinds, hany⟩
    obtain ⟨row, hfind, hexposes⟩ := Table.any_key_iff.mp hany
    refine ⟨⟨hsettled, hbinds, ?_⟩, row, hfind, ?_⟩
    · rw [hother]
      rintro ⟨found, hfound, hmember, hepoch⟩
      rw [hfind, Option.some.injEq] at hfound
      subst hfound
      rcases hexposes with ⟨hnot, _⟩ | ⟨_, hsame, _⟩
      · exact hnot hmember
      · exact hepoch hsame
    · rcases hexposes with ⟨_, hlater⟩ | ⟨hmember, _, hrunning⟩
      · exact Or.inl hlater
      · exact Or.inr ⟨hmember, hrunning⟩
  · rintro ⟨⟨hsettled, hbinds, hnone⟩, row, hfind, hprotects⟩
    refine ⟨hsettled, hbinds, Table.any_key_iff.mpr ⟨row, hfind, ?_⟩⟩
    have hsame : row.state = .member → row.sessionLifecycleEpoch = ticket.lifecycleEpoch := by
      intro hmember
      by_contra hepoch
      exact hnone (hother.mpr ⟨row, hfind, hmember, hepoch⟩)
    rcases hprotects with hlater | ⟨hmember, hrunning⟩
    · refine Or.inl ⟨fun hmember => ?_, hlater⟩
      have hepoch := hsame hmember
      omega
    · exact Or.inr ⟨hmember, hsame hmember, hrunning⟩

end Store

/-! ## One step -/

namespace AdmissionStep

theorem fenced_of_eq {before after : AdmissionSystem} {step : AdmissionStep}
    (heq : after.store.sessionStanding = before.store.sessionStanding) :
    step.Fenced before after := by
  have hkept : ∀ row ∈ before.store.sessionStanding.rows,
      after.store.sessionStanding.find? row.key = some row := by
    intro row hrow
    rw [heq]
    exact Table.mem_rows_iff.mp hrow
  constructor
  · intro ticket channelH _ row hrow _
    exact Or.inl (hkept row hrow)
  · intro row hrow
    exact ⟨row, hkept row hrow, Nat.le_refl _, Or.inl rfl⟩
  · intro ticket channelH _ row hrow _ _
    exact ⟨row, hkept row hrow, rfl⟩

/-- A completion obeys the law exactly if its cleanup overwrites nothing
exposed. -/
theorem fenced_iff_of_cleanup {before after : AdmissionSystem} {step : AdmissionStep}
    {settled : Prop} {ticket : AdmissionTicket} {channelH : String} {now : Nat}
    (hcarried : step.carried = some (ticket, channelH))
    (hreadmissions : ∀ row, step.Readmits before.store row → settled)
    (heffect : before.store.CleanupEffect settled ticket channelH now after.store) :
    step.Fenced before after ↔ ¬ before.store.Overwrites settled ticket channelH now := by
  rw [Store.overwrites_iff]
  cases heffect with
  | kept hkeeps hstanding =>
      constructor
      · intro _ hoverwrites
        exact hkeeps hoverwrites.1
      · intro _
        exact fenced_of_eq hstanding
  | cleaned hcleans hstanding =>
      constructor
      · rintro hfenced ⟨_, row, hfind, hprotects⟩
        have hkey := Table.key_of_find? hfind
        rcases hfenced.protects ticket channelH hcarried row (Table.mem_of_find? hfind)
          hprotects with hsame | ⟨hreadmission, _⟩
        · rw [hstanding, hkey, Store.find?_upsertCleanup_of_some hfind,
            Option.some.injEq] at hsame
          have hversion := congrArg SessionStanding.standingEpoch hsame
          rw [SessionStanding.rewrite_standingEpoch] at hversion
          omega
        · exact hcleans.1 (hreadmissions row hreadmission)
      · intro hnone
        -- the row under the completion's key is not protected; the others are kept
        have hown : ∀ row ∈ before.store.sessionStanding.rows,
            row.key = (ticket.pubkey, channelH) →
              ¬ before.store.Protects ticket.lifecycleEpoch row := by
          intro row hrow hkey hprotects
          exact hnone ⟨hcleans, row, hkey ▸ Table.mem_rows_iff.mp hrow, hprotects⟩
        have hkept : ∀ row ∈ before.store.sessionStanding.rows,
            row.key ≠ (ticket.pubkey, channelH) →
              after.store.sessionStanding.find? row.key = some row := by
          intro row hrow hkey
          rw [hstanding, Store.find?_upsertCleanup_of_ne hkey]
          exact Table.mem_rows_iff.mp hrow
        constructor
        · intro ticket' channelH' hcarried' row hrow hprotects
          rw [hcarried, Option.some.injEq, Prod.mk.injEq] at hcarried'
          obtain ⟨rfl, rfl⟩ := hcarried'
          by_cases hkey : row.key = (ticket.pubkey, channelH)
          · exact absurd hprotects (hown row hrow hkey)
          · exact Or.inl (hkept row hrow hkey)
        · intro row hrow
          by_cases hkey : row.key = (ticket.pubkey, channelH)
          · have hfind := Table.mem_rows_iff.mp hrow
            rw [hkey] at hfind
            refine ⟨row.rewrite .retained now ticket.lifecycleEpoch now, ?_, ?_,
              Or.inr (Nat.lt_succ_self _)⟩
            · rw [hstanding, hkey]
              exact Store.find?_upsertCleanup_of_some hfind
            · by_contra hlater
              exact hown row hrow hkey (Or.inl (Nat.lt_of_not_le hlater))
          · exact ⟨row, hkept row hrow hkey, Nat.le_refl _, Or.inl rfl⟩
        · intro ticket' channelH' hcarried' row hrow _ hlater
          rw [hcarried, Option.some.injEq, Prod.mk.injEq] at hcarried'
          obtain ⟨rfl, rfl⟩ := hcarried'
          by_cases hkey : row.key = (ticket.pubkey, channelH)
          · exact absurd (Or.inl hlater) (hown row hrow hkey)
          · exact ⟨row, hkept row hrow hkey, rfl⟩

/-- The commit of the lifecycle that owns the session obeys the law. -/
theorem fenced_of_owned {before after : AdmissionSystem} {ticket : AdmissionTicket}
    {channelH : String} {now : Nat} (hinvariant : before.Invariant)
    (howns : before.store.Owns ticket)
    (hstanding : after.store.sessionStanding =
      (before.store.upsertMember ticket.pubkey channelH ticket.lifecycleEpoch
        now).sessionStanding) :
    (AdmissionStep.commit ticket channelH now).Fenced before after := by
  have hkept : ∀ row ∈ before.store.sessionStanding.rows,
      row.key ≠ (ticket.pubkey, channelH) →
        after.store.sessionStanding.find? row.key = some row := by
    intro row hrow hkey
    rw [hstanding, Store.find?_upsertMember_of_ne hkey]
    exact Table.mem_rows_iff.mp hrow
  have hwritten : ∀ row ∈ before.store.sessionStanding.rows,
      row.key = (ticket.pubkey, channelH) →
        after.store.sessionStanding.find? row.key =
          some (row.rewrite .member 0 ticket.lifecycleEpoch now) := by
    intro row hrow hkey
    have hfind := Table.mem_rows_iff.mp hrow
    rw [hkey] at hfind
    rw [hstanding, hkey]
    exact Store.find?_upsertMember_of_some hfind
  -- no row of the pubkey is ahead of the running lifecycle
  have hbehind : ∀ row ∈ before.store.sessionStanding.rows,
      row.key = (ticket.pubkey, channelH) →
        row.sessionLifecycleEpoch ≤ ticket.lifecycleEpoch := by
    intro row hrow hkey
    obtain ⟨session, hfind, hle⟩ := hinvariant.standing row hrow
    obtain ⟨owner, howner, _, hepoch, _⟩ := Table.any_key_iff.mp howns
    have hpubkey : row.pubkey = ticket.pubkey := congrArg Prod.fst hkey
    rw [hpubkey, howner, Option.some.injEq] at hfind
    subst hfind
    omega
  constructor
  · intro ticket' channelH' hcarried row hrow _
    cases hcarried
    by_cases hkey : row.key = (ticket.pubkey, channelH)
    · exact Or.inr ⟨⟨howns, hkey⟩, _, hwritten row hrow hkey, rfl, rfl⟩
    · exact Or.inl (hkept row hrow hkey)
  · intro row hrow
    by_cases hkey : row.key = (ticket.pubkey, channelH)
    · exact ⟨_, hwritten row hrow hkey, hbehind row hrow hkey, Or.inr (Nat.lt_succ_self _)⟩
    · exact ⟨row, hkept row hrow hkey, Nat.le_refl _, Or.inl rfl⟩
  · intro ticket' channelH' hcarried row hrow _ hlater
    cases hcarried
    by_cases hkey : row.key = (ticket.pubkey, channelH)
    · have hle := hbehind row hrow hkey
      omega
    · exact ⟨row, hkept row hrow hkey, rfl⟩

end AdmissionStep

namespace AdmissionSystem

variable {system : AdmissionSystem}

/-- An operation that completes no admission obeys the law. -/
theorem operate_fenced (hinvariant : system.Invariant)
    {op : StoreOp} (hop : op.isAdmission = false) :
    (AdmissionStep.operate op).Fenced system { system with store := system.store.step op } := by
  constructor
  · intro ticket channelH hcarried
    cases hcarried
  · intro row hrow
    have hadvance := Store.step_standingAdvances system.store hop row.key
    apply hadvance.fenced (Table.mem_rows_iff.mp hrow)
    rintro epoch ⟨session, hfind, rfl⟩
    obtain ⟨old, hold, hle⟩ := hinvariant.standing row hrow
    obtain ⟨next, hnext, hraised⟩ := Store.step_lifecycleEpoch_le op hold
    have hkey : row.key.1 = row.pubkey := rfl
    rw [hkey, hnext, Option.some.injEq] at hfind
    subst hfind
    exact Nat.le_trans hle hraised
  · intro ticket channelH hcarried
    cases hcarried

/-- In a state that meets the invariant a step obeys the law exactly if it
overwrites no exposed row. -/
theorem step_fenced_iff {step : AdmissionStep} (hinvariant : system.Invariant) :
    step.Fenced system (system.step step) ↔ ¬ step.Overwrites system := by
  cases step with
  | operate op =>
      refine iff_of_true ?_ (fun hoverwrites => hoverwrites)
      cases hop : op.isAdmission with
      | true => exact AdmissionStep.fenced_of_eq (by simp [AdmissionSystem.step, hop])
      | false =>
          simp only [AdmissionSystem.step, hop, Bool.false_eq_true, if_false]
          exact operate_fenced hinvariant hop
  | request pubkey =>
      refine iff_of_true ?_ (fun hoverwrites => hoverwrites)
      apply AdmissionStep.fenced_of_eq
      simp only [AdmissionSystem.step]
      split <;> rfl
  | commit ticket channelH now =>
      by_cases hrequested : ticket ∈ system.requested
      · simp only [AdmissionSystem.step, AdmissionStep.Overwrites, hrequested, if_true, true_and]
        rcases Store.commitConfirmedSessionAdmission_effect system.store ticket channelH now with
          ⟨howns, hstanding⟩ | heffect
        · refine iff_of_true ?_ (fun hoverwrites => hoverwrites.1 howns)
          exact AdmissionStep.fenced_of_owned hinvariant howns hstanding
        · exact AdmissionStep.fenced_iff_of_cleanup rfl (fun _ hreadmissions => hreadmissions.1) heffect
      · simp only [AdmissionSystem.step, if_neg hrequested]
        exact iff_of_true (AdmissionStep.fenced_of_eq rfl)
          (fun hoverwrites => hrequested hoverwrites.1)
  | compensate ticket channelH now =>
      by_cases hrequested : ticket ∈ system.requested
      · simp only [AdmissionSystem.step, AdmissionStep.Overwrites, hrequested, if_true, true_and]
        exact AdmissionStep.fenced_iff_of_cleanup rfl (fun _ hreadmissions => hreadmissions.elim)
          (Store.scheduleConfirmedAdmissionCleanup_effect system.store ticket channelH now)
      · simp only [AdmissionSystem.step, if_neg hrequested]
        exact iff_of_true (AdmissionStep.fenced_of_eq rfl)
          (fun hoverwrites => hrequested hoverwrites.1)

/-! ## The invariant along a run -/

theorem Invariant.empty : AdmissionSystem.empty.Invariant where
  standing := by
    intro row hrow
    cases hrow
  requested := by
    intro ticket hticket
    cases hticket

/-- A store step keeps the invariant when the standing advances to epochs that
the sessions have reached. -/
theorem Invariant.of_advances (hinvariant : system.Invariant)
    (op : StoreOp) {allowed : String × String → Nat → Prop}
    (hadvances : Store.StandingAdvances allowed system.store (system.store.step op))
    (hallowed : ∀ k epoch, allowed k epoch → ∃ session,
      (system.store.step op).sessions.find? k.1 = some session ∧
        epoch ≤ session.lifecycleEpoch) :
    Invariant { system with store := system.store.step op } where
  standing := by
    intro next hnext
    have hadvance := hadvances next.key
    rw [Table.mem_rows_iff.mp hnext] at hadvance
    have hkept : ∀ row, system.store.sessionStanding.find? next.key = some row →
        ∃ session, (system.store.step op).sessions.find? next.pubkey = some session ∧
          row.sessionLifecycleEpoch ≤ session.lifecycleEpoch := by
      intro row hrow
      obtain ⟨session, hfind, hle⟩ := hinvariant.standing row (Table.mem_of_find? hrow)
      have hpubkey : row.pubkey = next.pubkey := congrArg Prod.fst (Table.key_of_find? hrow)
      obtain ⟨later, hlater, hraised⟩ := Store.step_lifecycleEpoch_le op (hpubkey ▸ hfind)
      exact ⟨later, hlater, Nat.le_trans hle hraised⟩
    generalize hbefore : system.store.sessionStanding.find? next.key = before at hadvance
    cases hadvance with
    | kept => exact hkept next hbefore
    | inserted _ hnew => exact hallowed next.key _ hnew
    | written row _ _ hepoch =>
        rcases hepoch with hsame | hnew
        · rw [hsame]
          exact hkept row hbefore
        · exact hallowed next.key _ hnew
  requested := by
    intro ticket hticket
    obtain ⟨session, hfind, hle⟩ := hinvariant.requested ticket hticket
    obtain ⟨later, hlater, hraised⟩ := Store.step_lifecycleEpoch_le op hfind
    exact ⟨later, hlater, Nat.le_trans hle hraised⟩

/-- A completion writes at most the epoch of its ticket. -/
theorem completion_advances {op : StoreOp}
    {ticket : AdmissionTicket} {channelH : String} {now : Nat} {settled : Prop}
    (heffect : (system.store.step op).sessionStanding =
        (system.store.upsertMember ticket.pubkey channelH ticket.lifecycleEpoch
          now).sessionStanding ∨
      system.store.CleanupEffect settled ticket channelH now (system.store.step op)) :
    Store.StandingAdvances
      (fun k epoch => k.1 = ticket.pubkey ∧ epoch = ticket.lifecycleEpoch) system.store
      (system.store.step op) := by
  rcases heffect with hstanding | heffect
  · rw [Store.StandingAdvances, hstanding]
    exact Store.upsertMember_advances now ⟨rfl, rfl⟩
  · cases heffect with
    | cleaned _ hstanding =>
        rw [Store.StandingAdvances, hstanding]
        exact Store.upsertCleanup_advances now ⟨rfl, rfl⟩
    | kept _ hstanding => exact Advances.of_eq hstanding

theorem step_invariant (hinvariant : system.Invariant)
    (step : AdmissionStep) : (system.step step).Invariant := by
  -- what a completion writes is bounded by the session of its ticket
  have hticket : ∀ (ticket : AdmissionTicket) (op : StoreOp), ticket ∈ system.requested →
      ∀ (k : String × String) (epoch : Nat),
        k.1 = ticket.pubkey ∧ epoch = ticket.lifecycleEpoch → ∃ session,
          (system.store.step op).sessions.find? k.1 = some session ∧
            epoch ≤ session.lifecycleEpoch := by
    rintro ticket op hrequested k epoch ⟨hk, rfl⟩
    obtain ⟨session, hfind, hle⟩ := hinvariant.requested ticket hrequested
    obtain ⟨later, hlater, hraised⟩ := Store.step_lifecycleEpoch_le op hfind
    exact ⟨later, hk ▸ hlater, Nat.le_trans hle hraised⟩
  cases step with
  | operate op =>
      simp only [AdmissionSystem.step]
      cases hop : op.isAdmission with
      | true => exact hinvariant
      | false =>
          refine hinvariant.of_advances op (Store.step_standingAdvances system.store hop) ?_
          rintro k epoch ⟨session, hfind, rfl⟩
          exact ⟨session, hfind, Nat.le_refl _⟩
  | request pubkey =>
      simp only [AdmissionSystem.step]
      split
      · exact hinvariant
      · rename_i session hfind
        refine ⟨hinvariant.standing, ?_⟩
        intro ticket hrequested
        rcases List.mem_cons.mp hrequested with rfl | hold
        · exact ⟨session, hfind, Nat.le_refl _⟩
        · exact hinvariant.requested ticket hold
  | commit ticket channelH now =>
      simp only [AdmissionSystem.step]
      split
      · rename_i hrequested
        have heffect := (Store.commitConfirmedSessionAdmission_effect system.store ticket channelH
          now).imp_left (fun howned => howned.2)
        exact hinvariant.of_advances _ (completion_advances heffect) (hticket ticket _ hrequested)
      · exact hinvariant
  | compensate ticket channelH now =>
      simp only [AdmissionSystem.step]
      split
      · rename_i hrequested
        have heffect := Store.scheduleConfirmedAdmissionCleanup_effect system.store ticket
          channelH now
        exact hinvariant.of_advances _ (completion_advances (Or.inr heffect))
          (hticket ticket _ hrequested)
      · exact hinvariant

end AdmissionSystem

/-! ## Whole runs -/

/-- In a run of store operations and admission completions every step obeys the
fence exactly if no completion overwrites an exposed standing row. -/
theorem run_fenced_iff (steps : List AdmissionStep) :
    (∀ before step after, steps = before ++ step :: after →
      step.Fenced (run AdmissionSystem.step .empty before)
        ((run AdmissionSystem.step .empty before).step step)) ↔
      Guarded AdmissionSystem.step (fun system step => ¬ step.Overwrites system) .empty steps := by
  let law := fun (before : AdmissionSystem) (step : AdmissionStep) (after : AdmissionSystem) =>
    step.Fenced before after
  have hstep : ∀ system step, system.Invariant →
      (law system step (system.step step) ↔ ¬ step.Overwrites system) :=
    fun _ _ hinvariant => AdmissionSystem.step_fenced_iff hinvariant
  exact forall_step_iff_guarded AdmissionSystem.Invariant.empty
    (fun _ step hinvariant => AdmissionSystem.step_invariant hinvariant step) hstep

/-- A crash retains the standing of a room for an hour, and a completion that was
under way since before the crash cuts it short. -/
theorem fenced_not_invariant :
    ¬ ∀ (steps before : List AdmissionStep) (step : AdmissionStep) (after : List AdmissionStep),
      steps = before ++ step :: after →
        step.Fenced (run AdmissionSystem.step .empty before)
          ((run AdmissionSystem.step .empty before).step step) := by
  intro hall
  let ticket : AdmissionTicket := ⟨"pk", 1, 1⟩
  let before : List AdmissionStep :=
    [.operate (launchOf "pk" 1), .request "pk", .commit ticket "room" 2,
      .operate (.lifecycle (.markRuntimeStoppedIfGeneration "pk" 1 .crash 10))]
  let retained : SessionStanding := ⟨"pk", "room", .retained, 3610, 2, 2, 10⟩
  have hfenced := hall _ before (.commit ticket "room" 11) [] rfl
  obtain ⟨next, hnext, hdeadline⟩ :=
    hfenced.retains ticket "room" rfl retained (by decide) (by decide) (by decide)
  have hcut : (((run AdmissionSystem.step .empty before).step
      (.commit ticket "room" 11)).store.sessionStanding.find? ("pk", "room")).map
        SessionStanding.retainUntil = some 11 := by decide
  have hkey : retained.key = ("pk", "room") := rfl
  rw [← hkey, hnext, Option.map_some, hdeadline] at hcut
  cases hcut

end Mosaico
