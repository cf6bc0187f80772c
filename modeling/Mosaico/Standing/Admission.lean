import Mosaico.Standing.Writes

/-!
# What the completion of an admission writes

A completion is settled when its lifecycle still owns the session (for the
commit) or when its exact admission is already durable (for the compensation).
A completion that is not settled turns the row of its pubkey and channel into
cleanup work that is due at once, unless a `member` row of another lifecycle
epoch stands there.
-/

namespace Mosaico

open Relational Transition

/-- The session snapshot that an admission carries across its relay round
trip. -/
structure AdmissionTicket where
  pubkey : String
  runtimeGeneration : Nat
  lifecycleEpoch : Nat
  deriving DecidableEq

namespace Store

/-- The values of a completion can be bound. -/
def Binds (ticket : AdmissionTicket) (now : Nat) : Prop :=
  ticket.runtimeGeneration ≤ Rust.i64Max ∧ ticket.lifecycleEpoch ≤ Rust.i64Max ∧
    now ≤ Rust.i64Max

instance (ticket : AdmissionTicket) (now : Nat) : Decidable (Binds ticket now) :=
  inferInstanceAs (Decidable (_ ∧ _))

/-- The exact running lifecycle of the ticket owns the session. -/
def Owns (store : Store) (ticket : AdmissionTicket) : Prop :=
  store.ownsAdmission ticket.pubkey ticket.runtimeGeneration ticket.lifecycleEpoch

/-- The exact admission of the ticket is durable already. -/
def Durable (store : Store) (ticket : AdmissionTicket) (channelH : String) : Prop :=
  store.admissionCommitted ticket.pubkey channelH ticket.runtimeGeneration ticket.lifecycleEpoch

instance (store : Store) (ticket : AdmissionTicket) : Decidable (store.Owns ticket) :=
  inferInstanceAs (Decidable (store.ownsAdmission _ _ _))

/-- A completion that is not settled writes its cleanup. -/
def CleansUp (store : Store) (settled : Prop) (ticket : AdmissionTicket) (channelH : String)
    (now : Nat) : Prop :=
  ¬ settled ∧ Binds ticket now ∧
    ¬ store.hasOtherMember ticket.pubkey channelH ticket.lifecycleEpoch

/-- The cleanup is written, or the standing stays as it is. -/
inductive CleanupEffect (store : Store) (settled : Prop) (ticket : AdmissionTicket)
    (channelH : String) (now : Nat) (after : Store) : Prop
  | cleaned (hcleans : store.CleansUp settled ticket channelH now)
      (hstanding : after.sessionStanding =
        (store.upsertCleanup ticket.pubkey channelH ticket.lifecycleEpoch now).sessionStanding)
  | kept (hkeeps : ¬ store.CleansUp settled ticket channelH now)
      (hstanding : after.sessionStanding = store.sessionStanding)

theorem getSessionStanding_upsertCleanup (store : Store) (pubkey channelH : String)
    (lifecycleEpoch now : Nat) :
    ∃ row, (store.upsertCleanup pubkey channelH lifecycleEpoch now).getSessionStanding pubkey
      channelH = some row := by
  simp only [getSessionStanding, upsertCleanup]
  rw [Table.find?_upsert]
  exact ⟨_, if_pos rfl⟩

theorem scheduleCleanup_effect {store : Store} {settled : Prop} {ticket : AdmissionTicket}
    {channelH : String} {now : Nat} (hsettled : ¬ settled)
    (hgeneration : ticket.runtimeGeneration ≤ Rust.i64Max)
    (hepoch : ticket.lifecycleEpoch ≤ Rust.i64Max) :
    store.CleanupEffect settled ticket channelH now (commit (do
      let (outcome, after) ←
        store.scheduleCleanupInTransaction ticket.pubkey channelH ticket.lifecycleEpoch now
      after.finishAdmissionOutcome ticket.pubkey channelH outcome) store) := by
  unfold scheduleCleanupInTransaction
  by_cases hother : store.hasOtherMember ticket.pubkey channelH ticket.lifecycleEpoch
  · rw [if_pos hother]
    exact .kept (fun hcleans => hcleans.2.2 hother) rfl
  · rw [if_neg hother]
    by_cases hnow : now ≤ Rust.i64Max
    · refine .cleaned ⟨hsettled, ⟨hgeneration, hepoch, hnow⟩, hother⟩ ?_
      obtain ⟨row, hrow⟩ := store.getSessionStanding_upsertCleanup ticket.pubkey channelH
        ticket.lifecycleEpoch now
      have hbind : bindParams [now] = .ok () := by
        rw [bindParams_eq_ok]
        simpa using hnow
      simp only [hbind, bind, Except.bind, pure, Except.pure, finishAdmissionOutcome, hrow,
        commit_ok]
    · refine .kept (fun hcleans => hnow hcleans.2.1.2.2) ?_
      rw [bindParams_eq_error (by simpa using hnow)]
      rfl

/-- The commit rewrites the member row of the lifecycle that owns the session,
and otherwise leaves cleanup behind. -/
theorem commitConfirmedSessionAdmission_effect (store : Store) (ticket : AdmissionTicket)
    (channelH : String) (now : Nat) :
    let after := commit (store.commitConfirmedSessionAdmission ticket.pubkey channelH
      ticket.runtimeGeneration ticket.lifecycleEpoch now) store
    (store.Owns ticket ∧ after.sessionStanding =
        (store.upsertMember ticket.pubkey channelH ticket.lifecycleEpoch now).sessionStanding) ∨
      store.CleanupEffect (store.Owns ticket) ticket channelH now after := by
  unfold commitConfirmedSessionAdmission
  by_cases hbind : ticket.runtimeGeneration ≤ Rust.i64Max ∧ ticket.lifecycleEpoch ≤ Rust.i64Max
  · have hparams : bindParams [ticket.runtimeGeneration, ticket.lifecycleEpoch] = .ok () := by
      rw [bindParams_eq_ok]
      simpa using hbind
    simp only [hparams, bind, Except.bind]
    by_cases howns : store.ownsAdmission ticket.pubkey ticket.runtimeGeneration
        ticket.lifecycleEpoch
    · rw [if_pos howns]
      by_cases hnow : now ≤ Rust.i64Max
      · have hparam : bindParams [now] = .ok () := by
          rw [bindParams_eq_ok]
          simpa using hnow
        refine Or.inl ⟨howns, ?_⟩
        rw [hparam]
        rfl
      · refine Or.inr (.kept (fun hcleans => hcleans.1 howns) ?_)
        rw [bindParams_eq_error (by simpa using hnow)]
        rfl
    · rw [if_neg howns]
      exact Or.inr (scheduleCleanup_effect howns hbind.1 hbind.2)
  · refine Or.inr (.kept (fun hcleans => hbind ⟨hcleans.2.1.1, hcleans.2.1.2.1⟩) ?_)
    rw [bindParams_eq_error (by simpa using hbind)]
    rfl

theorem scheduleConfirmedAdmissionCleanup_effect (store : Store) (ticket : AdmissionTicket)
    (channelH : String) (now : Nat) :
    store.CleanupEffect (store.Durable ticket channelH) ticket channelH now
      (commit (store.scheduleConfirmedAdmissionCleanup ticket.pubkey channelH
        ticket.runtimeGeneration ticket.lifecycleEpoch now) store) := by
  unfold scheduleConfirmedAdmissionCleanup
  by_cases hbind : ticket.runtimeGeneration ≤ Rust.i64Max ∧ ticket.lifecycleEpoch ≤ Rust.i64Max
  · have hparams : bindParams [ticket.runtimeGeneration, ticket.lifecycleEpoch] = .ok () := by
      rw [bindParams_eq_ok]
      simpa using hbind
    simp only [hparams, bind, Except.bind]
    by_cases hdurable : store.admissionCommitted ticket.pubkey channelH
        ticket.runtimeGeneration ticket.lifecycleEpoch
    · rw [if_pos hdurable]
      exact .kept (fun hcleans => hcleans.1 hdurable) rfl
    · rw [if_neg hdurable]
      exact scheduleCleanup_effect hdurable hbind.1 hbind.2
  · refine .kept (fun hcleans => hbind ⟨hcleans.2.1.1, hcleans.2.1.2.1⟩) ?_
    rw [bindParams_eq_error (by simpa using hbind)]
    rfl

end Store

end Mosaico
