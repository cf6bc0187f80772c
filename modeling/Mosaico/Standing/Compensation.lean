import Mathlib.Data.Finset.Erase
import Mathlib.Data.Finset.Insert
import Mosaico.Standing.Fence
import Mosaico.Standing.Rows

/-!
# The compensation of confirmed admissions

A relay admission cannot be rolled back, so every admission that the relay has
confirmed must end in a row that accounts for it.  The standing lane is the
mutex under which admissions and removals run their relay round trips; the
transitions of the sessions interleave with it freely.

A completion that is not answered `Committed` leaves a row that is due, or one
that a newer lifecycle made a member row, except in the cases of
`Store.Forgoes`.  The one that a running daemon reaches is a member row of an
older lifecycle: the cleanup takes every member row of another epoch for a
newer one.
-/

namespace Mosaico

open Relational Transition

/-! ## The due list -/

/-- The row is retained and its deadline has passed. -/
def SessionStanding.Due (now : Nat) (row : SessionStanding) : Prop :=
  row.state = .retained ∧ 0 < row.retainUntil ∧ row.retainUntil ≤ now

instance (now : Nat) : DecidablePred (SessionStanding.Due now) := fun _ =>
  inferInstanceAs (Decidable (_ ∧ _))

namespace Store

/-- The due rows by deadline, pubkey and channel. -/
def listDueRetainedStanding (store : Store) (now : Nat) :
    Except StoreError (List SessionStanding) := do
  bindParams [now]
  let due := store.sessionStanding.select (SessionStanding.Due now)
  return ((due.insertionSort (fun left right => left.channelH ≤ right.channelH)).insertionSort
      (fun left right => left.pubkey ≤ right.pubkey)).insertionSort
    (fun left right => left.retainUntil ≤ right.retainUntil)

/-- The due list holds a row of the key. -/
def Listed (store : Store) (now : Nat) (key : String × String) : Prop :=
  ∃ due, store.listDueRetainedStanding now = .ok due ∧ ∃ row ∈ due, row.key = key

theorem listed_iff {store : Store} {now : Nat} {key : String × String} :
    store.Listed now key ↔
      now ≤ Rust.i64Max ∧ ∃ row, store.sessionStanding.find? key = some row ∧ row.Due now := by
  constructor
  · rintro ⟨due, hdue, row, hrow, hkey⟩
    simp only [listDueRetainedStanding, bind_eq_ok, pure_eq_ok] at hdue
    obtain ⟨_, hbind, rfl⟩ := hdue
    simp only [List.mem_insertionSort, Table.mem_select] at hrow
    refine ⟨by simpa [bindParams_eq_ok] using hbind, row, ?_, hrow.2⟩
    exact hkey ▸ Table.mem_rows_iff.mp hrow.1
  · rintro ⟨hnow, row, hfind, hdue⟩
    have hbind : bindParams [now] = .ok () := by
      rw [bindParams_eq_ok]
      simpa using hnow
    refine ⟨_, by rw [listDueRetainedStanding, hbind]; rfl, row, ?_, Table.key_of_find? hfind⟩
    simp only [List.mem_insertionSort, Table.mem_select]
    exact ⟨Table.mem_of_find? hfind, hdue⟩

instance (store : Store) (now : Nat) (key : String × String) :
    Decidable (store.Listed now key) :=
  decidable_of_iff (now ≤ Rust.i64Max ∧
    ∃ row ∈ store.sessionStanding.find? key, row.Due now) (by
      rw [listed_iff]
      simp only [Option.mem_def])

end Store

/-! ## The lane -/

/-- What the holder of the standing lane is about to do. -/
inductive LaneWork where
  | idle
  /-- The relay has confirmed the admission. -/
  | granted (ticket : AdmissionTicket) (channelH : String)
  /-- The commit of the confirmed admission raised an error. -/
  | failed (ticket : AdmissionTicket) (channelH : String)
  /-- The relay is asked for a removal, planned against the row of that time. -/
  | removing (pubkey channelH : String) (planned : Option SessionStanding)
  /-- The relay has confirmed that removal. -/
  | removed (pubkey channelH : String) (planned : Option SessionStanding)
  deriving DecidableEq

/-- The store, the admissions under way, the memberships that the relay holds,
and the work in the lane. -/
structure StandingLane where
  store : Store
  requested : List AdmissionTicket
  memberships : Finset (String × String)
  work : LaneWork

inductive LaneStep where
  | operate (op : StoreOp)
  | request (pubkey : String)
  /-- The relay confirms an admission. -/
  | confirm (ticket : AdmissionTicket) (channelH : String)
  | commit (now : Nat)
  | compensate (now : Nat)
  /-- A removal begins: of a due row, of a channel that is left, or of every
  recorded channel of a revoked session. -/
  | plan (pubkey channelH : String)
  /-- The relay answers the removal. -/
  | answer (confirmed : Bool)
  /-- `mark_session_standing_absent_if_epoch` with the planned row. -/
  | depart (now : Nat)
  /-- `revoke_route_and_mark_absent`. -/
  | leave (now : Nat)
  /-- The relay drops a membership that nobody here removed. -/
  | expel (pubkey channelH : String)
  deriving DecidableEq

namespace StandingLane

def empty : StandingLane := ⟨Store.empty, [], ∅, .idle⟩

/-- `commit_confirmed_admission` goes on after an answer of the store. -/
def complete (lane : StandingLane) (refused : LaneWork) :
    Except StoreError (ConfirmedAdmissionCommit × Store) → StandingLane
  | .ok (.committed, after) => { lane with store := after, work := .idle }
  | .ok (.superseded, after) => { lane with store := after, work := .idle }
  | .ok (.cleanupDue row, after) =>
      { lane with store := after, work := .removing row.pubkey row.channelH (some row) }
  | .error _ => { lane with work := refused }

def commitAdmission (store : Store) (ticket : AdmissionTicket) (channelH : String) (now : Nat) :
    Except StoreError (ConfirmedAdmissionCommit × Store) :=
  store.commitConfirmedSessionAdmission ticket.pubkey channelH ticket.runtimeGeneration
    ticket.lifecycleEpoch now

def scheduleCleanup (store : Store) (ticket : AdmissionTicket) (channelH : String) (now : Nat) :
    Except StoreError (ConfirmedAdmissionCommit × Store) :=
  store.scheduleConfirmedAdmissionCleanup ticket.pubkey channelH ticket.runtimeGeneration
    ticket.lifecycleEpoch now

/-- The store answered `Committed`. -/
def IsCommitted (outcome : Except StoreError (ConfirmedAdmissionCommit × Store)) : Prop :=
  ∃ after, outcome = .ok (.committed, after)

/-- The confirmed removal is written, fenced by the row it was planned against. -/
def markPlannedAbsent (store : Store) (pubkey channelH : String)
    (planned : Option SessionStanding) (now : Nat) : Store :=
  match planned with
  | none => store
  | some row => commit (store.markSessionStandingAbsentIfEpoch pubkey channelH row.state
      row.standingEpoch row.sessionLifecycleEpoch now) store

def step (lane : StandingLane) : LaneStep → StandingLane
  | .operate op =>
      if op.inLane then lane else { lane with store := lane.store.step op }
  | .request pubkey =>
      match lane.store.getSession pubkey with
      | none => lane
      | some session =>
          { lane with
            requested :=
              ⟨pubkey, session.runtimeGeneration, session.lifecycleEpoch⟩ :: lane.requested }
  | .confirm ticket channelH =>
      if lane.work = .idle ∧ ticket ∈ lane.requested then
        { lane with
          memberships := insert (ticket.pubkey, channelH) lane.memberships
          work := .granted ticket channelH }
      else lane
  | .commit now =>
      match lane.work with
      | .granted ticket channelH =>
          lane.complete (.failed ticket channelH)
            (commitAdmission lane.store ticket channelH now)
      | _ => lane
  | .compensate now =>
      match lane.work with
      | .failed ticket channelH =>
          lane.complete .idle (scheduleCleanup lane.store ticket channelH now)
      | _ => lane
  | .plan pubkey channelH =>
      match lane.work with
      | .idle =>
          { lane with
            work := .removing pubkey channelH (lane.store.getSessionStanding pubkey channelH) }
      | _ => lane
  | .answer confirmed =>
      match lane.work with
      | .removing pubkey channelH planned =>
          if confirmed then
            { lane with
              memberships := lane.memberships.erase (pubkey, channelH)
              work := .removed pubkey channelH planned }
          else { lane with work := .idle }
      | _ => lane
  | .depart now =>
      match lane.work with
      | .removed pubkey channelH planned =>
          { lane with
            store := markPlannedAbsent lane.store pubkey channelH planned now
            work := .idle }
      | _ => lane
  | .leave now =>
      match lane.work with
      | .removed pubkey channelH _ =>
          { lane with
            store := commit (lane.store.revokeRouteAndMarkAbsent pubkey channelH now) lane.store
            work := .idle }
      | _ => lane
  | .expel pubkey channelH =>
      { lane with memberships := lane.memberships.erase (pubkey, channelH) }

end StandingLane

/-! ## The law of a completion -/

namespace Store

/-- The row of the completion is on the due list, or a member row of a later
lifecycle. -/
def Obliged (store : Store) (ticket : AdmissionTicket) (channelH : String) (now : Nat) : Prop :=
  store.Listed now (ticket.pubkey, channelH) ∨
    store.sessionStanding.Any (fun row => row.key = (ticket.pubkey, channelH) ∧
      row.state = .member ∧ ticket.lifecycleEpoch < row.sessionLifecycleEpoch)

instance (store : Store) (ticket : AdmissionTicket) (channelH : String) (now : Nat) :
    Decidable (store.Obliged ticket channelH now) :=
  inferInstanceAs (Decidable (_ ∨ _))

/-- The commit finds its lifecycle running and its values can be bound. -/
def Commits (store : Store) (ticket : AdmissionTicket) (now : Nat) : Prop :=
  store.Owns ticket ∧ Binds ticket now

/-- The compensation finds the exact admission durable. -/
def Confirms (store : Store) (ticket : AdmissionTicket) (channelH : String) : Prop :=
  store.Durable ticket channelH ∧ ticket.runtimeGeneration ≤ Rust.i64Max ∧
    ticket.lifecycleEpoch ≤ Rust.i64Max

instance (store : Store) (ticket : AdmissionTicket) (now : Nat) :
    Decidable (store.Commits ticket now) :=
  inferInstanceAs (Decidable (_ ∧ _))

/-- A completion that is not settled leaves nothing behind: its row is neither
due nor of a newer member, and the cleanup takes an older member row for a newer
one, cannot bind its values, or runs at the epoch of the clock. -/
def Forgoes (store : Store) (settled : Prop) (ticket : AdmissionTicket) (channelH : String)
    (now : Nat) : Prop :=
  ¬ settled ∧ ¬ store.Obliged ticket channelH now ∧
    (store.hasOtherMember ticket.pubkey channelH ticket.lifecycleEpoch ∨ ¬ Binds ticket now ∨
      now = 0)

instance (store : Store) (settled : Prop) [Decidable settled] (ticket : AdmissionTicket)
    (channelH : String) (now : Nat) : Decidable (store.Forgoes settled ticket channelH now) :=
  inferInstanceAs (Decidable (_ ∧ _))

end Store

namespace LaneStep

/-- A confirmed admission that is not answered `Committed` leaves its row obliged
in the same transaction. -/
def Compensates (lane : StandingLane) (step : LaneStep) : Prop :=
  match step, lane.work with
  | .commit now, .granted ticket channelH =>
      StandingLane.IsCommitted (StandingLane.commitAdmission lane.store ticket channelH now) ∨
        (lane.step step).store.Obliged ticket channelH now
  | .compensate now, .failed ticket channelH =>
      StandingLane.IsCommitted (StandingLane.scheduleCleanup lane.store ticket channelH now) ∨
        (lane.step step).store.Obliged ticket channelH now
  | _, _ => True

def Forgoes (lane : StandingLane) (step : LaneStep) : Prop :=
  match step, lane.work with
  | .commit now, .granted ticket channelH =>
      lane.store.Forgoes (lane.store.Commits ticket now) ticket channelH now
  | .compensate now, .failed ticket channelH =>
      lane.store.Forgoes (lane.store.Confirms ticket channelH) ticket channelH now
  | _, _ => False

/-! ## The law of the due list -/

/-- The step takes the row of the key off the due list for a reason: a confirmed
removal whose planned row is still the current one, a confirmed removal of a
channel that is left, or a new admission of the running lifecycle. -/
inductive Releases (lane : StandingLane) (key : String × String) : LaneStep → Prop
  | departed (now : Nat) (planned row : SessionStanding)
      (hwork : lane.work = .removed key.1 key.2 (some planned))
      (hrow : lane.store.sessionStanding.find? key = some row)
      (hstate : row.state = planned.state)
      (hstanding : row.standingEpoch = planned.standingEpoch)
      (hlifecycle : row.sessionLifecycleEpoch = planned.sessionLifecycleEpoch) :
      Releases lane key (.depart now)
  | left (now : Nat) (planned : Option SessionStanding)
      (hwork : lane.work = .removed key.1 key.2 planned) : Releases lane key (.leave now)
  | readmitted (now : Nat) (ticket : AdmissionTicket) (hwork : lane.work = .granted ticket key.2)
      (hpubkey : ticket.pubkey = key.1) (howns : lane.store.Owns ticket) :
      Releases lane key (.commit now)

/-- The deadlines that the step writes have passed at `now`. -/
def Within (now : Nat) : LaneStep → Prop
  | .operate op => ∀ expiry, op.expiry = some expiry → 0 < expiry ∧ expiry ≤ now
  | .commit time => 0 < time ∧ time ≤ now
  | .compensate time => 0 < time ∧ time ≤ now
  | _ => True

/-- What is on the due list stays there until it is released. -/
def Keeps (lane : StandingLane) (step : LaneStep) : Prop :=
  ∀ key now, lane.store.Listed now key → step.Within now →
    (lane.step step).store.Listed now key ∨ step.Releases lane key

end LaneStep

/-! ## The law of the memberships -/

namespace Store

/-- The session of the pubkey has not stopped. -/
def Alive (store : Store) (pubkey : String) : Prop :=
  ∃ session, store.sessions.find? pubkey = some session ∧ session.runtimeState ≠ .stopped

/-- A local row answers for the membership: it is a member row of a session whose
stop will retain it, or a retained row that becomes due. -/
def AnswersFor (store : Store) (key : String × String) : Prop :=
  ∃ row, store.sessionStanding.find? key = some row ∧
    ((row.state = .member ∧ store.Alive row.pubkey) ∨
      (row.state = .retained ∧ 0 < row.retainUntil))

end Store

/-- The admission of the key is confirmed and its completion is still to run. -/
def LaneWork.Awaits (key : String × String) : LaneWork → Prop
  | .granted ticket channelH => (ticket.pubkey, channelH) = key
  | .failed ticket channelH => (ticket.pubkey, channelH) = key
  | _ => False

/-- No membership is left behind. -/
def StandingLane.Covered (lane : StandingLane) : Prop :=
  ∀ key ∈ lane.memberships, lane.work.Awaits key ∨ lane.store.AnswersFor key

/-- The clock of the step is past its epoch and a completion can bind its values. -/
def LaneStep.Punctual (lane : StandingLane) (step : LaneStep) : Prop :=
  match step, lane.work with
  | .operate op, _ => ∀ time, op.deadline = some time ∨ op.expiry = some time → 0 < time
  | .commit now, .granted ticket _ => 0 < now ∧ Store.Binds ticket now
  | .compensate now, .failed ticket _ => 0 < now ∧ Store.Binds ticket now
  | _, _ => True

/-! ## What a completion answers -/

namespace Store

variable {store : Store} {settled : Prop} {ticket : AdmissionTicket} {channelH : String}
  {now : Nat}

/-- The answers of a completion, each with the standing it leaves. -/
inductive Completion (store : Store) (settled : Prop) (ticket : AdmissionTicket)
    (channelH : String) (now : Nat) : Except StoreError (ConfirmedAdmissionCommit × Store) → Prop
  | committed (after : Store) (hsettled : settled) (hsessions : after.sessions = store.sessions)
      (hothers : ∀ k, k ≠ (ticket.pubkey, channelH) →
        after.sessionStanding.find? k = store.sessionStanding.find? k)
      (hmember : ∃ row, after.sessionStanding.find? (ticket.pubkey, channelH) = some row ∧
        row.state = .member) :
      Completion store settled ticket channelH now (.ok (.committed, after))
  | superseded (hunsettled : ¬ settled)
      (hother : store.hasOtherMember ticket.pubkey channelH ticket.lifecycleEpoch) :
      Completion store settled ticket channelH now (.ok (.superseded, store))
  | cleanupDue (row : SessionStanding) (hcleans : store.CleansUp settled ticket channelH now)
      (hrow : (store.upsertCleanup ticket.pubkey channelH ticket.lifecycleEpoch
        now).getSessionStanding ticket.pubkey channelH = some row) :
      Completion store settled ticket channelH now (.ok (.cleanupDue row,
        store.upsertCleanup ticket.pubkey channelH ticket.lifecycleEpoch now))
  | refused (error : StoreError) (hunsettled : ¬ settled) (hunbound : ¬ Binds ticket now) :
      Completion store settled ticket channelH now (.error error)

theorem find?_upsertMember_self (store : Store) (pubkey channelH : String)
    (lifecycleEpoch now : Nat) :
    ∃ row, (store.upsertMember pubkey channelH lifecycleEpoch now).sessionStanding.find?
      (pubkey, channelH) = some row ∧ row.state = .member := by
  simp only [upsertMember]
  rw [Table.find?_upsert]
  cases store.sessionStanding.find? (pubkey, channelH) with
  | none | some old => exact ⟨_, if_pos rfl, rfl⟩

theorem find?_upsertCleanup_self (store : Store) (pubkey channelH : String)
    (lifecycleEpoch now : Nat) :
    ∃ row, (store.upsertCleanup pubkey channelH lifecycleEpoch now).sessionStanding.find?
      (pubkey, channelH) = some row ∧ row.state = .retained ∧ row.retainUntil = now := by
  simp only [upsertCleanup]
  rw [Table.find?_upsert]
  cases store.sessionStanding.find? (pubkey, channelH) with
  | none | some old => exact ⟨_, if_pos rfl, rfl, rfl⟩

theorem scheduleCleanup_completion (hsettled : ¬ settled)
    (hticket : ticket.runtimeGeneration ≤ Rust.i64Max ∧ ticket.lifecycleEpoch ≤ Rust.i64Max) :
    store.Completion settled ticket channelH now (do
      let (outcome, after) ←
        store.scheduleCleanupInTransaction ticket.pubkey channelH ticket.lifecycleEpoch now
      after.finishAdmissionOutcome ticket.pubkey channelH outcome) := by
  unfold scheduleCleanupInTransaction
  by_cases hother : store.hasOtherMember ticket.pubkey channelH ticket.lifecycleEpoch
  · rw [if_pos hother]
    exact .superseded hsettled hother
  · rw [if_neg hother]
    by_cases hnow : now ≤ Rust.i64Max
    · obtain ⟨row, hrow⟩ := store.getSessionStanding_upsertCleanup ticket.pubkey channelH
        ticket.lifecycleEpoch now
      have hbind : bindParams [now] = .ok () := by
        rw [bindParams_eq_ok]
        simpa using hnow
      simp only [hbind, bind, Except.bind, pure, Except.pure, finishAdmissionOutcome, hrow]
      exact .cleanupDue row ⟨hsettled, ⟨hticket.1, hticket.2, hnow⟩, hother⟩ hrow
    · rw [bindParams_eq_error (by simpa using hnow)]
      exact .refused _ hsettled (fun hbinds => hnow hbinds.2.2)

theorem commit_completion :
    store.Completion (store.Commits ticket now) ticket channelH now
      (StandingLane.commitAdmission store ticket channelH now) := by
  unfold StandingLane.commitAdmission commitConfirmedSessionAdmission
  by_cases hticket : ticket.runtimeGeneration ≤ Rust.i64Max ∧ ticket.lifecycleEpoch ≤ Rust.i64Max
  · have hparams : bindParams [ticket.runtimeGeneration, ticket.lifecycleEpoch] = .ok () := by
      rw [bindParams_eq_ok]
      simpa using hticket
    simp only [hparams, bind, Except.bind]
    by_cases howns : store.ownsAdmission ticket.pubkey ticket.runtimeGeneration
        ticket.lifecycleEpoch
    · rw [if_pos howns]
      by_cases hnow : now ≤ Rust.i64Max
      · have hparam : bindParams [now] = .ok () := by
          rw [bindParams_eq_ok]
          simpa using hnow
        rw [hparam]
        exact .committed _ ⟨howns, hticket.1, hticket.2, hnow⟩ rfl
          (fun k hk => find?_upsertMember_of_ne hk) (find?_upsertMember_self _ _ _ _ _)
      · rw [bindParams_eq_error (by simpa using hnow)]
        exact .refused _ (fun hcommits => hnow hcommits.2.2.2) (fun hbinds => hnow hbinds.2.2)
    · rw [if_neg howns]
      exact scheduleCleanup_completion (fun hcommits => howns hcommits.1) hticket
  · rw [bindParams_eq_error (by simpa using hticket)]
    exact .refused _ (fun hcommits => hticket ⟨hcommits.2.1, hcommits.2.2.1⟩)
      (fun hbinds => hticket ⟨hbinds.1, hbinds.2.1⟩)

theorem member_of_durable (hdurable : store.Durable ticket channelH) :
    ∃ row, store.sessionStanding.find? (ticket.pubkey, channelH) = some row ∧
      row.state = .member := by
  obtain ⟨row, hrow, hpubkey, hchannel, hmember, _⟩ := hdurable.2.2
  have hkey : row.key = (ticket.pubkey, channelH) := Prod.ext hpubkey hchannel
  exact ⟨row, hkey ▸ Table.mem_rows_iff.mp hrow, hmember⟩

theorem compensate_completion :
    store.Completion (store.Confirms ticket channelH) ticket channelH now
      (StandingLane.scheduleCleanup store ticket channelH now) := by
  unfold StandingLane.scheduleCleanup scheduleConfirmedAdmissionCleanup
  by_cases hticket : ticket.runtimeGeneration ≤ Rust.i64Max ∧ ticket.lifecycleEpoch ≤ Rust.i64Max
  · have hparams : bindParams [ticket.runtimeGeneration, ticket.lifecycleEpoch] = .ok () := by
      rw [bindParams_eq_ok]
      simpa using hticket
    simp only [hparams, bind, Except.bind]
    by_cases hdurable : store.admissionCommitted ticket.pubkey channelH
        ticket.runtimeGeneration ticket.lifecycleEpoch
    · rw [if_pos hdurable]
      exact .committed store ⟨hdurable, hticket⟩ rfl (fun _ _ => rfl)
        (member_of_durable hdurable)
    · rw [if_neg hdurable]
      exact scheduleCleanup_completion (fun hconfirms => hdurable hconfirms.1) hticket
  · rw [bindParams_eq_error (by simpa using hticket)]
    exact .refused _ (fun hconfirms => hticket hconfirms.2)
      (fun hbinds => hticket ⟨hbinds.1, hbinds.2.1⟩)

end Store

/-! ## When a completion leaves an obligation -/

namespace Store

variable {store : Store} {settled : Prop} {ticket : AdmissionTicket} {channelH : String}
  {now : Nat}

/-- The row is the one that the cleanup looks for. -/
theorem hasOtherMember_of_newer
    (hnewer : store.sessionStanding.Any (fun row => row.key = (ticket.pubkey, channelH) ∧
      row.state = .member ∧ ticket.lifecycleEpoch < row.sessionLifecycleEpoch)) :
    store.hasOtherMember ticket.pubkey channelH ticket.lifecycleEpoch := by
  obtain ⟨row, hrow, hkey, hmember, hlater⟩ := hnewer
  exact ⟨row, hrow, congrArg Prod.fst hkey, congrArg Prod.snd hkey, hmember, by omega⟩

/-- A cleanup at a positive time puts its row on the due list. -/
theorem listed_upsertCleanup (hbinds : Binds ticket now) (hnow : 0 < now) :
    (store.upsertCleanup ticket.pubkey channelH ticket.lifecycleEpoch now).Listed now
      (ticket.pubkey, channelH) := by
  obtain ⟨row, hrow, hretained, huntil⟩ := store.find?_upsertCleanup_self ticket.pubkey channelH
    ticket.lifecycleEpoch now
  exact listed_iff.mpr ⟨hbinds.2.2, row, hrow, hretained, huntil ▸ hnow, Nat.le_of_eq huntil⟩

theorem not_listed_zero {key : String × String} : ¬ store.Listed 0 key := by
  intro hlisted
  obtain ⟨_, row, _, hdue⟩ := listed_iff.mp hlisted
  have hpositive := hdue.2.1
  have hpassed := hdue.2.2
  omega

/-- A completion that leaves the store as it is. -/
theorem obliged_iff_of_same {outcome : Except StoreError (ConfirmedAdmissionCommit × Store)}
    (hanswer : ¬ StandingLane.IsCommitted outcome) (hunsettled : ¬ settled)
    (hreason : store.hasOtherMember ticket.pubkey channelH ticket.lifecycleEpoch ∨
      ¬ Binds ticket now ∨ now = 0) :
    (StandingLane.IsCommitted outcome ∨ store.Obliged ticket channelH now) ↔
      ¬ store.Forgoes settled ticket channelH now := by
  constructor
  · rintro (hcommitted | hobliged) hforgoes
    · exact hanswer hcommitted
    · exact hforgoes.2.1 hobliged
  · intro hnot
    by_contra hneither
    exact hnot ⟨hunsettled, fun hobliged => hneither (Or.inr hobliged), hreason⟩

/-- The cleanup row is obliged exactly if its time is past the epoch. -/
theorem obliged_upsertCleanup_iff (hbinds : Binds ticket now) :
    (store.upsertCleanup ticket.pubkey channelH ticket.lifecycleEpoch now).Obliged ticket
      channelH now ↔ now ≠ 0 := by
  constructor
  · rintro (hlisted | hmember) rfl
    · exact not_listed_zero hlisted
    · obtain ⟨later, hlater, hstate, _⟩ := Table.any_key_iff.mp hmember
      obtain ⟨found, hfound, hretained, _⟩ := store.find?_upsertCleanup_self ticket.pubkey
        channelH ticket.lifecycleEpoch 0
      have heq : some later = some found := hlater.symm.trans hfound
      cases heq
      rw [hstate] at hretained
      cases hretained
  · intro hpositive
    exact Or.inl (listed_upsertCleanup hbinds (Nat.pos_of_ne_zero hpositive))

/-- The completion answers `Committed` or leaves its row obliged, unless it forgoes. -/
theorem Completion.obliged_iff {lane : StandingLane} {refused : LaneWork}
    {outcome : Except StoreError (ConfirmedAdmissionCommit × Store)}
    (hcompletion : lane.store.Completion settled ticket channelH now outcome) :
    (StandingLane.IsCommitted outcome ∨
        (lane.complete refused outcome).store.Obliged ticket channelH now) ↔
      ¬ lane.store.Forgoes settled ticket channelH now := by
  cases hcompletion with
  | committed after hsettled hsessions hothers hmember =>
      exact iff_of_true (Or.inl ⟨after, rfl⟩) (fun hforgoes => hforgoes.1 hsettled)
  | superseded hunsettled hother =>
      exact obliged_iff_of_same (by rintro ⟨_, heq⟩; cases heq) hunsettled (Or.inl hother)
  | refused error hunsettled hunbound =>
      exact obliged_iff_of_same (by rintro ⟨_, heq⟩; cases heq) hunsettled
        (Or.inr (Or.inl hunbound))
  | cleanupDue row hcleans hrow =>
      have hobliged : (lane.store.upsertCleanup ticket.pubkey channelH ticket.lifecycleEpoch
          now).Obliged ticket channelH now ↔ now ≠ 0 := obliged_upsertCleanup_iff hcleans.2.1
      constructor
      · rintro (⟨_, heq⟩ | hafter) ⟨_, _, hother | hunbound | hzero⟩
        · cases heq
        · cases heq
        · cases heq
        · exact hcleans.2.2 hother
        · exact hunbound hcleans.2.1
        · exact hobliged.mp hafter hzero
      · intro hnot
        refine Or.inr (hobliged.mpr ?_)
        rintro rfl
        refine hnot ⟨hcleans.1, ?_, Or.inr (Or.inr rfl)⟩
        rintro (hlisted | hnewer)
        · exact not_listed_zero hlisted
        · exact hcleans.2.2 (hasOtherMember_of_newer hnewer)

end Store

/-- A step obeys the law of the completions exactly if it does not forgo. -/
theorem LaneStep.compensates_iff (lane : StandingLane) (step : LaneStep) :
    step.Compensates lane ↔ ¬ step.Forgoes lane := by
  unfold LaneStep.Compensates LaneStep.Forgoes
  split
  · rename_i now ticket channelH hwork
    have hstep : lane.step (.commit now) = lane.complete (.failed ticket channelH)
        (StandingLane.commitAdmission lane.store ticket channelH now) := by
      simp only [StandingLane.step, hwork]
    rw [hstep]
    exact Store.Completion.obliged_iff Store.commit_completion
  · rename_i now ticket channelH hwork
    have hstep : lane.step (.compensate now) = lane.complete .idle
        (StandingLane.scheduleCleanup lane.store ticket channelH now) := by
      simp only [StandingLane.step, hwork]
    rw [hstep]
    exact Store.Completion.obliged_iff Store.compensate_completion
  · simp

/-! ## What leaves the due list -/

namespace Store

theorem Listed.of_same {before after : Store} {now : Nat} {key : String × String}
    (hlisted : before.Listed now key)
    (hsame : after.sessionStanding.find? key = before.sessionStanding.find? key) :
    after.Listed now key := by
  obtain ⟨hnow, row, hfind, hdue⟩ := listed_iff.mp hlisted
  exact listed_iff.mpr ⟨hnow, row, hsame.trans hfind, hdue⟩

/-- Outside the lane only a revocation touches a row that is due, and it makes
the row due at once. -/
theorem Listed.step {store : Store} {op : StoreOp} {now : Nat} {key : String × String}
    (hlisted : store.Listed now key) (hop : op.inLane = false)
    (hwithin : ∀ expiry, op.expiry = some expiry → 0 < expiry ∧ expiry ≤ now) :
    (store.step op).Listed now key := by
  obtain ⟨hnow, row, hfind, hdue⟩ := listed_iff.mp hlisted
  have hchange := step_rowChange store hop key
  rw [hfind] at hchange
  generalize hafter : (store.step op).sessionStanding.find? key = after at hchange
  cases hchange with
  | kept => exact listed_iff.mpr ⟨hnow, row, hafter, hdue⟩
  | absent _ next hbefore hnext =>
      have habsent := hbefore row rfl
      rw [hdue.1] at habsent
      cases habsent
  | retained _ retainUntil lifecycleEpoch time hmember hdeadline =>
      rw [hdue.1] at hmember
      cases hmember
  | expired _ lifecycleEpoch expiry hexpiry =>
      obtain ⟨hpositive, hpassed⟩ := hwithin expiry hexpiry
      exact listed_iff.mpr ⟨hnow, _, hafter, rfl, hpositive, hpassed⟩

/-- A departure writes its own row only, and only when it finds the planned one. -/
theorem find?_markPlannedAbsent (store : Store) (pubkey channelH : String)
    (planned : Option SessionStanding) (now : Nat) :
    (StandingLane.markPlannedAbsent store pubkey channelH planned now).sessions =
        store.sessions ∧
      ∀ key, (StandingLane.markPlannedAbsent store pubkey channelH planned
          now).sessionStanding.find? key = store.sessionStanding.find? key ∨
        ∃ old row, planned = some old ∧ store.sessionStanding.find? key = some row ∧
          key = (pubkey, channelH) ∧ row.state = old.state ∧
          row.standingEpoch = old.standingEpoch ∧
          row.sessionLifecycleEpoch = old.sessionLifecycleEpoch ∧
          (StandingLane.markPlannedAbsent store pubkey channelH planned
            now).sessionStanding.find? key =
              some (row.rewrite .absent 0 row.sessionLifecycleEpoch now) := by
  cases planned with
  | none => exact ⟨rfl, fun key => Or.inl rfl⟩
  | some old =>
      dsimp only [StandingLane.markPlannedAbsent]
      cases hok : store.markSessionStandingAbsentIfEpoch pubkey channelH old.state
        old.standingEpoch old.sessionLifecycleEpoch now with
      | error error => exact ⟨rfl, fun key => Or.inl rfl⟩
      | ok result =>
          simp only [markSessionStandingAbsentIfEpoch, bind_eq_ok, pure_eq_ok] at hok
          obtain ⟨_, _, rfl⟩ := hok
          refine ⟨rfl, fun key => ?_⟩
          rw [commit_ok]
          dsimp only
          rw [Table.find?_updateWhere]
          cases hfind : store.sessionStanding.find? key with
          | none => exact Or.inl rfl
          | some row =>
              rw [Option.map_some]
              split
              · rename_i howned
                refine Or.inr ⟨old, row, rfl, rfl, ?_, howned.2.1, howned.2.2.1,
                  howned.2.2.2, rfl⟩
                exact (Table.key_of_find? hfind).symm.trans howned.1
              · exact Or.inl rfl

/-- Leaving a channel makes the row of that channel absent and writes no other. -/
theorem find?_revokeRouteAndMarkAbsent (store : Store) (pubkey channelH : String) (now : Nat)
    (key : String × String) :
    (commit (store.revokeRouteAndMarkAbsent pubkey channelH now) store).sessionStanding.find? key =
        store.sessionStanding.find? key ∨
      (key = (pubkey, channelH) ∧ ∃ row, (commit (store.revokeRouteAndMarkAbsent pubkey channelH
        now) store).sessionStanding.find? key = some row ∧ row.state = .absent) := by
  let law := fun after : Store =>
    after.sessionStanding.find? key = store.sessionStanding.find? key ∨
      (key = (pubkey, channelH) ∧ ∃ row,
        after.sessionStanding.find? key = some row ∧ row.state = .absent)
  apply commit_invariant (I := law) (Or.inl rfl)
  intro removed after hok
  simp only [revokeRouteAndMarkAbsent, revokeSessionRoute, bind_eq_ok, pure_eq_ok] at hok
  obtain ⟨_, _, _, rfl, hok⟩ := hok
  split at hok
  · simp only [pure_eq_ok, Prod.mk.injEq] at hok
    obtain ⟨_, rfl⟩ := hok
    exact Or.inl rfl
  · simp only [pure_eq_ok, Prod.mk.injEq] at hok
    obtain ⟨_, rfl⟩ := hok
    dsimp only [law]
    rw [Table.find?_upsert]
    by_cases hkey : key = (pubkey, channelH)
    · refine Or.inr ⟨hkey, ?_⟩
      cases store.sessionStanding.find? key with
      | none | some old => exact ⟨_, if_pos hkey, rfl⟩
    · exact Or.inl (if_neg hkey)

/-- A completion keeps a due row due, unless it is settled and the row is its own. -/
theorem Completion.listed {lane : StandingLane} {settled : Prop} {ticket : AdmissionTicket}
    {channelH : String} {time now : Nat} {key : String × String}
    {outcome : Except StoreError (ConfirmedAdmissionCommit × Store)}
    (hcompletion : lane.store.Completion settled ticket channelH time outcome)
    (refused : LaneWork) (hlisted : lane.store.Listed now key) (hpositive : 0 < time)
    (hpassed : time ≤ now) :
    (lane.complete refused outcome).store.Listed now key ∨
      (settled ∧ key = (ticket.pubkey, channelH)) := by
  cases hcompletion with
  | committed after hsettled hsessions hothers hmember =>
      by_cases hkey : key = (ticket.pubkey, channelH)
      · exact Or.inr ⟨hsettled, hkey⟩
      · exact Or.inl (hlisted.of_same (hothers key hkey))
  | superseded hunsettled hother | refused error hunsettled hunbound => exact Or.inl hlisted
  | cleanupDue row hcleans hrow =>
      refine Or.inl ?_
      by_cases hkey : key = (ticket.pubkey, channelH)
      · obtain ⟨hnow, _⟩ := listed_iff.mp hlisted
        obtain ⟨written, hwritten, hretained, huntil⟩ := lane.store.find?_upsertCleanup_self
          ticket.pubkey channelH ticket.lifecycleEpoch time
        rw [hkey]
        exact listed_iff.mpr ⟨hnow, written, hwritten, hretained, huntil ▸ hpositive,
          huntil ▸ hpassed⟩
      · exact hlisted.of_same (find?_upsertCleanup_of_ne hkey)

end Store

/-- Every step keeps what is due on the list, or releases it for a reason. -/
theorem LaneStep.keeps (lane : StandingLane) (step : LaneStep) : step.Keeps lane := by
  intro key now hlisted hwithin
  cases step with
  | operate op =>
      refine Or.inl ?_
      simp only [StandingLane.step]
      cases hop : op.inLane with
      | true => exact hlisted
      | false => exact hlisted.step hop hwithin
  | request pubkey | confirm ticket channelH | plan pubkey channelH =>
      refine Or.inl ?_
      simp only [StandingLane.step]
      split <;> exact hlisted
  | commit time =>
      simp only [StandingLane.step]
      split
      · rename_i ticket channelH hwork
        have hcompletion : lane.store.Completion (lane.store.Commits ticket time) ticket channelH
          time _ := Store.commit_completion
        rcases hcompletion.listed (.failed ticket channelH) hlisted hwithin.1 hwithin.2 with
          hkept | ⟨hcommits, rfl⟩
        · exact Or.inl hkept
        -- The commit has taken the due row: its session is admitted again.
        · exact Or.inr (.readmitted time ticket hwork rfl hcommits.1)
      · exact Or.inl hlisted
  | compensate time =>
      refine Or.inl ?_
      simp only [StandingLane.step]
      split
      · rename_i ticket channelH hwork
        have hcompletion : lane.store.Completion (lane.store.Confirms ticket channelH) ticket
          channelH time _ := Store.compensate_completion
        rcases hcompletion.listed .idle hlisted hwithin.1 hwithin.2 with
          hkept | ⟨hconfirms, rfl⟩
        · exact hkept
        · -- the row of a durable admission is a member row
          obtain ⟨_, row, hrow, hdue⟩ := Store.listed_iff.mp hlisted
          obtain ⟨found, hfound, hmember⟩ := Store.member_of_durable hconfirms.1
          have heq : some row = some found := hrow.symm.trans hfound
          cases heq
          rw [hdue.1] at hmember
          cases hmember
      · exact hlisted
  | answer confirmed =>
      refine Or.inl ?_
      simp only [StandingLane.step]
      split
      · split <;> exact hlisted
      · exact hlisted
  | depart time =>
      simp only [StandingLane.step]
      split
      · rename_i pubkey channelH planned hwork
        rcases (lane.store.find?_markPlannedAbsent pubkey channelH planned time).2 key with
          hsame | ⟨old, row, rfl, hrow, rfl, hstate, hstanding, hlifecycle, _⟩
        · exact Or.inl (hlisted.of_same hsame)
        · exact Or.inr (.departed time old row hwork hrow hstate hstanding hlifecycle)
      · exact Or.inl hlisted
  | leave time =>
      simp only [StandingLane.step]
      split
      · rename_i pubkey channelH planned hwork
        rcases lane.store.find?_revokeRouteAndMarkAbsent pubkey channelH time key with
          hsame | ⟨rfl, _⟩
        · exact Or.inl (hlisted.of_same hsame)
        · exact Or.inr (.left time planned hwork)
      · exact Or.inl hlisted
  | expel pubkey channelH => exact Or.inl hlisted

/-- A run that releases nothing of the key keeps its row on the due list. -/
theorem run_listed {lane : StandingLane} {steps : List LaneStep} {key : String × String}
    {now : Nat} (hlisted : lane.store.Listed now key)
    (hsteps : Guarded StandingLane.step (fun lane step =>
      step.Within now ∧ ¬ step.Releases lane key) lane steps) :
    (run StandingLane.step lane steps).store.Listed now key := by
  let listed := fun lane : StandingLane => lane.store.Listed now key
  refine guarded_run_invariant (I := listed) hlisted ?_ hsteps
  intro lane step hbefore hguard
  rcases step.keeps lane key now hbefore hguard.1 with hkept | hreleases
  · exact hkept
  · exact absurd hreleases hguard.2

/-! ## Every membership has a row that answers for it -/

namespace Store

/-- The member rows belong to sessions that have not stopped. -/
def MembersAlive (store : Store) : Prop :=
  ∀ key row, store.sessionStanding.find? key = some row → row.state = .member →
    store.Alive row.pubkey

theorem pubkey_of_find? {store : Store} {pubkey channelH : String} {row : SessionStanding}
    (hfind : store.sessionStanding.find? (pubkey, channelH) = some row) : row.pubkey = pubkey :=
  congrArg Prod.fst (Table.key_of_find? hfind)

theorem Alive.of_same {before after : Store} {pubkey : String} (halive : before.Alive pubkey)
    (hsessions : after.sessions = before.sessions) : after.Alive pubkey := by
  unfold Alive at halive ⊢
  rw [hsessions]
  exact halive

theorem AnswersFor.of_same {before after : Store} {key : String × String}
    (hanswers : before.AnswersFor key) (hsessions : after.sessions = before.sessions)
    (hsame : after.sessionStanding.find? key = before.sessionStanding.find? key) :
    after.AnswersFor key := by
  obtain ⟨row, hfind, hrow⟩ := hanswers
  refine ⟨row, hsame.trans hfind, ?_⟩
  rcases hrow with ⟨hmember, halive⟩ | hretained
  · exact Or.inl ⟨hmember, halive.of_same hsessions⟩
  · exact Or.inr hretained

theorem MembersAlive.step {store : Store} {op : StoreOp} (hmembers : store.MembersAlive)
    (hop : op.inLane = false) : (store.step op).MembersAlive := by
  intro key row hafter hmember
  -- the row was a member row before the operation
  have hbefore : store.sessionStanding.find? key = some row := by
    have hchange := step_rowChange store hop key
    generalize hbefore : store.sessionStanding.find? key = before at hchange
    rw [hafter] at hchange
    cases hchange with
    | kept => rfl
    | absent _ _ _ hnext =>
        rw [hmember] at hnext
        cases hnext
    | retained | expired => cases hmember
  obtain ⟨session, hsession, hlive⟩ := hmembers key row hbefore hmember
  obtain ⟨next, hnext, _⟩ := step_session op hsession
  refine ⟨next, hnext, ?_⟩
  intro hstopped
  exact stopped_not_member hsession hlive hnext hstopped hafter rfl hmember

theorem AnswersFor.step {store : Store} {op : StoreOp} {key : String × String}
    (hanswers : store.AnswersFor key) (hmembers : store.MembersAlive) (hop : op.inLane = false)
    (hpositive : ∀ time, op.deadline = some time ∨ op.expiry = some time → 0 < time) :
    (store.step op).AnswersFor key := by
  obtain ⟨row, hfind, hrow⟩ := hanswers
  have hchange := step_rowChange store hop key
  rw [hfind] at hchange
  generalize hafter : (store.step op).sessionStanding.find? key = after at hchange
  cases hchange with
  | kept =>
      refine ⟨row, hafter, ?_⟩
      rcases hrow with ⟨hmember, _⟩ | hretained
      · exact Or.inl ⟨hmember, hmembers.step hop key row hafter hmember⟩
      · exact Or.inr hretained
  | absent _ next hbefore hnext =>
      have habsent := hbefore row rfl
      rcases hrow with ⟨hmember, _⟩ | ⟨hretained, _⟩
      · rw [hmember] at habsent
        cases habsent
      · rw [hretained] at habsent
        cases habsent
  | retained _ retainUntil lifecycleEpoch now hmember hdeadline =>
      exact ⟨_, hafter, Or.inr ⟨rfl, hpositive retainUntil (Or.inl hdeadline)⟩⟩
  | expired _ lifecycleEpoch expiry hexpiry =>
      exact ⟨_, hafter, Or.inr ⟨rfl, hpositive expiry (Or.inr hexpiry)⟩⟩

end Store

namespace StandingLane

/-- The invariant of the lane. -/
structure Sound (lane : StandingLane) : Prop where
  members : lane.store.MembersAlive
  covered : lane.Covered
  removed : ∀ pubkey channelH planned, lane.work = .removed pubkey channelH planned →
    (pubkey, channelH) ∉ lane.memberships

theorem Sound.empty : StandingLane.empty.Sound where
  members := by
    intro key row hfind
    cases hfind
  covered := by
    intro key hkey
    exact absurd hkey (Finset.notMem_empty key)
  removed := by
    intro pubkey channelH planned hwork
    cases hwork

/-- A row that the store keeps answers as before. -/
theorem Sound.answersFor {lane : StandingLane} (hsound : lane.Sound) {key : String × String}
    (hkey : key ∈ lane.memberships) (hawaits : ¬ lane.work.Awaits key) :
    lane.store.AnswersFor key :=
  (hsound.covered key hkey).resolve_left hawaits

/-- A completion whose values bind leaves a row that answers for its membership. -/
theorem Sound.complete {lane : StandingLane} (hsound : lane.Sound) {settled : Prop}
    {ticket : AdmissionTicket} {channelH : String} {now : Nat}
    {outcome : Except StoreError (ConfirmedAdmissionCommit × Store)}
    (hcompletion : lane.store.Completion settled ticket channelH now outcome)
    (refused : LaneWork) (halive : settled → lane.store.Alive ticket.pubkey)
    (hnow : 0 < now) (hbinds : Store.Binds ticket now)
    (hawaits : ∀ key, lane.work.Awaits key → key = (ticket.pubkey, channelH)) :
    (lane.complete refused outcome).Sound := by
  -- The lane waits for one key; the other memberships are answered for.
  have hother : ∀ key ∈ lane.memberships, key ≠ (ticket.pubkey, channelH) →
      lane.store.AnswersFor key :=
    fun key hkey hne => hsound.answersFor hkey (fun hheld => hne (hawaits key hheld))
  cases hcompletion with
  | committed after hsettled hsessions hothers hmember =>
      obtain ⟨row, hrow, hstate⟩ := hmember
      have hrowAlive : after.Alive row.pubkey := by
        rw [Store.pubkey_of_find? hrow]
        exact (halive hsettled).of_same hsessions
      refine ⟨?_, ?_, by rintro _ _ _ hwork; cases hwork⟩
      · intro key found hfound hfoundMember
        by_cases hkey : key = (ticket.pubkey, channelH)
        · have hfoundPubkey : found.pubkey = ticket.pubkey := Store.pubkey_of_find? (hkey ▸ hfound)
          rw [hfoundPubkey]
          exact (halive hsettled).of_same hsessions
        · have hbefore := (hothers key hkey).symm.trans hfound
          exact (hsound.members key found hbefore hfoundMember).of_same hsessions
      · intro key hkey
        refine Or.inr ?_
        by_cases hown : key = (ticket.pubkey, channelH)
        · exact hown ▸ ⟨row, hrow, Or.inl ⟨hstate, hrowAlive⟩⟩
        · exact (hother key hkey hown).of_same hsessions (hothers key hown)
  | superseded hunsettled hmember =>
      obtain ⟨row, hrow, hrowPubkey, hrowChannel, hstate, _⟩ := hmember
      have hrowKey : row.key = (ticket.pubkey, channelH) := Prod.ext hrowPubkey hrowChannel
      have hfind := hrowKey ▸ Table.mem_rows_iff.mp hrow
      refine ⟨hsound.members, ?_, by rintro _ _ _ hwork; cases hwork⟩
      intro key hkey
      refine Or.inr ?_
      by_cases hown : key = (ticket.pubkey, channelH)
      · exact hown ▸ ⟨row, hfind, Or.inl ⟨hstate, hsound.members _ row hfind hstate⟩⟩
      · exact hother key hkey hown
  | cleanupDue row hcleans hrow =>
      obtain ⟨written, hwritten, hretained, huntil⟩ := lane.store.find?_upsertCleanup_self
        ticket.pubkey channelH ticket.lifecycleEpoch now
      refine ⟨?_, ?_, by rintro _ _ _ hwork; cases hwork⟩
      · intro key found hfound hfoundMember
        by_cases hkey : key = (ticket.pubkey, channelH)
        · have heq : some found = some written := (hkey ▸ hfound).symm.trans hwritten
          cases heq
          rw [hfoundMember] at hretained
          cases hretained
        · have hbefore := (Store.find?_upsertCleanup_of_ne hkey).symm.trans hfound
          exact (hsound.members key found hbefore hfoundMember).of_same rfl
      · intro key hkey
        refine Or.inr ?_
        by_cases hown : key = (ticket.pubkey, channelH)
        · exact hown ▸ ⟨written, hwritten, Or.inr ⟨hretained, huntil ▸ hnow⟩⟩
        · exact (hother key hkey hown).of_same rfl (Store.find?_upsertCleanup_of_ne hown)
  | refused error hunsettled hunbound => exact absurd hbinds hunbound

theorem alive_of_owns {store : Store} {ticket : AdmissionTicket} (howns : store.Owns ticket) :
    store.Alive ticket.pubkey := by
  obtain ⟨session, hfind, _, _, hrunning, _⟩ := Table.any_key_iff.mp howns
  refine ⟨session, hfind, ?_⟩
  rw [hrunning]
  decide

/-- A step that writes no row and confirms nothing. -/
theorem Sound.of_idle {lane : StandingLane} (hsound : lane.Sound) {work : LaneWork}
    (hawaits : ∀ key, ¬ lane.work.Awaits key)
    (hwork : ∀ pubkey channelH planned, work ≠ .removed pubkey channelH planned) :
    Sound { lane with work := work } where
  members := hsound.members
  covered := fun key hkey => Or.inr (hsound.answersFor hkey (hawaits key))
  removed := fun pubkey channelH planned heq => absurd heq (hwork pubkey channelH planned)

/-- The end of a removal writes the row of the membership that is gone. -/
theorem Sound.ended {lane : StandingLane} (hsound : lane.Sound) {pubkey channelH : String}
    {planned : Option SessionStanding} (hwork : lane.work = .removed pubkey channelH planned)
    {after : Store} (hsessions : after.sessions = lane.store.sessions)
    (hmembers : ∀ key row, after.sessionStanding.find? key = some row → row.state = .member →
      lane.store.sessionStanding.find? key = some row)
    (hothers : ∀ key, key ≠ (pubkey, channelH) →
      after.sessionStanding.find? key = lane.store.sessionStanding.find? key) :
    Sound { lane with store := after, work := .idle } where
  members := by
    intro key row hfind hmember
    exact (hsound.members key row (hmembers key row hfind hmember) hmember).of_same hsessions
  covered := by
    intro key hkey
    have hne : key ≠ (pubkey, channelH) := by
      rintro rfl
      exact hsound.removed pubkey channelH planned hwork hkey
    have hawaits : ¬ lane.work.Awaits key := by
      rw [hwork]
      exact fun hheld => hheld
    exact Or.inr ((hsound.answersFor hkey hawaits).of_same hsessions (hothers key hne))
  removed := by
    rintro _ _ _ heq
    cases heq

theorem step_sound {lane : StandingLane} {step : LaneStep} (hsound : lane.Sound)
    (hpunctual : step.Punctual lane) : (lane.step step).Sound := by
  cases step with
  | operate op =>
      simp only [StandingLane.step]
      -- The operations of the lane itself do nothing when they come from outside.
      cases hop : op.inLane with
      | true => exact hsound
      | false =>
          refine ⟨hsound.members.step hop, ?_, hsound.removed⟩
          intro key hkey
          rcases hsound.covered key hkey with hawaits | hanswers
          · exact Or.inl hawaits
          · exact Or.inr (hanswers.step hsound.members hop hpunctual)
  | request pubkey =>
      simp only [StandingLane.step]
      split
      · exact hsound
      · exact ⟨hsound.members, hsound.covered, hsound.removed⟩
  | confirm ticket channelH =>
      simp only [StandingLane.step]
      split
      · rename_i hidle
        -- The new member is the one that the lane awaits a completion of.
        refine ⟨hsound.members, ?_, by rintro _ _ _ heq; cases heq⟩
        intro key hkey
        rcases Finset.mem_insert.mp hkey with rfl | hold
        · exact Or.inl rfl
        · refine Or.inr (hsound.answersFor hold ?_)
          rw [hidle.1]
          exact fun hheld => hheld
      · exact hsound
  | commit now =>
      simp only [StandingLane.step]
      split
      · rename_i ticket channelH hwork
        simp only [LaneStep.Punctual, hwork] at hpunctual
        refine hsound.complete Store.commit_completion _ (fun hcommits => alive_of_owns hcommits.1)
          hpunctual.1 hpunctual.2 ?_
        rw [hwork]
        exact fun key hheld => hheld.symm
      · exact hsound
  | compensate now =>
      simp only [StandingLane.step]
      split
      · rename_i ticket channelH hwork
        simp only [LaneStep.Punctual, hwork] at hpunctual
        refine hsound.complete Store.compensate_completion _
          (fun hconfirms => alive_of_owns hconfirms.1.1) hpunctual.1 hpunctual.2 ?_
        rw [hwork]
        exact fun key hheld => hheld.symm
      · exact hsound
  | plan pubkey channelH =>
      simp only [StandingLane.step]
      split
      · rename_i hwork
        exact hsound.of_idle (by rw [hwork]; exact fun _ hheld => hheld)
          (by intro _ _ _ heq; cases heq)
      · exact hsound
  | answer confirmed =>
      simp only [StandingLane.step]
      split
      · rename_i pubkey channelH planned hwork
        have hawaits : ∀ key, ¬ lane.work.Awaits key := by
          rw [hwork]
          exact fun _ hheld => hheld
        split
        · refine ⟨hsound.members, ?_, ?_⟩
          · intro key hkey
            exact Or.inr (hsound.answersFor (Finset.mem_of_mem_erase hkey) (hawaits key))
          · rintro _ _ _ heq hkey
            cases heq
            exact Finset.notMem_erase _ _ hkey
        · exact hsound.of_idle hawaits (by intro _ _ _ heq; cases heq)
      · exact hsound
  | depart now =>
      simp only [StandingLane.step]
      split
      · rename_i pubkey channelH planned hwork
        -- Only the planned row is written, and not as a member.
        obtain ⟨hsessions, hrows⟩ := lane.store.find?_markPlannedAbsent pubkey channelH planned now
        apply hsound.ended hwork hsessions
        · intro key row hfind hmember
          rcases hrows key with hsame | ⟨_, _, _, _, _, _, _, _, hwritten⟩
          · exact hsame.symm.trans hfind
          · rw [hwritten, Option.some.injEq] at hfind
            rw [← hfind] at hmember
            cases hmember
        · intro key hne
          rcases hrows key with hsame | ⟨_, _, _, _, hkey, _⟩
          · exact hsame
          · exact absurd hkey hne
      · exact hsound
  | leave now =>
      simp only [StandingLane.step]
      split
      · rename_i pubkey channelH planned hwork
        have hrows := lane.store.find?_revokeRouteAndMarkAbsent pubkey channelH now
        apply hsound.ended hwork
        · exact (Store.standingStep_same lane.store
            (.revokeRouteAndMarkAbsent pubkey channelH now)).sessions
        · intro key row hfind hmember
          rcases hrows key with hsame | ⟨_, written, hwritten, habsent⟩
          · exact hsame.symm.trans hfind
          · rw [hwritten, Option.some.injEq] at hfind
            rw [hfind, hmember] at habsent
            cases habsent
        · intro key hne
          rcases hrows key with hsame | ⟨hkey, _⟩
          · exact hsame
          · exact absurd hkey hne
      · exact hsound
  | expel pubkey channelH =>
      refine ⟨hsound.members, ?_, ?_⟩
      · intro key hkey
        exact hsound.covered key (Finset.mem_of_mem_erase hkey)
      · intro p c planned hwork hkey
        exact hsound.removed p c planned hwork (Finset.mem_of_mem_erase hkey)

end StandingLane

/-! ## Whole runs -/

/-- In a run of the lane every completion that is not answered `Committed` leaves
an obligation exactly if none forgoes it; a row on the due list stays there at
every later time until a confirmed removal finds the row it was planned against,
the channel is left, or the running lifecycle is admitted again; and while the
clock is past its epoch and the completions bind their values, a local row
answers for every membership whose completion has run. -/
theorem run_compensated_iff (steps : List LaneStep) :
    ((∀ before step after, steps = before ++ step :: after →
        step.Compensates (run StandingLane.step .empty before)) ↔
      Guarded StandingLane.step (fun lane step => ¬ step.Forgoes lane) .empty steps) ∧
    (∀ before after key now, steps = before ++ after →
      (run StandingLane.step .empty before).store.Listed now key →
      Guarded StandingLane.step (fun lane step => step.Within now ∧ ¬ step.Releases lane key)
        (run StandingLane.step .empty before) after →
      (run StandingLane.step .empty steps).store.Listed now key) ∧
    (Guarded StandingLane.step (fun lane step => step.Punctual lane) .empty steps →
      (run StandingLane.step .empty steps).Covered) := by
  refine ⟨?_, ?_, ?_⟩
  -- A completion compensates or forgoes on the spot, so no invariant is needed.
  · let law := fun (lane : StandingLane) (step : LaneStep) (_ : StandingLane) =>
      step.Compensates lane
    have hstep : ∀ lane step, True → (law lane step (lane.step step) ↔ ¬ step.Forgoes lane) :=
      fun lane step _ => step.compensates_iff lane
    exact forall_step_iff_guarded trivial (fun _ _ _ => trivial) hstep
  · rintro before after key now rfl hlisted hguarded
    rw [run_append]
    exact run_listed hlisted hguarded
  · intro hpunctual
    exact (guarded_run_invariant StandingLane.Sound.empty
      (fun _ _ hsound hguard => StandingLane.step_sound hsound hguard) hpunctual).covered

/-- A member row that a cancelled eviction has carried into a later lifecycle: the
admission of that lifecycle is confirmed after the next eviction has begun, and
the cleanup gives way to the older row. -/
def carriedRun : List LaneStep :=
  [.operate (launchOf "pk" 1),
    .operate (.lifecycle (.applySessionPresentationEdge "pk" 1 1 .headless 2)),
    .request "pk", .confirm ⟨"pk", 1, 1⟩ "room", .commit 3,
    .operate (.lifecycle (.reserveDueIdleEviction "pk" 1 1 1 700)),
    .operate (.lifecycle (.cancelIdleEvictionOnPresentationChange "pk" 1 2 2 .headless 701)),
    .request "pk", .confirm ⟨"pk", 1, 3⟩ "room",
    .operate (.lifecycle (.reserveDueIdleEviction "pk" 1 3 2 1400))]

theorem compensated_not_invariant :
    ¬ ∀ (steps before : List LaneStep) (step : LaneStep) (after : List LaneStep),
      steps = before ++ step :: after →
        step.Compensates (run StandingLane.step .empty before) := by
  intro hall
  have hcompensates := hall _ carriedRun (.commit 1401) [] rfl
  have hforgoes : (LaneStep.commit 1401).Forgoes (run StandingLane.step .empty carriedRun) := by
    have hwork : (run StandingLane.step .empty carriedRun).work =
        .granted ⟨"pk", 1, 3⟩ "room" := by decide +kernel
    simp only [LaneStep.Forgoes, hwork]
    decide +kernel
  exact (LaneStep.compensates_iff _ _).mp hcompensates hforgoes

end Mosaico
