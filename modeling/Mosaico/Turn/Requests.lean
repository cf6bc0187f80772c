import Mosaico.Fabric.ChannelPaths
import Mosaico.State.InboxEdges

/-!
# Turn requests

The two hooks that give a session its context.  `turn_start` opens the turn,
assembles the context and then advances the awareness cursor; `turn_check` runs
in the middle of a turn and advances the cursor first.  Both claim the pending
inbox rows of the session before they capture the inputs of the view.

Every request returns the database it leaves behind also when it fails: the claim
and the cursor are committed by statements of their own.  The rewriting of message
bodies is a parameter, and so are the warnings that are functions of the store; the
notice of the output mode, which the hooks remember, goes ahead of them.
-/

namespace Mosaico

open Relational Transition

/-- What the requests read besides the database. -/
structure TurnEnv where
  capture : CaptureEnv
  backendPubkey : String
  rewriteBody : Database → String → String
  startWarnings : Database → Session → Nat → Bool → List String
  checkWarnings : Database → Session → Nat → Bool → List String

/-- The frozen inputs of a view with its window. -/
structure TurnContext where
  inputs : ViewInputs
  cursor : Nat
  now : Nat

/-- Why a turn request fails. -/
inductive TurnError where
  | lifecycle (error : StoreError)
  | lostGeneration (pubkey : String)
  | ancestry (error : AncestryError)
  | cursor (error : StoreError)
  deriving DecidableEq, Repr

/-- The text of an error.  `debug` is Rust's `{:?}` rendering of a string. -/
def TurnError.text (debug : String → String) : TurnError → String
  | .lifecycle error => error.text debug
  | .lostGeneration pubkey => "turn_start lost runtime generation for " ++ pubkey
  | .ancestry error => error.text debug
  | .cursor error => error.text debug

def Session.isWorking (session : Session) : Bool :=
  session.workState = .working

namespace Database

/-! ## The inbox and the cursor -/

/-- Drain the inbox: whoever claims a row first wins. -/
def takeInbox (db : Database) (env : TurnEnv) (targetPubkey : String) (now : Nat) :
    Except StoreError (List InboxRow × Database) := do
  let (rows, store) ← db.store.claimPendingForPubkey targetPubkey now
  let next := { db with store := store }
  return (rows.map (fun row => { row with body := env.rewriteBody next row.body }), next)

/-- A failed claim renders as an empty inbox with a warning. -/
def claimMentions (db : Database) (env : TurnEnv) (targetPubkey : String) (now : Nat) :
    (List InboxRow × Bool) × Database :=
  match db.takeInbox env targetPubkey now with
  | .ok (rows, next) => ((rows, false), next)
  | .error _ => (([], true), db)

/-- Advance the awareness cursor exactly once for the observed row, and return the
cursor the request owns. -/
def driveCursorRequest (db : Database) (session : Session) (instant : Nat) (working : Bool) :
    Except StoreError (Option Nat × Database) :=
  if working = false ∨ instant ≤ session.seenCursor then return (none, db)
  else do
    let (advanced, store) ← db.store.advanceCursorIfCurrent session.pubkey session.seenCursor instant
    return (if advanced then some session.seenCursor else none, { db with store := store })

/-! ## Assembling a context -/

def turnInput (rec : Session) (backendPubkey : String) (mentions : List InboxRow)
    (warnings : List String) : FabricContextInput where
  session := some rec
  scope := rec.channelH
  selfPubkey := rec.pubkey
  backendPubkey := backendPubkey
  forcedMessages := mentions.map inboxSeed
  warnings := warnings

def assembleTurnStart (db : Database) (env : TurnEnv) (rec : Session) (now : Nat) :
    Except AncestryError TurnContext × Database :=
  let ((mentions, readFailed), claimed) := db.claimMentions env rec.pubkey now
  let warnings := env.startWarnings claimed rec now readFailed
  let inputs := claimed.captureInputs env.capture
    (turnInput rec env.backendPubkey mentions warnings)
  (inputs.map (fun inputs => { inputs := inputs, cursor := rec.seenCursor, now := now }), claimed)

/-- A mid-turn context is a delta, also when the request does not own one. -/
def assembleTurnCheck (db : Database) (env : TurnEnv) (rec : Session) (deltaSince : Option Nat)
    (now : Nat) : Except AncestryError TurnContext × Database :=
  let ((mentions, readFailed), claimed) := db.claimMentions env rec.pubkey now
  let warnings := env.checkWarnings claimed rec now readFailed
  let inputs := claimed.captureInputs env.capture (turnInput rec "" mentions warnings)
  (inputs.map (fun inputs => { inputs := inputs, cursor := deltaSince.getD now, now := now }),
    claimed)

/-! ## The requests -/

/-- A turn start of an unknown session answers with no context. -/
def rpcTurnStart (db : Database) (env : TurnEnv) (pubkey : String) (now : Nat) :
    Except TurnError (Option TurnContext) × Database :=
  match db.store.getSession pubkey with
  | none => (.ok none, db)
  | some before =>
      match db.store.applySessionTurnStarted before.pubkey before.runtimeGeneration now with
      | .error error => (.error (.lifecycle error), db)
      | .ok (false, store) => (.error (.lostGeneration pubkey), { db with store := store })
      | .ok (true, store) =>
          let started := { db with store := store }
          let current := (started.store.getSession pubkey).getD before
          match started.assembleTurnStart env current now with
          | (.error error, claimed) => (.error (.ancestry error), claimed)
          | (.ok context, claimed) =>
              match claimed.driveCursorRequest current now true with
              | .error error => (.error (.cursor error), claimed)
              | .ok (_, next) => (.ok (some context), next)

/-- `rec` is the session row the caller resolved. -/
def rpcTurnCheck (db : Database) (env : TurnEnv) (rec : Session) (now : Nat) :
    Except TurnError TurnContext × Database :=
  match db.driveCursorRequest rec now rec.isWorking with
  | .error error => (.error (.cursor error), db)
  | .ok (deltaSince, advanced) =>
      match advanced.assembleTurnCheck env rec deltaSince now with
      | (.error error, claimed) => (.error (.ancestry error), claimed)
      | (.ok context, claimed) => (.ok context, claimed)

end Database

/-! ## What the statements of a request change -/

/-- A working session observed the cursor that is stored, and the instant is later:
its cursor request advances it. -/
def Store.OwnsCursor (store : Store) (session : Session) (instant : Nat) (working : Bool) :
    Prop :=
  working = true ∧ session.seenCursor < instant ∧
    (store.getSession session.pubkey).map Session.seenCursor = some session.seenCursor

namespace Store

/-- A claim whose instant can be bound succeeds. -/
theorem claimPendingForPubkey_error {store : Store} {pubkey : String} {now : Nat}
    {error : StoreError} (herror : store.claimPendingForPubkey pubkey now = .error error) :
    Rust.i64Max < now := by
  by_contra hle
  have hparams : bindParams [now] = .ok () := by
    simp only [bindParams_eq_ok, List.mem_singleton, forall_eq]
    omega
  rw [claimPendingForPubkey, hparams] at herror
  cases herror

theorem claimPendingForPubkey_bound {store after : Store} {pubkey : String} {now : Nat}
    {rows : List InboxRow} (hok : store.claimPendingForPubkey pubkey now = .ok (rows, after)) :
    now ≤ Rust.i64Max := by
  simp only [claimPendingForPubkey, bind_eq_ok, bindParams_eq_ok] at hok
  obtain ⟨_, hparams, _⟩ := hok
  exact hparams now (by simp)

theorem claim_sessions {store : Store} {pubkey : String} {now : Nat} :
    (commit (store.claimPendingForPubkey pubkey now) store).sessions = store.sessions := by
  refine commit_invariant (I := fun after : Store => after.sessions = store.sessions) rfl ?_
  intro rows after hok
  simp only [claimPendingForPubkey, bind_eq_ok, pure_eq_ok, Prod.mk.injEq] at hok
  obtain ⟨_, _, _, rfl⟩ := hok
  rfl

end Store

namespace Database

theorem claimMentions_eq (db : Database) (env : TurnEnv) (pubkey : String) (now : Nat) :
    (db.claimMentions env pubkey now).2 =
      { db with store := commit (db.store.claimPendingForPubkey pubkey now) db.store } := by
  rw [claimMentions, takeInbox]
  cases db.store.claimPendingForPubkey pubkey now with
  | error error | ok result => rfl

/-- The roots of channels do not depend on the session store. -/
theorem resolves_withStore {db : Database} {store : Store} {scope : String} :
    { db with store := store }.Resolves scope ↔ db.Resolves scope := Iff.rfl

theorem map_eq_ok {ε α β : Type} {outcome : Except ε α} {f : α → β} {value : β} :
    outcome.map f = .ok value ↔ ∃ found, outcome = .ok found ∧ f found = value := by
  cases outcome with
  | error error | ok found => simp [Except.map]

theorem exists_map_eq_ok {ε α β : Type} {outcome : Except ε α} {f : α → β} :
    (∃ value, outcome.map f = .ok value) ↔ ∃ value, outcome = .ok value := by
  simp [map_eq_ok]

theorem assembleTurnStart_ok_iff {db : Database} {env : TurnEnv} {rec : Session} {now : Nat} :
    (∃ context, (db.assembleTurnStart env rec now).1 = .ok context) ↔
      db.Resolves rec.channelH := by
  simp only [assembleTurnStart]
  rw [exists_map_eq_ok, captureInputs_ok_iff, claimMentions_eq]
  exact resolves_withStore

theorem assembleTurnCheck_ok_iff {db : Database} {env : TurnEnv} {rec : Session}
    {deltaSince : Option Nat} {now : Nat} :
    (∃ context, (db.assembleTurnCheck env rec deltaSince now).1 = .ok context) ↔
      db.Resolves rec.channelH := by
  simp only [assembleTurnCheck]
  rw [exists_map_eq_ok, captureInputs_ok_iff, claimMentions_eq]
  exact resolves_withStore

theorem assembleTurnStart_store (db : Database) (env : TurnEnv) (rec : Session) (now : Nat) :
    (db.assembleTurnStart env rec now).2.store =
      commit (db.store.claimPendingForPubkey rec.pubkey now) db.store := by
  simp only [assembleTurnStart]
  rw [claimMentions_eq]

theorem assembleTurnCheck_store (db : Database) (env : TurnEnv) (rec : Session)
    (deltaSince : Option Nat) (now : Nat) :
    (db.assembleTurnCheck env rec deltaSince now).2.store =
      commit (db.store.claimPendingForPubkey rec.pubkey now) db.store := by
  simp only [assembleTurnCheck]
  rw [claimMentions_eq]

/-- A cursor request of a session that owns the cursor moves it; any other leaves
it alone.  Nothing else changes. -/
theorem driveCursorRequest_ok {db after : Database} {session : Session} {instant : Nat}
    {working : Bool} {deltaSince : Option Nat}
    (hok : db.driveCursorRequest session instant working = .ok (deltaSince, after)) :
    after = { db with store := after.store } ∧ after.store.inbox = db.store.inbox ∧
      ((db.store.OwnsCursor session instant working ∧ instant ≤ Rust.i64Max ∧
        deltaSince = some session.seenCursor ∧
        (after.store.getSession session.pubkey).map Session.seenCursor = some instant) ∨
      (¬ db.store.OwnsCursor session instant working ∧ deltaSince = none ∧
        (after.store.getSession session.pubkey).map Session.seenCursor =
          (db.store.getSession session.pubkey).map Session.seenCursor)) := by
  rw [driveCursorRequest] at hok
  split at hok
  · rename_i hidle
    cases hok
    refine ⟨rfl, rfl, Or.inr ⟨?_, rfl, rfl⟩⟩
    rintro ⟨hworking, hlater, _⟩
    rcases hidle with hidle | hearlier
    · rw [hidle] at hworking
      cases hworking
    · omega
  · rename_i hbusy
    rw [not_or, Bool.not_eq_false, Nat.not_le] at hbusy
    simp only [bind_eq_ok, pure_eq_ok, Prod.mk.injEq, Store.advanceCursorIfCurrent,
      Store.updateSessions] at hok
    obtain ⟨_, ⟨_, hbound, rfl⟩, rfl, rfl⟩ := hok
    have hinstant : instant ≤ Rust.i64Max := bindParams_eq_ok.mp hbound instant (by simp)
    refine ⟨rfl, rfl, ?_⟩
    have hone : db.store.sessions.matching (fun row => row.pubkey = session.pubkey ∧
        row.seenCursor = session.seenCursor) = 1 ↔
        ∃ row, db.store.sessions.find? session.pubkey = some row ∧
          row.seenCursor = session.seenCursor := Table.matching_key_eq_one_iff
    simp only [Store.OwnsCursor, Store.getSession, hbusy, hinstant, true_and, hone,
      decide_eq_true_eq]
    rw [Table.find?_updateWhere]
    cases hfind : db.store.sessions.find? session.pubkey with
    | none => simp
    | some row =>
        have hkey : row.pubkey = session.pubkey := Table.key_of_find? hfind
        by_cases hcurrent : row.seenCursor = session.seenCursor
        · simp [hkey, hcurrent]
        · simp [hkey, hcurrent]

/-- The cursor of a working session is refused exactly when a later instant cannot be
bound. -/
theorem driveCursorRequest_error_iff {db : Database} {session : Session} {instant : Nat}
    {working : Bool} :
    (∃ error, db.driveCursorRequest session instant working = .error error) ↔
      working = true ∧ session.seenCursor < instant ∧ Rust.i64Max < instant := by
  rw [driveCursorRequest]
  split
  · rename_i hidle
    constructor
    · rintro ⟨_, herror⟩
      cases herror
    · rintro ⟨rfl, hlater, _⟩
      rcases hidle with hidle | hearlier
      · cases hidle
      · omega
  · rename_i hbusy
    rw [not_or, Bool.not_eq_false, Nat.not_le] at hbusy
    have hbinds : bindParams [session.seenCursor, instant] = .ok () ↔ ¬ Rust.i64Max < instant := by
      simp only [bindParams_eq_ok, List.mem_cons, List.not_mem_nil, or_false, forall_eq_or_imp,
        forall_eq]
      omega
    rw [Store.advanceCursorIfCurrent]
    cases hparams : bindParams [session.seenCursor, instant] with
    | error error =>
        have hbound : Rust.i64Max < instant := by
          by_contra hle
          rw [hbinds.mpr hle] at hparams
          cases hparams
        exact iff_of_true ⟨error, rfl⟩ ⟨hbusy.1, hbusy.2, hbound⟩
    | ok value =>
        refine iff_of_false ?_ (fun hrefused => hbinds.mp hparams hrefused.2.2)
        rintro ⟨_, herror⟩
        cases herror

/-- A request that does not own the cursor changes nothing. -/
theorem driveCursorRequest_unowned {db after : Database} {session : Session} {instant : Nat}
    {working : Bool} {deltaSince : Option Nat}
    (hunowned : ¬ db.store.OwnsCursor session instant working)
    (hok : db.driveCursorRequest session instant working = .ok (deltaSince, after)) :
    after = db := by
  rw [driveCursorRequest] at hok
  split at hok
  · cases hok
    rfl
  · rename_i hbusy
    rw [not_or, Bool.not_eq_false, Nat.not_le] at hbusy
    simp only [bind_eq_ok, pure_eq_ok, Prod.mk.injEq, Store.advanceCursorIfCurrent,
      Store.updateSessions] at hok
    obtain ⟨_, ⟨_, _, rfl⟩, _, rfl⟩ := hok
    rw [Table.updateWhere_of_fixed]
    intro row hrow hcurrent
    have hfind : db.store.getSession session.pubkey = some row := by
      rw [← hcurrent.1]
      exact Table.mem_rows_iff.mp hrow
    exact absurd ⟨hbusy.1, hbusy.2, by rw [hfind, Option.map_some, hcurrent.2]⟩ hunowned

/-- A turn check that has its cursor answers as its context does. -/
theorem rpcTurnCheck_of_drive {db advanced : Database} {env : TurnEnv} {rec : Session} {now : Nat}
    {deltaSince : Option Nat}
    (hdrive : db.driveCursorRequest rec now rec.isWorking = .ok (deltaSince, advanced)) :
    (db.rpcTurnCheck env rec now).2 = (advanced.assembleTurnCheck env rec deltaSince now).2 ∧
      ((∃ context, (db.rpcTurnCheck env rec now).1 = .ok context) ↔
        ∃ context, (advanced.assembleTurnCheck env rec deltaSince now).1 = .ok context) := by
  rw [rpcTurnCheck, hdrive]
  dsimp only
  obtain ⟨outcome, claimed⟩ := advanced.assembleTurnCheck env rec deltaSince now
  cases outcome with
  | error error | ok context => simp

end Database

end Mosaico
