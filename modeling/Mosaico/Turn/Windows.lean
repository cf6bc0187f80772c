import Mosaico.Concurrent.Windows
import Mosaico.State.SessionAnnotations
import Mosaico.Turn.Ambient

/-!
# Interleaved turn requests of one session

The two hooks of a session take the store lock several times, so that requests of
the same session interleave between their steps.  A turn start reads the cursor with
its row, renders what lies behind it and only then moves the cursor; a turn check
moves the cursor first and renders the window that it then owns.

The window of a request is what its context shows of the fabric: everything after
its cursor up to its clock.  A request has a window once its context is answered,
and a turn check already when it owns one.
-/

namespace Mosaico

open Relational Transition Concurrent

/-- How far a request of the session is. -/
inductive TurnPhase where
  | unsent
  | resolvedStart (before : Session)
  | started (before : Session)
  | opened (rec : Session)
  | rendered (rec : Session) (context : TurnContext)
  | resolvedCheck (rec : Session)
  | claimed (rec : Session) (deltaSince : Option Nat) (now : Nat)
  | answered (context : TurnContext)
  | ended

/-- The cursor and the clock of the window. -/
def TurnPhase.window : TurnPhase → Option (Nat × Nat)
  | .claimed _ deltaSince now => some (deltaSince.getD now, now)
  | .answered context => some (context.cursor, context.now)
  | _ => none

def TurnPhase.instants (phase : TurnPhase) : Set Nat :=
  match phase.window with
  | none => ∅
  | some (before, upto) => Set.Ioc before upto

theorem TurnPhase.instants_of_window {phase : TurnPhase} {before upto : Nat}
    (hwindow : phase.window = some (before, upto)) : phase.instants = Set.Ioc before upto := by
  rw [instants, hwindow]

/-- The database and every request that the hooks of the session may send. -/
structure TurnHooks where
  db : Database
  phase : Nat → TurnPhase

/-- A step of one request, or of anybody else. -/
inductive HookStep where
  | resolveStart (id : Nat)
  | startTurn (id now : Nat)
  | readRow (id : Nat)
  | renderStart (id now : Nat)
  | answerStart (id : Nat)
  | resolveCheck (id : Nat)
  | claimWindow (id now : Nat)
  | answerCheck (id : Nat)
  | store (op : StoreOp)
  | fabric (next : Database)

/-! ## What the accesses of the store do to the cursor -/

namespace Database

variable {db after : Database} {rec : Session} {now : Nat} {deltaSince : Option Nat}

theorem assembleTurnStart_window {env : TurnEnv}
    {context : TurnContext} (hok : db.assembleTurnStart env rec now = (.ok context, after)) :
    context.cursor = rec.seenCursor ∧ context.now = now := by
  simp only [assembleTurnStart, Prod.mk.injEq] at hok
  obtain ⟨inputs, -, rfl⟩ := map_eq_ok.mp hok.1
  exact ⟨rfl, rfl⟩

theorem assembleTurnCheck_window {env : TurnEnv} {context : TurnContext}
    (hok : db.assembleTurnCheck env rec deltaSince now = (.ok context, after)) :
    context.cursor = deltaSince.getD now ∧ context.now = now := by
  simp only [assembleTurnCheck, Prod.mk.injEq] at hok
  obtain ⟨inputs, -, rfl⟩ := map_eq_ok.mp hok.1
  exact ⟨rfl, rfl⟩

theorem seenCursorOf_claim (store : Store) (target pubkey : String) (now : Nat) :
    (commit (store.claimPendingForPubkey target now) store).seenCursorOf pubkey =
      store.seenCursorOf pubkey := by
  rw [Store.seenCursorOf, Store.getSession, Store.claim_sessions]
  rfl

theorem assembleTurnStart_cursor {env : TurnEnv} {outcome : Except AncestryError TurnContext}
    (hassemble : db.assembleTurnStart env rec now = (outcome, after)) (pubkey : String) :
    after.store.seenCursorOf pubkey = db.store.seenCursorOf pubkey := by
  have hstore := assembleTurnStart_store db env rec now
  rw [hassemble] at hstore
  rw [hstore, seenCursorOf_claim]

theorem assembleTurnCheck_cursor {env : TurnEnv} {outcome : Except AncestryError TurnContext}
    (hassemble : db.assembleTurnCheck env rec deltaSince now = (outcome, after))
    (pubkey : String) : after.store.seenCursorOf pubkey = db.store.seenCursorOf pubkey := by
  have hstore := assembleTurnCheck_store db env rec deltaSince now
  rw [hassemble] at hstore
  rw [hstore, seenCursorOf_claim]

theorem turnStarted_cursor {store after : Store} {owner pubkey : String}
    {generation cursor : Nat} {opened : Bool}
    (hok : store.applySessionTurnStarted owner generation now = .ok (opened, after))
    (hcursor : store.seenCursorOf pubkey = some cursor) :
    after.seenCursorOf pubkey = some cursor := by
  have hstep : (store.step (.lifecycle (.applySessionTurnStarted owner generation
      now))).seenCursorOf pubkey = some cursor :=
    Store.seenCursorOf_step (by simp) hcursor
  rw [Store.step, Store.lifecycleStep, hok] at hstep
  exact hstep

theorem driveCursorRequest_cursor {session : Session} {pubkey : String}
    {instant : Nat} {working : Bool} (hkey : session.pubkey = pubkey)
    (hok : db.driveCursorRequest session instant working = .ok (deltaSince, after)) :
    (session.seenCursor < instant ∧ db.store.seenCursorOf pubkey = some session.seenCursor ∧
        deltaSince = some session.seenCursor ∧ after.store.seenCursorOf pubkey = some instant) ∨
      (¬ db.store.OwnsCursor session instant working ∧ deltaSince = none ∧
        after.store.seenCursorOf pubkey = db.store.seenCursorOf pubkey) := by
  subst hkey
  rcases (driveCursorRequest_ok hok).2.2 with ⟨howned, -, hdelta, hmoved⟩ | hlost
  · exact Or.inl ⟨howned.2.1, howned.2.2, hdelta, hmoved⟩
  · exact Or.inr hlost

/-- A cursor request of a working session past its cursor binds its instant. -/
theorem driveCursorRequest_bound {session : Session} {instant : Nat}
    (hlater : session.seenCursor < instant)
    (hok : db.driveCursorRequest session instant true = .ok (deltaSince, after)) :
    instant ≤ Rust.i64Max := by
  by_contra hlate
  obtain ⟨error, herror⟩ := driveCursorRequest_error_iff.mpr
    ⟨rfl, hlater, Nat.not_le.mp hlate⟩
  rw [hok] at herror
  cases herror

end Database

namespace TurnHooks

def goto (hooks : TurnHooks) (id : Nat) (db : Database) (phase : TurnPhase) : TurnHooks :=
  { db := db, phase := Function.update hooks.phase id phase }

@[simp] theorem db_goto (hooks : TurnHooks) (id : Nat) (db : Database) (phase : TurnPhase) :
    (hooks.goto id db phase).db = db := rfl

@[simp] theorem phase_goto_self (hooks : TurnHooks) (id : Nat) (db : Database)
    (phase : TurnPhase) : (hooks.goto id db phase).phase id = phase := by
  simp [goto]

theorem phase_goto_of_ne (hooks : TurnHooks) {id other : Nat} (hne : other ≠ id) (db : Database)
    (phase : TurnPhase) : (hooks.goto id db phase).phase other = hooks.phase other := by
  simp [goto, hne]

/-! ## Steps -/

/-- `rpcTurnStart` and `rpcTurnCheck`, one access of the store at a time. -/
def step (env : TurnEnv) (pubkey : String) (hooks : TurnHooks) : HookStep → TurnHooks
  | .resolveStart id =>
      match hooks.phase id with
      | .unsent =>
          match hooks.db.store.getSession pubkey with
          | none => hooks.goto id hooks.db .ended
          | some before => hooks.goto id hooks.db (.resolvedStart before)
      | _ => hooks
  | .startTurn id now =>
      match hooks.phase id with
      | .resolvedStart before =>
          match hooks.db.store.applySessionTurnStarted before.pubkey before.runtimeGeneration
            now with
          | .error _ => hooks.goto id hooks.db .ended
          | .ok (false, store) => hooks.goto id { hooks.db with store := store } .ended
          | .ok (true, store) => hooks.goto id { hooks.db with store := store } (.started before)
      | _ => hooks
  | .readRow id =>
      match hooks.phase id with
      | .started before =>
          hooks.goto id hooks.db
            (.opened ((hooks.db.store.getSession before.pubkey).getD before))
      | _ => hooks
  | .renderStart id now =>
      match hooks.phase id with
      | .opened rec =>
          match hooks.db.assembleTurnStart env rec now with
          | (.error _, claimed) => hooks.goto id claimed .ended
          | (.ok context, claimed) => hooks.goto id claimed (.rendered rec context)
      | _ => hooks
  | .answerStart id =>
      match hooks.phase id with
      | .rendered rec context =>
          match hooks.db.driveCursorRequest rec context.now true with
          | .error _ => hooks.goto id hooks.db .ended
          | .ok (_, next) => hooks.goto id next (.answered context)
      | _ => hooks
  | .resolveCheck id =>
      match hooks.phase id with
      | .unsent =>
          match hooks.db.store.getSession pubkey with
          | none => hooks.goto id hooks.db .ended
          | some rec => hooks.goto id hooks.db (.resolvedCheck rec)
      | _ => hooks
  | .claimWindow id now =>
      match hooks.phase id with
      | .resolvedCheck rec =>
          match hooks.db.driveCursorRequest rec now rec.isWorking with
          | .error _ => hooks.goto id hooks.db .ended
          | .ok (deltaSince, advanced) => hooks.goto id advanced (.claimed rec deltaSince now)
      | _ => hooks
  | .answerCheck id =>
      match hooks.phase id with
      | .claimed rec deltaSince now =>
          match hooks.db.assembleTurnCheck env rec deltaSince now with
          | (.error _, claimed) => hooks.goto id claimed .ended
          | (.ok context, claimed) => hooks.goto id claimed (.answered context)
      | _ => hooks
  | .store op => { hooks with db := { hooks.db with store := hooks.db.store.step op } }
  | .fabric next => { hooks with db := { next with store := hooks.db.store } }

/-- The steps of a request that nobody interrupts. -/
def startAlone (id now : Nat) : List HookStep :=
  [.resolveStart id, .startTurn id now, .readRow id, .renderStart id now, .answerStart id]

def checkAlone (id now : Nat) : List HookStep :=
  [.resolveCheck id, .claimWindow id now, .answerCheck id]

/-- Alone, the steps of a turn start are the turn start. -/
theorem run_startAlone (env : TurnEnv) (pubkey : String) {hooks : TurnHooks} {id : Nat} (now : Nat)
    (hunsent : hooks.phase id = .unsent) :
    (run (step env pubkey) hooks (startAlone id now)).db =
        (hooks.db.rpcTurnStart env pubkey now).2 ∧
      ∀ context, (run (step env pubkey) hooks (startAlone id now)).phase id = .answered context ↔
        (hooks.db.rpcTurnStart env pubkey now).1 = .ok (some context) := by
  simp only [startAlone, run_cons, run_nil, Database.rpcTurnStart]
  cases hsession : hooks.db.store.getSession pubkey with
  | none => simp [step, hunsent, hsession]
  | some before =>
      obtain rfl : before.pubkey = pubkey := Table.key_of_find? hsession
      cases hstart : hooks.db.store.applySessionTurnStarted before.pubkey
          before.runtimeGeneration now with
      | error error => simp [step, hunsent, hsession, hstart]
      | ok result =>
          obtain ⟨opened, store⟩ := result
          cases opened with
          | false => simp [step, hunsent, hsession, hstart]
          | true =>
              cases hassemble : ({ hooks.db with store := store } : Database).assembleTurnStart env
                  ((store.getSession before.pubkey).getD before) now with
              | mk outcome claimed =>
                  cases outcome with
                  | error error => simp [step, hunsent, hsession, hstart, hassemble]
                  | ok context =>
                      have hclock := (Database.assembleTurnStart_window hassemble).2
                      cases hdrive : claimed.driveCursorRequest
                          ((store.getSession before.pubkey).getD before) now true with
                      | error error =>
                          simp [step, hunsent, hsession, hstart, hassemble, hclock, hdrive]
                      | ok answer =>
                          simp [step, hunsent, hsession, hstart, hassemble, hclock, hdrive]

/-- Alone, the steps of a turn check are the turn check of the stored row. -/
theorem run_checkAlone (env : TurnEnv) {pubkey : String} {hooks : TurnHooks} {id : Nat} (now : Nat)
    {rec : Session} (hunsent : hooks.phase id = .unsent)
    (hsession : hooks.db.store.getSession pubkey = some rec) :
    (run (step env pubkey) hooks (checkAlone id now)).db = (hooks.db.rpcTurnCheck env rec now).2 ∧
      ∀ context, (run (step env pubkey) hooks (checkAlone id now)).phase id = .answered context ↔
        (hooks.db.rpcTurnCheck env rec now).1 = .ok context := by
  simp only [checkAlone, run_cons, run_nil, Database.rpcTurnCheck]
  cases hdrive : hooks.db.driveCursorRequest rec now rec.isWorking with
  | error error => simp [step, hunsent, hsession, hdrive]
  | ok result =>
      obtain ⟨deltaSince, advanced⟩ := result
      cases hassemble : advanced.assembleTurnCheck env rec deltaSince now with
      | mk outcome claimed =>
          cases outcome with
          | error error | ok context => simp [step, hunsent, hsession, hdrive, hassemble]

/-! ## The ledger of the session -/

/-- The cursor of the session with the window of every request. -/
def ledger (hooks : TurnHooks) (pubkey : String) : Ledger Nat Nat where
  cursor := (hooks.db.store.seenCursorOf pubkey).getD 0
  delivered := fun id => (hooks.phase id).instants

/-- A turn start that answers with a window finds the cursor of its row still stored,
and a turn check that owns a window can assemble its context. -/
def KeepsWindow (hooks : TurnHooks) (pubkey : String) : HookStep → Prop
  | .answerStart id =>
      match hooks.phase id with
      | .rendered rec context =>
          context.now ≤ rec.seenCursor ∨ Rust.i64Max < context.now ∨
            hooks.db.store.seenCursorOf pubkey = some rec.seenCursor
      | _ => True
  | .answerCheck id =>
      match hooks.phase id with
      | .claimed rec (some _) _ => hooks.db.Resolves rec.channelH
      | _ => True
  | _ => True

end TurnHooks

/-! ## What the phases have recorded -/

/-- What a phase has recorded of the session, after the cursor has gone from `base` to
`cursor`. -/
def TurnPhase.Sound (pubkey : String) (base cursor : Nat) : TurnPhase → Prop
  | .unsent | .answered _ | .ended => True
  | .resolvedStart before | .started before => before.pubkey = pubkey
  | .opened rec | .resolvedCheck rec =>
      rec.pubkey = pubkey ∧ base ≤ rec.seenCursor ∧ rec.seenCursor ≤ cursor
  | .rendered rec context =>
      (rec.pubkey = pubkey ∧ base ≤ rec.seenCursor ∧ rec.seenCursor ≤ cursor) ∧
        context.cursor = rec.seenCursor
  | .claimed _ deltaSince now =>
      ∀ since, deltaSince = some since → base ≤ since ∧ since < now ∧ now ≤ cursor

theorem TurnPhase.Sound.mono {pubkey : String} {base cursor later : Nat} (hle : cursor ≤ later)
    {phase : TurnPhase} (hsound : phase.Sound pubkey base cursor) :
    phase.Sound pubkey base later := by
  cases phase with
  | unsent | answered context | ended => trivial
  | resolvedStart before | started before => exact hsound
  | opened rec | resolvedCheck rec => exact ⟨hsound.1, hsound.2.1, hsound.2.2.trans hle⟩
  | rendered rec context =>
      exact ⟨⟨hsound.1.1, hsound.1.2.1, hsound.1.2.2.trans hle⟩, hsound.2⟩
  | claimed rec deltaSince now =>
      intro since hsince
      obtain ⟨hbase, hlater, hpassed⟩ := hsound since hsince
      exact ⟨hbase, hlater, hpassed.trans hle⟩

namespace TurnHooks

/-- The session is known, with its cursor at `cursor`, and every request has recorded
what it could see. -/
structure Sound (pubkey : String) (base cursor : Nat) (hooks : TurnHooks) : Prop where
  known : hooks.db.store.seenCursorOf pubkey = some cursor
  passed : base ≤ cursor
  phases : ∀ id, (hooks.phase id).Sound pubkey base cursor

/-- The step neither moves the cursor nor a window. -/
structure Quiet (pubkey : String) (base cursor : Nat) (before after : TurnHooks) : Prop where
  sound : after.Sound pubkey base cursor
  same : after.ledger pubkey = before.ledger pubkey

section Spec

variable {env : TurnEnv} {pubkey : String} {base cursor : Nat} {hooks : TurnHooks}

theorem Sound.cursor_ledger (hsound : hooks.Sound pubkey base cursor) :
    (hooks.ledger pubkey).cursor = cursor := by
  rw [ledger, hsound.known]
  rfl

theorem Sound.quiet_self (hsound : hooks.Sound pubkey base cursor) :
    Quiet pubkey base cursor hooks hooks :=
  ⟨hsound, rfl⟩

theorem ledger_goto (hooks : TurnHooks) (id : Nat) (db : Database) (phase : TurnPhase)
    (hknown : db.store.seenCursorOf pubkey = some cursor) :
    (hooks.goto id db phase).ledger pubkey =
      (hooks.ledger pubkey).deliver id phase.instants cursor := by
  rw [ledger, db_goto, hknown, Ledger.deliver]
  congr 1
  funext other
  by_cases hother : other = id
  · subst hother
    simp
  · rw [phase_goto_of_ne _ hother, Function.update_of_ne hother]
    rfl

theorem Sound.goto (hsound : hooks.Sound pubkey base cursor) {id : Nat} {db : Database}
    {phase : TurnPhase} {later : Nat} (hknown : db.store.seenCursorOf pubkey = some later)
    (hle : cursor ≤ later) (hphase : phase.Sound pubkey base later) :
    (hooks.goto id db phase).Sound pubkey base later := by
  refine ⟨hknown, hsound.passed.trans hle, ?_⟩
  intro other
  by_cases hother : other = id
  · subst hother
    rw [phase_goto_self]
    exact hphase
  · rw [phase_goto_of_ne _ hother]
    exact (hsound.phases other).mono hle

/-- A request without a window goes on to a phase without a window. -/
theorem Sound.quiet_goto (hsound : hooks.Sound pubkey base cursor) {id : Nat} {db : Database}
    {phase : TurnPhase} (hknown : db.store.seenCursorOf pubkey = some cursor)
    (hphase : phase.Sound pubkey base cursor)
    (hinstants : phase.instants = (hooks.phase id).instants) :
    Quiet pubkey base cursor hooks (hooks.goto id db phase) := by
  refine ⟨hsound.goto hknown le_rfl hphase, ?_⟩
  rw [ledger_goto hooks id db phase hknown, hinstants, ← hsound.cursor_ledger]
  exact Ledger.deliver_self (hooks.ledger pubkey) id

/-- The stored row has the cursor. -/
theorem Sound.row (hsound : hooks.Sound pubkey base cursor) {row : Session}
    (hrow : hooks.db.store.getSession pubkey = some row) :
    row.pubkey = pubkey ∧ base ≤ row.seenCursor ∧ row.seenCursor ≤ cursor := by
  have hcursor := hsound.known
  rw [Store.seenCursorOf, hrow, Option.map_some, Option.some.injEq] at hcursor
  subst hcursor
  exact ⟨Table.key_of_find? hrow, hsound.passed, le_rfl⟩

/-! ## Steps that leave the windows alone -/

theorem resolveStart_quiet (hsound : hooks.Sound pubkey base cursor) (id : Nat) :
    Quiet pubkey base cursor hooks (hooks.step env pubkey (.resolveStart id)) := by
  cases hphase : hooks.phase id with
  | unsent =>
      simp only [step, hphase]
      cases hsession : hooks.db.store.getSession pubkey with
      | none => exact hsound.quiet_goto hsound.known trivial (by rw [hphase]; rfl)
      | some before =>
          exact hsound.quiet_goto hsound.known (hsound.row hsession).1 (by rw [hphase]; rfl)
  | _ =>
      simp only [step, hphase]
      exact hsound.quiet_self

theorem resolveCheck_quiet (hsound : hooks.Sound pubkey base cursor) (id : Nat) :
    Quiet pubkey base cursor hooks (hooks.step env pubkey (.resolveCheck id)) := by
  cases hphase : hooks.phase id with
  | unsent =>
      simp only [step, hphase]
      cases hsession : hooks.db.store.getSession pubkey with
      | none => exact hsound.quiet_goto hsound.known trivial (by rw [hphase]; rfl)
      | some rec =>
          exact hsound.quiet_goto hsound.known (hsound.row hsession) (by rw [hphase]; rfl)
  | _ =>
      simp only [step, hphase]
      exact hsound.quiet_self

theorem startTurn_quiet (hsound : hooks.Sound pubkey base cursor) (id now : Nat) :
    Quiet pubkey base cursor hooks (hooks.step env pubkey (.startTurn id now)) := by
  cases hphase : hooks.phase id with
  | resolvedStart before =>
      have hbefore := hsound.phases id
      rw [hphase] at hbefore
      simp only [step, hphase]
      cases hstart : hooks.db.store.applySessionTurnStarted before.pubkey
          before.runtimeGeneration now with
      | error error => exact hsound.quiet_goto hsound.known trivial (by rw [hphase]; rfl)
      | ok result =>
          obtain ⟨opened, store⟩ := result
          have hknown := Database.turnStarted_cursor hstart hsound.known
          cases opened with
          | false => exact hsound.quiet_goto hknown trivial (by rw [hphase]; rfl)
          | true => exact hsound.quiet_goto hknown hbefore (by rw [hphase]; rfl)
  | _ =>
      simp only [step, hphase]
      exact hsound.quiet_self

theorem readRow_quiet (hsound : hooks.Sound pubkey base cursor) (id : Nat) :
    Quiet pubkey base cursor hooks (hooks.step env pubkey (.readRow id)) := by
  cases hphase : hooks.phase id with
  | started before =>
      have hbefore := hsound.phases id
      rw [hphase] at hbefore
      obtain rfl : before.pubkey = pubkey := hbefore
      obtain ⟨row, hrow⟩ : ∃ row, hooks.db.store.getSession before.pubkey = some row := by
        have hknown := hsound.known
        rw [Store.seenCursorOf, Option.map_eq_some_iff] at hknown
        obtain ⟨row, hrow, -⟩ := hknown
        exact ⟨row, hrow⟩
      simp only [step, hphase, hrow, Option.getD_some]
      exact hsound.quiet_goto hsound.known (hsound.row hrow) (by rw [hphase]; rfl)
  | _ =>
      simp only [step, hphase]
      exact hsound.quiet_self

theorem renderStart_quiet (hsound : hooks.Sound pubkey base cursor) (id now : Nat) :
    Quiet pubkey base cursor hooks (hooks.step env pubkey (.renderStart id now)) := by
  cases hphase : hooks.phase id with
  | opened rec =>
      have hrec := hsound.phases id
      rw [hphase] at hrec
      simp only [step, hphase]
      cases hassemble : hooks.db.assembleTurnStart env rec now with
      | mk outcome claimed =>
          have hknown := (Database.assembleTurnStart_cursor hassemble pubkey).trans hsound.known
          cases outcome with
          | error error => exact hsound.quiet_goto hknown trivial (by rw [hphase]; rfl)
          | ok context =>
              have hwindow := (Database.assembleTurnStart_window hassemble).1
              exact hsound.quiet_goto hknown ⟨hrec, hwindow⟩ (by rw [hphase]; rfl)
  | _ =>
      simp only [step, hphase]
      exact hsound.quiet_self

theorem store_quiet (hsound : hooks.Sound pubkey base cursor) {op : StoreOp}
    (hop : ∀ expected seenCursor,
      op ≠ .context (.advanceCursorIfCurrent pubkey expected seenCursor)) :
    Quiet pubkey base cursor hooks (hooks.step env pubkey (.store op)) := by
  have hknown := Store.seenCursorOf_step hop hsound.known
  refine ⟨⟨hknown, hsound.passed, hsound.phases⟩, ?_⟩
  simp only [step, ledger, hknown, hsound.known]

theorem fabric_quiet (hsound : hooks.Sound pubkey base cursor) (next : Database) :
    Quiet pubkey base cursor hooks (hooks.step env pubkey (.fabric next)) :=
  ⟨⟨hsound.known, hsound.passed, hsound.phases⟩, rfl⟩

/-! ## Steps that give or take a window -/

/-- What one step does to the ledger, depending on the guard. -/
structure StepSpec (pubkey : String) (base cursor : Nat) (guard : Prop)
    (before after : TurnHooks) : Prop where
  sound : ∃ later, after.Sound pubkey base later
  regular : guard → Ledger.Regular (before.ledger pubkey) (after.ledger pubkey)
  irregular : ¬ guard → Ledger.Irregular base (before.ledger pubkey) (after.ledger pubkey)

theorem Quiet.spec {guard : Prop} {after : TurnHooks} (hquiet : Quiet pubkey base cursor hooks after)
    (hguard : guard) : StepSpec pubkey base cursor guard hooks after :=
  ⟨⟨cursor, hquiet.sound⟩, fun _ => .quiet hquiet.same, fun hmissed => absurd hguard hmissed⟩

/-- Moving the cursor gives the window behind it. -/
theorem Sound.claim_spec (hsound : hooks.Sound pubkey base cursor) {guard : Prop} {id : Nat}
    {db : Database} {phase : TurnPhase} {upto : Nat}
    (hknown : db.store.seenCursorOf pubkey = some upto) (hlater : cursor < upto)
    (hphase : phase.Sound pubkey base upto) (hidle : (hooks.phase id).instants = ∅)
    (hinstants : phase.instants = Set.Ioc cursor upto) (hguard : guard) :
    StepSpec pubkey base cursor guard hooks (hooks.goto id db phase) := by
  refine ⟨⟨upto, hsound.goto hknown hlater.le hphase⟩, fun _ => ?_,
    fun hmissed => absurd hguard hmissed⟩
  refine .claimed id upto hidle (hsound.cursor_ledger.symm ▸ hlater) ?_
  rw [ledger_goto hooks id db phase hknown, hinstants, hsound.cursor_ledger]

theorem claimWindow_spec (hsound : hooks.Sound pubkey base cursor) (id now : Nat) :
    StepSpec pubkey base cursor (hooks.KeepsWindow pubkey (.claimWindow id now)) hooks
      (hooks.step env pubkey (.claimWindow id now)) := by
  cases hphase : hooks.phase id with
  | resolvedCheck rec =>
      have hidle : (hooks.phase id).instants = ∅ := by rw [hphase]; rfl
      obtain ⟨hkey, hbase, -⟩ : rec.pubkey = pubkey ∧ base ≤ rec.seenCursor ∧
          rec.seenCursor ≤ cursor := by
        have hrec := hsound.phases id
        rwa [hphase] at hrec
      simp only [step, hphase]
      cases hdrive : hooks.db.driveCursorRequest rec now rec.isWorking with
      | error error => exact Quiet.spec (hsound.quiet_goto hsound.known trivial hidle.symm) trivial
      | ok result =>
          obtain ⟨deltaSince, advanced⟩ := result
          rcases Database.driveCursorRequest_cursor hkey hdrive with
            ⟨hlater, hstored, rfl, hmoved⟩ | ⟨-, rfl, hsame⟩
          · rw [hsound.known, Option.some.injEq] at hstored
            subst hstored
            refine hsound.claim_spec hmoved hlater ?_ hidle rfl trivial
            rintro since ⟨⟩
            exact ⟨hbase, hlater, le_rfl⟩
          · refine (hsound.quiet_goto (hsame.trans hsound.known) ?_ ?_).spec trivial
            · rintro since ⟨⟩
            · rw [hidle]
              exact Set.Ioc_self now
  | _ =>
      simp only [step, hphase]
      exact hsound.quiet_self.spec trivial

theorem answerStart_spec (hsound : hooks.Sound pubkey base cursor) (id : Nat) :
    StepSpec pubkey base cursor (hooks.KeepsWindow pubkey (.answerStart id)) hooks
      (hooks.step env pubkey (.answerStart id)) := by
  cases hphase : hooks.phase id with
  | rendered rec context =>
      have hidle : (hooks.phase id).instants = ∅ := by rw [hphase]; rfl
      obtain ⟨⟨hkey, hbase, hpassed⟩, hcursor⟩ : (rec.pubkey = pubkey ∧ base ≤ rec.seenCursor ∧
          rec.seenCursor ≤ cursor) ∧ context.cursor = rec.seenCursor := by
        have hrec := hsound.phases id
        rwa [hphase] at hrec
      have hinstants : (TurnPhase.answered context).instants =
          Set.Ioc rec.seenCursor context.now := by
        rw [← hcursor]
        rfl
      simp only [step, hphase, KeepsWindow]
      cases hdrive : hooks.db.driveCursorRequest rec context.now true with
      | error error =>
          have hbound := (Database.driveCursorRequest_error_iff.mp ⟨_, hdrive⟩).2.2
          exact Quiet.spec (hsound.quiet_goto hsound.known trivial hidle.symm)
            (Or.inr (Or.inl hbound))
      | ok result =>
          obtain ⟨deltaSince, next⟩ := result
          rcases Database.driveCursorRequest_cursor hkey hdrive with
            ⟨hlater, hstored, -, hmoved⟩ | ⟨hlost, -, hsame⟩
          · have hcurrent := hstored
            rw [hsound.known, Option.some.injEq] at hcurrent
            subst hcurrent
            exact hsound.claim_spec hmoved hlater trivial hidle hinstants (Or.inr (Or.inr hstored))
          · have hknown := hsame.trans hsound.known
            by_cases hlater : rec.seenCursor < context.now
            -- The cursor has gone: another request delivers the window too.
            · have hbound := Database.driveCursorRequest_bound hlater hdrive
              have hmoved : hooks.db.store.seenCursorOf pubkey ≠ some rec.seenCursor := by
                intro hstored
                exact hlost ⟨rfl, hlater, hkey.symm ▸ hstored⟩
              have hleft : rec.seenCursor < cursor := by
                refine lt_of_le_of_ne hpassed ?_
                rintro heq
                exact hmoved (heq.symm ▸ hsound.known)
              refine ⟨⟨cursor, hsound.goto hknown le_rfl trivial⟩, ?_, fun _ => ?_⟩
              · rintro (hearlier | hoverflow | hstored)
                · omega
                · omega
                · exact absurd hstored hmoved
              · refine .copied id rec.seenCursor context.now hidle hbase hlater
                  (hsound.cursor_ledger.symm ▸ hleft) ?_
                rw [ledger_goto hooks id next _ hknown, hinstants, hsound.cursor_ledger]
            · have hempty : (TurnPhase.answered context).instants = (hooks.phase id).instants := by
                rw [hinstants, hidle, Set.Ioc_eq_empty hlater]
              exact Quiet.spec (hsound.quiet_goto hknown trivial hempty) (Or.inl (not_lt.mp hlater))
  | _ =>
      simp only [step, hphase]
      exact hsound.quiet_self.spec (by simp only [KeepsWindow, hphase])

theorem answerCheck_spec (hsound : hooks.Sound pubkey base cursor) (id : Nat) :
    StepSpec pubkey base cursor (hooks.KeepsWindow pubkey (.answerCheck id)) hooks
      (hooks.step env pubkey (.answerCheck id)) := by
  cases hphase : hooks.phase id with
  | claimed rec deltaSince now =>
      have hclaimed : ∀ since, deltaSince = some since →
          base ≤ since ∧ since < now ∧ now ≤ cursor := by
        have hrec := hsound.phases id
        rwa [hphase] at hrec
      have hinstants : (hooks.phase id).instants = Set.Ioc (deltaSince.getD now) now := by
        rw [hphase]
        rfl
      have hresolves : (∃ context, (hooks.db.assembleTurnCheck env rec deltaSince now).1 =
          .ok context) ↔ hooks.db.Resolves rec.channelH :=
        Database.assembleTurnCheck_ok_iff
      simp only [step, hphase, KeepsWindow]
      cases hassemble : hooks.db.assembleTurnCheck env rec deltaSince now with
      | mk outcome claimed =>
          rw [hassemble] at hresolves
          have hknown := (Database.assembleTurnCheck_cursor hassemble pubkey).trans hsound.known
          cases outcome with
          | ok context =>
              obtain ⟨hcursor, hclock⟩ := Database.assembleTurnCheck_window hassemble
              have hsame : (TurnPhase.answered context).instants = (hooks.phase id).instants := by
                rw [hinstants, ← hcursor, ← hclock]
                rfl
              refine Quiet.spec (hsound.quiet_goto hknown trivial hsame) ?_
              cases deltaSince with
              | none => trivial
              | some since => exact hresolves.mp ⟨context, rfl⟩
          | error error =>
              cases deltaSince with
              | none =>
                  have hempty : TurnPhase.ended.instants = (hooks.phase id).instants := by
                    rw [hinstants]
                    exact (Set.Ioc_self now).symm
                  exact Quiet.spec (hsound.quiet_goto hknown trivial hempty) trivial
              -- The check owned its window, and drops it.
              | some since =>
                  obtain ⟨hbase, hlater, hpassed⟩ := hclaimed since rfl
                  refine ⟨⟨cursor, hsound.goto hknown le_rfl trivial⟩, ?_, fun _ => ?_⟩
                  · intro hguard
                    obtain ⟨context, hok⟩ := hresolves.mpr hguard
                    cases hok
                  · refine .dropped id now ?_ ?_ ?_
                    · show now ∈ (hooks.phase id).instants
                      rw [hinstants]
                      exact ⟨hlater, le_rfl⟩
                    · exact hsound.cursor_ledger.symm ▸ ⟨hbase.trans_lt hlater, hpassed⟩
                    · rw [ledger_goto hooks id claimed _ hknown, hsound.cursor_ledger]
                      rfl
  | _ =>
      simp only [step, hphase]
      exact hsound.quiet_self.spec (by simp only [KeepsWindow, hphase])

instance (db : Database) (channelH : String) : Decidable (db.Resolvable channelH) :=
  decidable_of_iff ((db.rootForChannel channelH).toOption.isSome = true) (by
    rw [← Database.rootForChannel_ok_iff]
    cases db.rootForChannel channelH with
    | error error => simp [Except.toOption]
    | ok root => simp [Except.toOption])

instance (db : Database) (scope : String) : Decidable (db.Resolves scope) :=
  inferInstanceAs (Decidable (_ ∧ _))

instance (hooks : TurnHooks) (pubkey : String) : DecidablePred (hooks.KeepsWindow pubkey)
  | .answerStart id =>
      match hphase : hooks.phase id with
      | .rendered rec context =>
          decidable_of_iff (context.now ≤ rec.seenCursor ∨ Rust.i64Max < context.now ∨
            hooks.db.store.seenCursorOf pubkey = some rec.seenCursor)
            (by simp only [KeepsWindow, hphase])
      | .unsent | .resolvedStart _ | .started _ | .opened _ | .resolvedCheck _ | .claimed _ _ _
      | .answered _ | .ended => isTrue (by simp only [KeepsWindow, hphase])
  | .answerCheck id =>
      match hphase : hooks.phase id with
      | .claimed rec (some _) _ =>
          decidable_of_iff (hooks.db.Resolves rec.channelH) (by simp only [KeepsWindow, hphase])
      | .unsent | .resolvedStart _ | .started _ | .opened _ | .rendered _ _ | .resolvedCheck _
      | .claimed _ none _ | .answered _ | .ended => isTrue (by simp only [KeepsWindow, hphase])
  | .resolveStart _ | .startTurn _ _ | .readRow _ | .renderStart _ _ | .resolveCheck _
  | .claimWindow _ _ | .store _ | .fabric _ => isTrue trivial

/-- A step of a request of the session, or of anybody who leaves its cursor alone. -/
def Admissible (pubkey : String) : HookStep → Prop
  | .store op => ∀ expected seenCursor,
      op ≠ .context (.advanceCursorIfCurrent pubkey expected seenCursor)
  | _ => True

theorem step_spec (hsound : hooks.Sound pubkey base cursor) {input : HookStep}
    (hadmissible : Admissible pubkey input) :
    StepSpec pubkey base cursor (hooks.KeepsWindow pubkey input) hooks
      (hooks.step env pubkey input) := by
  cases input with
  | resolveStart id => exact (resolveStart_quiet hsound id).spec trivial
  | startTurn id now => exact (startTurn_quiet hsound id now).spec trivial
  | readRow id => exact (readRow_quiet hsound id).spec trivial
  | renderStart id now => exact (renderStart_quiet hsound id now).spec trivial
  | answerStart id => exact answerStart_spec hsound id
  | resolveCheck id => exact (resolveCheck_quiet hsound id).spec trivial
  | claimWindow id now => exact claimWindow_spec hsound id now
  | answerCheck id => exact answerCheck_spec hsound id
  | store op => exact (store_quiet hsound hadmissible).spec trivial
  | fabric next => exact (fabric_quiet hsound next).spec trivial

end Spec

/-! ## Runs -/

/-- The windows of the requests are disjoint and cover what the cursor has passed,
all along the run, and the cursor never moves backwards. -/
structure Once (env : TurnEnv) (pubkey : String) (base : Nat) (start : TurnHooks)
    (steps : List HookStep) : Prop where
  windows : ∀ elapsed, elapsed <+: steps →
    ((run (step env pubkey) start elapsed).ledger pubkey).Once base
  forward : ∀ first second, first ++ second <+: steps →
    ((run (step env pubkey) start first).ledger pubkey).cursor ≤
      ((run (step env pubkey) start (first ++ second)).ledger pubkey).cursor

theorem sound_of_unsent {pubkey : String} {base : Nat} {start : TurnHooks}
    (hknown : start.db.store.seenCursorOf pubkey = some base)
    (hunsent : ∀ id, start.phase id = .unsent) : start.Sound pubkey base base := by
  refine ⟨hknown, le_rfl, ?_⟩
  intro id
  rw [hunsent id]
  trivial

theorem cursor_forward (env : TurnEnv) {pubkey : String} {base : Nat} {start : TurnHooks}
    (hsound : ∃ cursor, start.Sound pubkey base cursor) {steps : List HookStep}
    (hadmissible : ∀ input ∈ steps, Admissible pubkey input) :
    (∃ cursor, (run (step env pubkey) start steps).Sound pubkey base cursor) ∧
      (start.ledger pubkey).cursor ≤
        ((run (step env pubkey) start steps).ledger pubkey).cursor := by
  have hguarded : Guarded (step env pubkey) (fun _ input => Admissible pubkey input) start
      steps := by
    rw [guarded_iff_forall_step]
    intro before input after heq
    exact hadmissible input (by simp [heq])
  refine guarded_run_invariant (I := fun hooks : TurnHooks =>
    (∃ cursor, hooks.Sound pubkey base cursor) ∧
      (start.ledger pubkey).cursor ≤ (hooks.ledger pubkey).cursor) ⟨hsound, le_rfl⟩ ?_ hguarded
  rintro hooks input ⟨⟨cursor, hhooks⟩, hle⟩ hinput
  have hspec : StepSpec pubkey base cursor (hooks.KeepsWindow pubkey input) hooks
      (hooks.step env pubkey input) := step_spec hhooks hinput
  refine ⟨hspec.sound, hle.trans ?_⟩
  by_cases hkeeps : hooks.KeepsWindow pubkey input
  · exact (hspec.regular hkeeps).cursor_le
  · exact (hspec.irregular hkeeps).cursor_eq.ge

/-- The requests of a session deliver every window once exactly if no turn start
answers with a window after the cursor of its row has gone, and no turn check fails
that owns a window.  The clocks play no part. -/
theorem windows_once_iff (env : TurnEnv) (pubkey : String) (start : TurnHooks) (base : Nat)
    (steps : List HookStep) (hknown : start.db.store.seenCursorOf pubkey = some base)
    (hunsent : ∀ id, start.phase id = .unsent)
    (hadmissible : ∀ input ∈ steps, Admissible pubkey input) :
    Once env pubkey base start steps ↔
      Guarded (step env pubkey) (fun hooks input => hooks.KeepsWindow pubkey input) start steps := by
  have hsound := sound_of_unsent hknown hunsent
  -- Before the first request no instant has been delivered.
  have hstart : Ledger.Bounded base (start.ledger pubkey) := by
    have hidle : ∀ id, (start.ledger pubkey).delivered id = ∅ := by
      intro id
      show (start.phase id).instants = ∅
      rw [hunsent id]
      rfl
    have hbounded := Ledger.bounded_of_idle hidle
    rwa [hsound.cursor_ledger] at hbounded
  have hwindows : (∀ elapsed, elapsed <+: steps →
      ((run (step env pubkey) start elapsed).ledger pubkey).Once base) ↔
      Guarded (step env pubkey) (fun hooks input => hooks.KeepsWindow pubkey input) start steps :=
    Ledger.once_iff_guarded (J := fun hooks : TurnHooks => ∃ cursor, hooks.Sound pubkey base cursor)
    hadmissible ⟨base, hsound⟩ hstart
    (fun _ _ ⟨_, hhooks⟩ hinput => (step_spec hhooks hinput).sound)
    (fun _ _ ⟨_, hhooks⟩ hinput => (step_spec hhooks hinput).regular)
    (fun _ _ ⟨_, hhooks⟩ hinput => (step_spec hhooks hinput).irregular)
  constructor
  · intro honce
    exact hwindows.mp honce.windows
  · intro hguarded
    refine ⟨hwindows.mpr hguarded, ?_⟩
    intro first second helapsed
    have hall : ∀ input ∈ first ++ second, Admissible pubkey input :=
      fun input hinput => hadmissible input (helapsed.subset hinput)
    have hfirst := (cursor_forward env ⟨base, hsound⟩
      (fun input hinput => hall input (List.mem_append_left second hinput))).1
    rw [run_append]
    exact (cursor_forward env hfirst
      (fun input hinput => hall input (List.mem_append_right first hinput))).2

/-- The requests of a session that has sent none yet. -/
def unsent (db : Database) : TurnHooks where
  db := db
  phase := fun _ => .unsent

theorem windows_once_iff_alone :
    Once Database.rootTagEnv "agent" 0 (unsent Database.launchedDatabase)
      (startAlone 0 7 ++ checkAlone 1 9) :=
  (windows_once_iff Database.rootTagEnv "agent" (unsent Database.launchedDatabase) 0
    (startAlone 0 7 ++ checkAlone 1 9) (by decide) (fun _ => rfl)
    (by simp [startAlone, checkAlone, Admissible])).mpr (by decide +kernel)

/-! ## A window that is rendered twice -/

/-- The clock that a step reads. -/
def clock : HookStep → Option Nat
  | .startTurn _ now | .renderStart _ now | .claimWindow _ now => some now
  | _ => none

/-- A turn check that runs between the rendering of a turn start and its answer. -/
def checkInside : List HookStep :=
  [.resolveStart 0, .startTurn 0 7, .readRow 0, .renderStart 0 7, .resolveCheck 1,
    .claimWindow 1 9, .answerCheck 1, .answerStart 0]

/-- The turn start answers with a window that the turn check has claimed and shown. -/
theorem window_rendered_twice :
    ¬ ∀ (env : TurnEnv) (pubkey : String) (start : TurnHooks) (base : Nat) (steps : List HookStep),
      start.db.store.seenCursorOf pubkey = some base → (∀ id, start.phase id = .unsent) →
      (∀ input ∈ steps, Admissible pubkey input) → (steps.filterMap clock).Pairwise (· ≤ ·) →
        Once env pubkey base start steps := by
  intro hclaim
  have hadmissible : ∀ input ∈ checkInside, Admissible "agent" input := by
    simp [checkInside, Admissible]
  have honce := (hclaim Database.rootTagEnv "agent" (unsent Database.launchedDatabase) 0 checkInside (by decide)
    (fun _ => rfl) hadmissible (by decide)).windows checkInside (List.prefix_refl _)
  have hdisjoint := honce.disjoint 0 1 (by decide)
  have hstart : ((run (step Database.rootTagEnv "agent") (unsent Database.launchedDatabase) checkInside).phase
      0).window = some (0, 7) := by decide +kernel
  have hcheck : ((run (step Database.rootTagEnv "agent") (unsent Database.launchedDatabase) checkInside).phase
      1).window = some (0, 9) := by decide +kernel
  rw [Set.disjoint_left] at hdisjoint
  exact hdisjoint ((TurnPhase.instants_of_window hstart).ge ⟨by decide, by decide⟩ : 5 ∈ _)
    ((TurnPhase.instants_of_window hcheck).ge ⟨by decide, by decide⟩)

end TurnHooks

end Mosaico
