import Mosaico.Runtime.Endpoints
import Mosaico.Turn.Requests

/-!
# Failed turn requests

A request that fails has by then pushed its notice, claimed the inbox and, in the
middle of a turn, advanced the cursor.  The notice says that the session runs headless;
the hooks remember the mode that they have told, so it is pushed once for each change.
-/

namespace Mosaico

open Relational Transition

/-! ## The output mode -/

/-- What the hooks remember of a session.  The other fields of the record are written
from a captured view only. -/
structure HookContextState where
  lastHeadlessMode : Option Bool := none

/-- Remember the mode, and say whether it is to be announced. -/
def HookContextState.recordHeadlessMode (state : HookContextState)
    (headless announceInitial : Bool) : Bool × HookContextState :=
  let changed := match state.lastHeadlessMode with
    | some last => decide (last ≠ headless)
    | none => announceInitial
  (changed, { state with lastHeadlessMode := some headless })

/-- `outputIsVisible` asks the transport whether the output of an endpoint is presented. -/
structure HookEnv extends TurnEnv where
  outputIsVisible : TransportKind → String → Bool

/-- A session whose locator lookup fails is assumed headed. -/
def Store.sessionIsHeadless (store : Store) (outputIsVisible : TransportKind → String → Bool)
    (session : Session) : Bool :=
  match store.hostedEndpointFor session with
  | .error _ | .ok .unhosted => false
  | .ok (.unavailable _) => true
  | .ok (.resolved kind endpointId) => !outputIsVisible kind endpointId

def modeNotice : String :=
  "Headless mode is on. Your ordinary text output is not currently visible. " ++
    "Publish anything the human or another agent should receive to the relevant channel."

/-- The warnings of a view, with notices ahead of them. -/
def TurnEnv.noticing (env : TurnEnv) (notices : List String) : TurnEnv :=
  { env with
    startWarnings := fun db rec now readFailed =>
      notices ++ env.startWarnings db rec now readFailed
    checkWarnings := fun db rec now readFailed =>
      notices ++ env.checkWarnings db rec now readFailed }

/-- The database and the memory of the hooks. -/
structure HookState where
  db : Database
  hookContexts : String → HookContextState

inductive TurnRequest where
  | start (rec : Session) (now : Nat)
  | check (rec : Session) (now : Nat)

def TurnRequest.session : TurnRequest → Session
  | .start rec _ | .check rec _ => rec

namespace HookState

def pushModeNotice (state : HookState) (env : HookEnv) (rec : Session) (announceInitial : Bool) :
    List String × HookState :=
  let headless := state.db.store.sessionIsHeadless env.outputIsVisible rec
  let (changed, told) :=
    (state.hookContexts rec.pubkey).recordHeadlessMode headless announceInitial
  (if changed && headless then [modeNotice] else [],
    { state with hookContexts := Function.update state.hookContexts rec.pubkey told })

def assembleTurnStart (state : HookState) (env : HookEnv) (rec : Session) (now : Nat) :
    Except AncestryError TurnContext × HookState :=
  let (notices, told) := state.pushModeNotice env rec true
  let (context, db) := told.db.assembleTurnStart (env.noticing notices) rec now
  (context, { told with db := db })

def assembleTurnCheck (state : HookState) (env : HookEnv) (rec : Session)
    (deltaSince : Option Nat) (now : Nat) : Except AncestryError TurnContext × HookState :=
  let (notices, told) := state.pushModeNotice env rec false
  let (context, db) := told.db.assembleTurnCheck (env.noticing notices) rec deltaSince now
  (context, { told with db := db })

/-- A check that cannot drive its cursor assembles nothing. -/
def rpcTurnCheck (state : HookState) (env : HookEnv) (rec : Session) (now : Nat) :
    Except TurnError TurnContext × HookState :=
  match state.db.driveCursorRequest rec now rec.isWorking with
  | .error error => (.error (.cursor error), state)
  | .ok (deltaSince, advanced) =>
      let (context, after) := { state with db := advanced }.assembleTurnCheck env rec deltaSince now
      (context.mapError .ancestry, after)

def serve (state : HookState) (env : HookEnv) : TurnRequest → Except TurnError TurnContext × HookState
  | .start rec now =>
      let (context, after) := state.assembleTurnStart env rec now
      (context.mapError .ancestry, after)
  | .check rec now => state.rpcTurnCheck env rec now

end HookState

/-! ## What a request shows -/

/-- What a request has gathered when it captures its inputs.  `window` is the cursor
behind which it owns the channel activity: a turn check that advances no cursor owns none,
nor does a row that another request has overtaken. -/
structure TurnOffer where
  mentions : List InboxRow
  notices : List String
  window : Option Nat

/-- Every pending inbox row is still pending and the cursor of the session has its
value. -/
def Store.ConsumesNothing (before after : Store) (pubkey : String) : Prop :=
  (∀ k row, before.inbox.find? k = some row → row.state = .pending →
    ∃ kept, after.inbox.find? k = some kept ∧ kept.state = .pending) ∧
  (after.getSession pubkey).map Session.seenCursor =
    (before.getSession pubkey).map Session.seenCursor

def Store.HasPending (store : Store) (pubkey : String) : Prop :=
  store.inbox.Any (fun row => row.targetPubkey = pubkey ∧ row.state = .pending)

instance (store : Store) (pubkey : String) : Decidable (store.HasPending pubkey) :=
  inferInstanceAs (Decidable (Table.Any _ _))

/-- A later request gathers the mentions and the notices too, and the window that it
owns begins no later. -/
structure TurnOffer.Covers (later earlier : TurnOffer) : Prop where
  mentions : ∀ row ∈ earlier.mentions, row.eventId ∈ later.mentions.map InboxRow.eventId
  notices : earlier.notices ⊆ later.notices
  window : ∀ cursor ∈ earlier.window, ∀ begins ∈ later.window, begins ≤ cursor

namespace HookState

def offer (state : HookState) (env : HookEnv) : TurnRequest → TurnOffer
  | .start rec now =>
      { mentions := (state.db.claimMentions env.toTurnEnv rec.pubkey now).1.1
        notices := (state.pushModeNotice env rec true).1
        window := (state.db.store.getSession rec.pubkey).bind (fun row =>
          if row.seenCursor = rec.seenCursor then some rec.seenCursor else none) }
  | .check rec now =>
      match state.db.driveCursorRequest rec now rec.isWorking with
      | .error _ => { mentions := [], notices := [], window := none }
      | .ok (deltaSince, advanced) =>
          { mentions := (advanced.claimMentions env.toTurnEnv rec.pubkey now).1.1
            notices := ({ state with db := advanced }.pushModeNotice env rec false).1
            window := deltaSince }

/-- However the machine goes on from what a failed request leaves behind, a request of the
session that succeeds next shows everything that the failed one would have shown.  No row
of the inbox, no cursor and no memory of a mode is taken in between. -/
def NextShows (state : HookState) (env : HookEnv) (request : TurnRequest) (after : HookState) :
    Prop :=
  ∀ (later final : HookState) (nextEnv : HookEnv) (next : TurnRequest) (context : TurnContext),
    after.db.store.ConsumesNothing later.db.store request.session.pubkey →
    later.hookContexts request.session.pubkey = after.hookContexts request.session.pubkey →
    next.session.pubkey = request.session.pubkey →
    later.serve nextEnv next = (.ok context, final) →
      (later.offer nextEnv next).Covers (state.offer env request)

/-- The session runs headless and has not been told. -/
def NoticeDue (state : HookState) (env : HookEnv) (rec : Session) (announceInitial : Bool) : Prop :=
  state.db.store.sessionIsHeadless env.outputIsVisible rec = true ∧
    ((state.hookContexts rec.pubkey).lastHeadlessMode = some false ∨
      ((state.hookContexts rec.pubkey).lastHeadlessMode = none ∧ announceInitial = true))

/-- The request cannot fail, or it fails and has nothing to take. -/
def Spares (state : HookState) (env : HookEnv) : TurnRequest → Prop
  | .start rec now =>
      state.db.Resolves rec.channelH ∨
        ((¬ state.db.store.HasPending rec.pubkey ∨ Rust.i64Max < now) ∧
          ¬ state.NoticeDue env rec true)
  | .check rec now =>
      state.db.Resolves rec.channelH ∨
        (rec.isWorking = true ∧ rec.seenCursor < now ∧ Rust.i64Max < now) ∨
        ((¬ state.db.store.HasPending rec.pubkey ∨ Rust.i64Max < now) ∧
          ¬ state.db.store.OwnsCursor rec now rec.isWorking ∧ ¬ state.NoticeDue env rec false)

end HookState

/-! ## The statements of a request -/

namespace Store

theorem ConsumesNothing.refl (store : Store) (pubkey : String) :
    store.ConsumesNothing store pubkey :=
  ⟨fun _ row hfind hpending => ⟨row, hfind, hpending⟩, rfl⟩

/-- The claim of the inbox leaves every pending row pending exactly when there is
none of the session, or when its instant cannot be bound. -/
theorem claim_keeps_pending_iff {store : Store} {pubkey : String} {now : Nat} :
    (∀ k row, store.inbox.find? k = some row → row.state = .pending →
      ∃ kept, (commit (store.claimPendingForPubkey pubkey now) store).inbox.find? k = some kept ∧
        kept.state = .pending) ↔
      ¬ store.HasPending pubkey ∨ Rust.i64Max < now := by
  cases hclaim : store.claimPendingForPubkey pubkey now with
  | error error =>
      have hbound := claimPendingForPubkey_error hclaim
      constructor
      · intro _
        exact Or.inr hbound
      · intro _ k row hfind hpending
        exact ⟨row, hfind, hpending⟩
  | ok result =>
      obtain ⟨rows, after⟩ := result
      have hbound := Nat.not_lt.mpr (claimPendingForPubkey_bound hclaim)
      have hafter : ∀ k, after.inbox.find? k = (store.inbox.find? k).map (fun row =>
          if row.targetPubkey = pubkey ∧ row.state = .pending then row.claimed now else row) := by
        intro k
        rw [(claimPendingForPubkey_ok hclaim).2, find?_claimRows]
      simp only [commit_ok, hbound, or_false]
      constructor
      · rintro hkept ⟨row, hmem, hrow⟩
        obtain ⟨kept, hfind, hpending⟩ := hkept row.key row (Table.mem_rows_iff.mp hmem) hrow.2
        rw [hafter, Table.mem_rows_iff.mp hmem, Option.map_some, if_pos hrow] at hfind
        cases hfind
        cases hpending
      · intro hnone k row hfind hpending
        refine ⟨row, ?_, hpending⟩
        have hother : ¬ (row.targetPubkey = pubkey ∧ row.state = .pending) :=
          fun hrow => hnone ⟨row, Table.mem_of_find? hfind, hrow⟩
        rw [hafter, hfind, Option.map_some, if_neg hother]

/-- What the claim of a request leaves, after the cursor was driven. -/
theorem consumesNothing_claim_iff {store advanced : Store} {pubkey : String} {now : Nat}
    (hinbox : advanced.inbox = store.inbox) :
    store.ConsumesNothing (commit (advanced.claimPendingForPubkey pubkey now) advanced) pubkey ↔
      (¬ store.HasPending pubkey ∨ Rust.i64Max < now) ∧
        (advanced.getSession pubkey).map Session.seenCursor =
          (store.getSession pubkey).map Session.seenCursor := by
  rw [ConsumesNothing, ← hinbox, claim_keeps_pending_iff, HasPending, HasPending, hinbox,
    getSession, claim_sessions]
  rfl

end Store

/-- Nothing is gathered from an inbox without pending rows. -/
theorem Database.claimMentions_eq_nil {db : Database} {env : TurnEnv} {pubkey : String} {now : Nat}
    (hnone : ¬ db.store.HasPending pubkey ∨ Rust.i64Max < now) :
    (db.claimMentions env pubkey now).1.1 = [] := by
  rw [claimMentions, takeInbox]
  cases hclaim : db.store.claimPendingForPubkey pubkey now with
  | error error => rfl
  | ok result =>
      obtain ⟨rows, store⟩ := result
      have hbound := Store.claimPendingForPubkey_bound hclaim
      have hempty : rows = [] := by
        rw [List.eq_nil_iff_forall_not_mem, (Store.claimPendingForPubkey_ok hclaim).1, oldestFirst]
        intro row hrow
        simp only [Store.claimRows, List.mem_insertionSort, List.mem_map] at hrow
        obtain ⟨pending, hpending, _⟩ := hrow
        rcases hnone with hnone | hlate
        · exact hnone ⟨pending, Table.mem_select.mp hpending⟩
        · omega
      rw [hempty]
      rfl

namespace HookState

variable {state : HookState} {env : HookEnv} {request : TurnRequest}

theorem mem_pushModeNotice {rec : Session} {announceInitial : Bool} {notice : String} :
    notice ∈ (state.pushModeNotice env rec announceInitial).1 ↔
      notice = modeNotice ∧ state.NoticeDue env rec announceInitial := by
  rw [pushModeNotice, NoticeDue]
  cases state.db.store.sessionIsHeadless env.outputIsVisible rec with
  | false => simp
  | true =>
      obtain ⟨told⟩ := state.hookContexts rec.pubkey
      cases told with
      | none | some last => simp [HookContextState.recordHeadlessMode, and_comm]

theorem lastHeadlessMode_pushModeNotice (state : HookState) (env : HookEnv) (rec : Session)
    (announceInitial : Bool) :
    ((state.pushModeNotice env rec announceInitial).2.hookContexts rec.pubkey).lastHeadlessMode =
      some (state.db.store.sessionIsHeadless env.outputIsVisible rec) := by
  simp [pushModeNotice, HookContextState.recordHeadlessMode]

/-- What a request leaves behind that has pushed its notice and claimed the inbox. -/
def taken (state : HookState) (env : HookEnv) (rec : Session) (announceInitial : Bool)
    (now : Nat) : HookState where
  db := (state.db.claimMentions env.toTurnEnv rec.pubkey now).2
  hookContexts := (state.pushModeNotice env rec announceInitial).2.hookContexts

theorem serve_start (state : HookState) (env : HookEnv) (rec : Session) (now : Nat) :
    (state.serve env (.start rec now)).2 = state.taken env rec true now ∧
      ((∃ context, (state.serve env (.start rec now)).1 = .ok context) ↔
        state.db.Resolves rec.channelH) := by
  refine ⟨rfl, ?_⟩
  rw [serve]
  exact (exists_congr fun _ => mapError_eq_ok).trans Database.assembleTurnStart_ok_iff

theorem serve_check {rec : Session} {now : Nat} {deltaSince : Option Nat} {advanced : Database}
    (hdrive : state.db.driveCursorRequest rec now rec.isWorking = .ok (deltaSince, advanced)) :
    (state.serve env (.check rec now)).2 = { state with db := advanced }.taken env rec false now ∧
      ((∃ context, (state.serve env (.check rec now)).1 = .ok context) ↔
        advanced.Resolves rec.channelH) := by
  rw [serve, rpcTurnCheck, hdrive]
  exact ⟨rfl, (exists_congr fun _ => mapError_eq_ok).trans Database.assembleTurnCheck_ok_iff⟩

/-- An answered request shows what it has gathered: its capture was given the mentions
and the notices, and its window begins where it owns one. -/
theorem serve_shows {after : HookState}
    {context : TurnContext} (hok : state.serve env request = (.ok context, after)) :
    (∃ (claimed : Database) (backendPubkey : String) (warnings : List String),
      claimed.captureInputs env.capture (Database.turnInput request.session backendPubkey
        (state.offer env request).mentions ((state.offer env request).notices ++ warnings)) =
          .ok context.inputs) ∧
      ∀ cursor ∈ (state.offer env request).window, context.cursor = cursor := by
  cases request with
  | start rec now =>
      rw [serve, Prod.mk.injEq, mapError_eq_ok] at hok
      obtain ⟨inputs, hinputs, rfl⟩ := Database.map_eq_ok.mp hok.1
      refine ⟨⟨_, _, _, hinputs⟩, ?_⟩
      intro cursor hcursor
      obtain ⟨row, -, howned⟩ := Option.bind_eq_some_iff.mp hcursor
      split at howned
      · exact Option.some.inj howned
      · cases howned
  | check rec now =>
      rw [serve, rpcTurnCheck] at hok
      rw [offer]
      cases hdrive : state.db.driveCursorRequest rec now rec.isWorking with
      | error error =>
          rw [hdrive] at hok
          cases hok
      | ok result =>
          obtain ⟨deltaSince, advanced⟩ := result
          rw [hdrive] at hok
          simp only [Prod.mk.injEq, mapError_eq_ok] at hok
          obtain ⟨inputs, hinputs, rfl⟩ := Database.map_eq_ok.mp hok.1
          refine ⟨⟨_, _, _, hinputs⟩, ?_⟩
          intro cursor hcursor
          exact congrArg (Option.getD · now) hcursor

/-- A window that a request owns begins at the stored cursor. -/
theorem offer_window {cursor : Nat} (hwindow : cursor ∈ (state.offer env request).window) :
    (state.db.store.getSession request.session.pubkey).map Session.seenCursor = some cursor := by
  cases request with
  | start rec now =>
      obtain ⟨row, hrow, howned⟩ := Option.bind_eq_some_iff.mp hwindow
      by_cases hstored : row.seenCursor = rec.seenCursor
      · rw [if_pos hstored] at howned
        rw [TurnRequest.session, hrow, Option.map_some, hstored, howned]
      · rw [if_neg hstored] at howned
        cases howned
  | check rec now =>
      rw [offer] at hwindow
      cases hdrive : state.db.driveCursorRequest rec now rec.isWorking with
      | error error =>
          rw [hdrive] at hwindow
          cases hwindow
      | ok result =>
          obtain ⟨deltaSince, advanced⟩ := result
          rw [hdrive] at hwindow
          rcases (Database.driveCursorRequest_ok hdrive).2.2 with
            ⟨howns, _, hdelta, _⟩ | ⟨_, hdelta, _⟩
          · rw [← hwindow, hdelta]
            exact howns.2.2
          · rw [Option.mem_def, hdelta] at hwindow
            cases hwindow

/-- A failed request with nothing to show but its window takes nothing from the next. -/
theorem nextShows_of_kept {after : HookState}
    (hkept : state.db.store.ConsumesNothing after.db.store request.session.pubkey)
    (hmentions : (state.offer env request).mentions = [])
    (hnotices : (state.offer env request).notices = []) : state.NextShows env request after := by
  intro later final nextEnv next context hlater _ hsame _
  refine ⟨?_, ?_, ?_⟩
  · rw [hmentions]
    intro row hrow
    cases hrow
  · rw [hnotices]
    exact List.nil_subset _
  · intro cursor hcursor begins hbegins
    have hstored := offer_window hbegins
    rw [hsame, hlater.2, hkept.2, offer_window hcursor] at hstored
    exact (Option.some.inj hstored).ge

/-- A notice that was pushed for a failed request is not pushed again. -/
theorem not_noticeDue_of_nextShows {announceInitial : Bool} {now : Nat}
    (hnotices : (state.offer env request).notices =
      (state.pushModeNotice env request.session announceInitial).1)
    (hnext : state.NextShows env request (state.taken env request.session announceInitial now)) :
    ¬ state.NoticeDue env request.session announceInitial := by
  intro hdue
  let after := state.taken env request.session announceInitial now
  -- the next request comes when every channel of the machine is forgotten
  let later : HookState := { after with db := { after.db with channels := Table.empty } }
  have hresolves : later.db.Resolves request.session.channelH := by
    refine ⟨?_, ?_⟩
    · intro hknown
      cases hknown
    · intro channel hchannel
      cases hchannel
  obtain ⟨context, hcontext⟩ := (serve_start later env request.session now).2.mpr hresolves
  have hcovers := hnext later (later.serve env (.start request.session now)).2 env
    (.start request.session now) context (Store.ConsumesNothing.refl _ _) rfl rfl
    (Prod.ext hcontext rfl)
  have hpushed : modeNotice ∈ (later.offer env (.start request.session now)).notices := by
    apply hcovers.notices
    rw [hnotices, mem_pushModeNotice]
    exact ⟨rfl, hdue⟩
  obtain ⟨_, _, htold⟩ := mem_pushModeNotice.mp hpushed
  have hlast : (later.hookContexts request.session.pubkey).lastHeadlessMode = some true :=
    (lastHeadlessMode_pushModeNotice state env request.session announceInitial).trans
      (congrArg some hdue.1)
  rw [hlast] at htold
  simp at htold

/-- What a failed request has taken once it has claimed the inbox. -/
theorem taken_iff {announceInitial : Bool} {now : Nat}
    (hmentions : (state.offer env request).mentions =
      (state.db.claimMentions env.toTurnEnv request.session.pubkey now).1.1)
    (hnotices : (state.offer env request).notices =
      (state.pushModeNotice env request.session announceInitial).1) :
    (state.db.store.ConsumesNothing
          (state.taken env request.session announceInitial now).db.store request.session.pubkey ∧
        state.NextShows env request (state.taken env request.session announceInitial now)) ↔
      (¬ state.db.store.HasPending request.session.pubkey ∨ Rust.i64Max < now) ∧
        ¬ state.NoticeDue env request.session announceInitial := by
  have hstore : (state.taken env request.session announceInitial now).db.store =
      commit (state.db.store.claimPendingForPubkey request.session.pubkey now) state.db.store := by
    rw [taken, Database.claimMentions_eq]
  have hconsumes : state.db.store.ConsumesNothing
      (state.taken env request.session announceInitial now).db.store request.session.pubkey ↔
        ¬ state.db.store.HasPending request.session.pubkey ∨ Rust.i64Max < now := by
    rw [hstore, Store.consumesNothing_claim_iff rfl, and_iff_left rfl]
  rw [hconsumes]
  apply and_congr_right
  intro hnone
  constructor
  · exact not_noticeDue_of_nextShows hnotices
  · intro hquiet
    refine nextShows_of_kept (hconsumes.mpr hnone) ?_ ?_
    · rw [hmentions, Database.claimMentions_eq_nil hnone]
    · rw [hnotices, List.eq_nil_iff_forall_not_mem]
      intro notice hnotice
      exact hquiet (mem_pushModeNotice.mp hnotice).2

theorem failedTurn_consumesNothing_iff (env : HookEnv) (state : HookState) (request : TurnRequest) :
    (∀ error after, state.serve env request = (.error error, after) →
        state.db.store.ConsumesNothing after.db.store request.session.pubkey ∧
          state.NextShows env request after) ↔
      state.Spares env request := by
  rw [forall_error_iff (Q := fun after : HookState =>
    state.db.store.ConsumesNothing after.db.store request.session.pubkey ∧
      state.NextShows env request after)]
  cases request with
  | start rec now =>
      rw [(serve_start state env rec now).2, (serve_start state env rec now).1]
      apply or_congr_right
      exact @taken_iff state env (.start rec now) true now rfl rfl
  | check rec now =>
      cases hdrive : state.db.driveCursorRequest rec now rec.isWorking with
      -- The cursor was refused; nothing has been touched.
      | error error =>
          refine iff_of_true (Or.inr ?_) (Or.inr (Or.inl
            (Database.driveCursorRequest_error_iff.mp ⟨error, hdrive⟩)))
          rw [serve, rpcTurnCheck, hdrive]
          have hkept := Store.ConsumesNothing.refl state.db.store rec.pubkey
          exact ⟨hkept, nextShows_of_kept hkept (by rw [offer, hdrive]) (by rw [offer, hdrive])⟩
      | ok result =>
          obtain ⟨deltaSince, advanced⟩ := result
          obtain ⟨hsame, hinbox, hcursor⟩ := Database.driveCursorRequest_ok hdrive
          have haccepted : ¬ (rec.isWorking = true ∧ rec.seenCursor < now ∧ Rust.i64Max < now) := by
            intro hrefused
            obtain ⟨error, herror⟩ : ∃ error,
                state.db.driveCursorRequest rec now rec.isWorking = .error error :=
              Database.driveCursorRequest_error_iff.mpr hrefused
            rw [hdrive] at herror
            cases herror
          have hresolves : advanced.Resolves rec.channelH ↔ state.db.Resolves rec.channelH := by
            rw [hsame]
            exact Database.resolves_withStore
          rw [(serve_check hdrive).2, (serve_check hdrive).1, hresolves, Spares,
            or_iff_right haccepted]
          apply or_congr_right
          by_cases howns : state.db.store.OwnsCursor rec now rec.isWorking
          · -- the cursor has moved
            refine iff_of_false ?_ (fun hspared => hspared.2.1 howns)
            rintro ⟨hconsumes, -⟩
            rw [taken, Database.claimMentions_eq] at hconsumes
            have hsaved : (advanced.store.getSession rec.pubkey).map Session.seenCursor =
                (state.db.store.getSession rec.pubkey).map Session.seenCursor :=
              ((Store.consumesNothing_claim_iff hinbox).mp hconsumes).2
            rcases hcursor with ⟨_, _, _, hmoved⟩ | ⟨hlost, _⟩
            · rw [hmoved, howns.2.2, Option.some.injEq] at hsaved
              have hlater := howns.2.1
              omega
            · exact hlost howns
          -- Nothing but the notice and the mentions can be consumed.
          · have hunmoved := Database.driveCursorRequest_unowned howns hdrive
            subst hunmoved
            rw [and_iff_right howns]
            refine @taken_iff state env (.check rec now) false now ?_ ?_
            · rw [offer, hdrive]
              rfl
            · rw [offer, hdrive]
              rfl

/-- A machine that knows a channel whose parent has not arrived, and a mention that
waits for the session in the root channel. -/
def mentionedDatabase : Database :=
  let stray := Database.launchedDatabase.materialize [Database.publishedChannel "stray" "gone"]
  { stray with
    store := stray.store.step (.inbox (.enqueueInbox "event" "agent" "human" "root" "hello" 5)) }

/-- The stray channel fails the turn start, and the mention is consumed. -/
theorem failedTurn_consumes_mention :
    ¬ ∀ (env : HookEnv) (state after : HookState) (request : TurnRequest) (error : TurnError),
      request.session ∈ state.db.store.sessions.rows →
      state.serve env request = (.error error, after) →
        state.db.store.ConsumesNothing after.db.store request.session.pubkey ∧
          state.NextShows env request after := by
  intro hclaim
  obtain ⟨rec, hrec⟩ : ∃ rec, mentionedDatabase.store.sessions.find? "agent" = some rec :=
    Option.isSome_iff_exists.mp (by decide)
  have hkey : rec.pubkey = "agent" := Table.key_of_find? hrec
  let env : HookEnv :=
    { capture := { parseTags := fun _ => none, debug := id, statusCaps := fun _ _ => [] }
      backendPubkey := ""
      rewriteBody := fun _ body => body
      startWarnings := fun _ _ _ _ => []
      checkWarnings := fun _ _ _ _ => []
      outputIsVisible := fun _ _ => true }
  let state : HookState := { db := mentionedDatabase, hookContexts := fun _ => {} }
  have hfailures := forall_error_iff.mp (fun error after =>
    hclaim env state after (.start rec 7) error (Table.mem_of_find? hrec))
  rw [(serve_start state env rec 7).2, (serve_start state env rec 7).1] at hfailures
  rcases hfailures with hresolves | ⟨hkept, -⟩
  · obtain ⟨top, hresolved⟩ := Database.rootForChannel_ok_iff.mpr
      (hresolves.2 (Database.publishedChannel "stray" "gone") (by decide))
    have herror : mentionedDatabase.rootForChannel "stray" =
        .error (.incompleteAncestry "stray") := by decide
    rw [show (Database.publishedChannel "stray" "gone").channelH = "stray" from rfl,
      herror] at hresolved
    cases hresolved
  · rw [taken, Database.claimMentions_eq] at hkept
    have hpending := Store.claim_keeps_pending_iff.mp hkept.1
    rw [hkey] at hpending
    revert hpending
    decide

end HookState

end Mosaico
