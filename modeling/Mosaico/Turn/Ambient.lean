import Mosaico.Turn.Selection

/-!
# Ambient chat over a run of turn starts

Every turn start shows the chat after its cursor and moves the cursor to its own
time.  The selection has no upper bound, so a message that is stamped ahead of the
clock is shown by every request until the clock has passed it; one that arrives
with a stamp at or below the cursor is shown by none.
-/

namespace Mosaico

open Relational Transition

namespace Database

/-! ## Runs of turn starts -/

/-- A turn start of the session, or whatever else changes the database between two. -/
inductive AmbientStep where
  | turnStart (now : Nat)
  | elsewhere (next : Database)

def ambientStep (env : TurnEnv) (pubkey : String) (db : Database) : AmbientStep → Database
  | .turnStart now => (db.rpcTurnStart env pubkey now).2
  | .elsewhere next => next

/-- The request selects the event into the rows of the channel. -/
def selectsAt (db : Database) (env : TurnEnv) (pubkey : String) (now : Nat) (channel id : String) :
    Bool :=
  match (db.rpcTurnStart env pubkey now).1 with
  | .ok (some context) => context.shows channel id
  | _ => false

/-- The times of the requests of a run that select the event. -/
def selections (env : TurnEnv) (pubkey channel id : String) : Database → List AmbientStep → List Nat
  | _, [] => []
  | db, .turnStart now :: rest =>
      (if db.selectsAt env pubkey now channel id = true then [now] else []) ++
        selections env pubkey channel id (db.ambientStep env pubkey (.turnStart now)) rest
  | _, .elsewhere next :: rest => selections env pubkey channel id next rest

/-- The times of the requests of a run. -/
def requestTimes : List AmbientStep → List Nat
  | [] => []
  | .turnStart now :: rest => now :: requestTimes rest
  | .elsewhere _ :: rest => requestTimes rest

def sessionCursor (db : Database) (pubkey : String) : Option Nat :=
  (db.store.getSession pubkey).map Session.seenCursor

/-- The message is ambient chat for the session: stored, not its own, no backend traffic, in
a channel that it is joined to, and never addressed to it.  The channel is one of this machine
and the message one of the oldest that the capture reads. -/
structure Follows (db : Database) (env : TurnEnv) (session : Session) (event : RelayEvent) :
    Prop where
  chat : db.IsChat env.capture.parseTags (reader session env.backendPubkey) event
  joined : event.channelH ∈ db.activeChannels (some session)
  unaddressed : db.store.inbox.find? (event.id, session.pubkey) = none
  filed : db.Filed event.channelH
  captured : event ∈ db.chatForChannel event.channelH 0 chatCaptureCap

/-- A request succeeds, later than the cursor, and finds the message; between two requests the
cursor stays. -/
def Attends (env : TurnEnv) (pubkey : String) (event : RelayEvent) (db : Database) :
    AmbientStep → Prop
  | .turnStart now => ∃ session, db.store.getSession pubkey = some session ∧
      session.seenCursor < now ∧ db.Follows env session event ∧
        ∃ context, (db.rpcTurnStart env pubkey now).1 = .ok (some context)
  | .elsewhere next => next.sessionCursor pubkey = db.sessionCursor pubkey

instance (db : Database) (env : TurnEnv) (session : Session) (event : RelayEvent) :
    Decidable (db.Follows env session event) :=
  decidable_of_iff (db.IsChat env.capture.parseTags (reader session env.backendPubkey) event ∧
      event.channelH ∈ db.activeChannels (some session) ∧
      db.store.inbox.find? (event.id, session.pubkey) = none ∧ db.Filed event.channelH ∧
      event ∈ db.chatForChannel event.channelH 0 chatCaptureCap)
    ⟨fun ⟨chat, joined, unaddressed, filed, captured⟩ =>
        ⟨chat, joined, unaddressed, filed, captured⟩,
      fun hfollows => ⟨hfollows.chat, hfollows.joined, hfollows.unaddressed, hfollows.filed,
        hfollows.captured⟩⟩

instance (outcome : Except TurnError (Option TurnContext)) :
    Decidable (∃ context, outcome = .ok (some context)) :=
  match outcome with
  | .ok (some context) => isTrue ⟨context, rfl⟩
  | .ok none => isFalse (by simp)
  | .error _ => isFalse (by simp)

instance (env : TurnEnv) (pubkey : String) (event : RelayEvent) (db : Database) (now : Nat) :
    Decidable (Attends env pubkey event db (.turnStart now)) :=
  match hsession : db.store.getSession pubkey with
  | none => isFalse (by simp [Attends, hsession])
  | some session => decidable_of_iff (session.seenCursor < now ∧ db.Follows env session event ∧
      ∃ context, (db.rpcTurnStart env pubkey now).1 = .ok (some context))
        (by simp [Attends, hsession])

/-! ## One request -/

/-- A turn start that answers has moved the cursor to its own time. -/
theorem turnStart_cursor {db : Database} {env : TurnEnv} {pubkey : String} {now : Nat}
    {session : Session} {context : TurnContext}
    (hsession : db.store.getSession pubkey = some session) (hlater : session.seenCursor < now)
    (hok : (db.rpcTurnStart env pubkey now).1 = .ok (some context)) :
    (db.rpcTurnStart env pubkey now).2.sessionCursor pubkey = some now := by
  have hanswer : db.rpcTurnStart env pubkey now =
      (.ok (some context), (db.rpcTurnStart env pubkey now).2) := Prod.ext hok rfl
  generalize (db.rpcTurnStart env pubkey now).2 = after at hanswer ⊢
  obtain ⟨store, current, claimed, deltaSince, hstart, hcurrent, hassembled, hdrive⟩ :=
    turnStart_answers hsession hanswer
  obtain ⟨⟨row, hrow, -, -, hcursor⟩, -, -⟩ := turnStarted_spec hsession hstart
  have hsame : row = current := by
    rw [hcurrent, Option.some.injEq] at hrow
    exact hrow.symm
  subst hsame
  have hclaimed := assembleTurnStart_store { db with store := store } env row now
  rw [hassembled] at hclaimed
  have hkey : row.pubkey = pubkey := Table.key_of_find? hcurrent
  have howns : claimed.store.OwnsCursor row now true := by
    refine ⟨rfl, hcursor ▸ hlater, ?_⟩
    rw [hclaimed, Store.getSession, Store.claim_sessions, ← Store.getSession, hkey, hcurrent]
    rfl
  rcases (driveCursorRequest_ok hdrive).2.2 with ⟨-, -, -, hmoved⟩ | ⟨hnot, -⟩
  · rw [hkey] at hmoved
    exact hmoved
  · exact absurd howns hnot

theorem find?_of_mem_chat {db : Database} {channel : String} {since limit : Nat}
    {event : RelayEvent} (hevent : event ∈ db.chatForChannel channel since limit) :
    db.events.find? event.id = some event := by
  have hselected := List.mem_of_mem_take hevent
  rw [List.mem_insertionSort, List.mem_insertionSort, Table.mem_select] at hselected
  exact Table.mem_rows_iff.mp hselected.1

/-- A captured message is selected exactly if it is stamped after the cursor. -/
theorem selectsAt_iff {db : Database} {env : TurnEnv} {pubkey : String} {now : Nat}
    {session : Session} {event : RelayEvent} {context : TurnContext}
    (hsession : db.store.getSession pubkey = some session) (hcursor : session.seenCursor ≠ 0)
    (hfollows : db.Follows env session event)
    (hok : (db.rpcTurnStart env pubkey now).1 = .ok (some context)) :
    db.selectsAt env pubkey now event.channelH event.id = true ↔
      session.seenCursor < event.createdAt := by
  have hstate : ∀ state, ¬ ∃ row, db.store.inbox.find? (event.id, session.pubkey) = some row ∧
      row.state = state := by
    rintro state ⟨row, hfind, -⟩
    rw [hfollows.unaddressed] at hfind
    cases hfind
  have hviews : db.Views session now event.channelH := by
    have hjoined := hfollows.joined
    rw [activeChannels, List.mem_filter, decide_eq_true_eq] at hjoined
    exact ⟨⟨hjoined.2, hfollows.filed⟩, Or.inl hjoined.1⟩
  have hwindow : db.ChatInWindow env.capture.parseTags (reader session env.backendPubkey)
      event.channelH event.id session.seenCursor now ↔ session.seenCursor < event.createdAt := by
    rw [ChatInWindow, if_neg hcursor]
    constructor
    · rintro ⟨other, hother, hid, -, hlater⟩
      have hsame : db.events.find? event.id = some other := hid ▸ find?_of_mem_chat hother
      rw [find?_of_mem_chat hfollows.captured, Option.some.injEq] at hsame
      rw [hsame]
      exact hlater
    · intro hlater
      exact ⟨event, hfollows.captured, rfl, hfollows.chat, hlater⟩
  rw [selectsAt, hok]
  dsimp only
  rw [turnStart_shows_iff hsession (Prod.ext hok rfl) (hstate .pending), Exposes, hwindow]
  exact ⟨fun hexposes => hexposes.2.1, fun hlater => ⟨hviews, hlater, hstate .injected⟩⟩

/-! ## Whole runs -/

/-- The requests whose window is open below for the stamp. -/
def openWindows (createdAt : Nat) : Nat → List Nat → List Nat
  | _, [] => []
  | cursor, now :: rest =>
      (if cursor < createdAt then [now] else []) ++ openWindows createdAt now rest

/-- The stamp is after the first cursor, and not after the first request if another follows. -/
def FallsInFirst (createdAt cursor : Nat) : List Nat → Prop
  | [] => False
  | [_] => cursor < createdAt
  | first :: _ :: _ => cursor < createdAt ∧ createdAt ≤ first

/-- No window is open once a request has passed the stamp. -/
theorem openWindows_eq_nil {createdAt cursor : Nat} {times : List Nat} (hpassed : createdAt ≤ cursor)
    (hincreasing : (cursor :: times).Pairwise (· < ·)) :
    openWindows createdAt cursor times = [] := by
  induction times generalizing cursor with
  | nil => rfl
  | cons now rest ih =>
      obtain ⟨hlater, hrest⟩ := List.pairwise_cons.mp hincreasing
      have hnow : cursor < now := hlater now List.mem_cons_self
      rw [openWindows, if_neg (by omega), List.nil_append]
      exact ih (by omega) hrest

/-- Exactly one window is open exactly if the stamp falls into the first one. -/
theorem length_openWindows_iff {createdAt cursor : Nat} {times : List Nat}
    (hincreasing : (cursor :: times).Pairwise (· < ·)) :
    (openWindows createdAt cursor times).length = 1 ↔ FallsInFirst createdAt cursor times := by
  cases times with
  | nil => simp [openWindows, FallsInFirst]
  | cons first rest =>
      obtain ⟨hlater, hrest⟩ := List.pairwise_cons.mp hincreasing
      have hfirst : cursor < first := hlater first List.mem_cons_self
      cases rest with
      | nil =>
          show ((if cursor < createdAt then [first] else []) ++ []).length = 1 ↔ cursor < createdAt
          by_cases hopen : cursor < createdAt
          · simp [hopen]
          · simp [hopen]
      | cons second later =>
          rw [openWindows, FallsInFirst]
          by_cases hopen : cursor < createdAt
          · by_cases hpassed : createdAt ≤ first
            · rw [openWindows_eq_nil hpassed hrest]
              simp [hopen, hpassed]
            · -- the second request shows the message again
              have hagain : first < createdAt := by omega
              rw [openWindows]
              simp [hopen, hpassed, hagain]
          · rw [openWindows_eq_nil (by omega) hrest]
            simp [hopen]

/-- The requests of an attended run come at increasing times, after the cursor. -/
theorem requestTimes_increasing {env : TurnEnv} {pubkey : String} {event : RelayEvent}
    {start : Database} {steps : List AmbientStep} {cursor : Nat}
    (hcursor : start.sessionCursor pubkey = some cursor)
    (hattends : Guarded (ambientStep env pubkey) (Attends env pubkey event) start steps) :
    (cursor :: requestTimes steps).Pairwise (· < ·) := by
  induction steps generalizing start cursor with
  | nil => exact List.pairwise_singleton _ _
  | cons step rest ih =>
      obtain ⟨hstep, hrest⟩ := hattends
      cases step with
      | elsewhere next => exact ih (hstep.trans hcursor) hrest
      | turnStart now =>
          obtain ⟨session, hsession, hlater, -, context, hok⟩ := hstep
          have hbefore : session.seenCursor = cursor := by
            rw [sessionCursor, hsession, Option.map_some, Option.some.injEq] at hcursor
            exact hcursor
          have hnext := ih (turnStart_cursor hsession hlater hok) hrest
          rw [requestTimes]
          refine List.pairwise_cons.mpr ⟨?_, hnext⟩
          intro time htime
          rcases List.mem_cons.mp htime with rfl | hmem
          · omega
          · have hafter := (List.pairwise_cons.mp hnext).1 time hmem
            omega

/-- The requests of an attended run select the message in the windows that are open for its
stamp. -/
theorem selections_eq {env : TurnEnv} {pubkey : String} {event : RelayEvent} {start : Database}
    {steps : List AmbientStep} {cursor : Nat}
    (hcursor : start.sessionCursor pubkey = some cursor) (hturned : 0 < cursor)
    (hattends : Guarded (ambientStep env pubkey) (Attends env pubkey event) start steps) :
    selections env pubkey event.channelH event.id start steps =
      openWindows event.createdAt cursor (requestTimes steps) := by
  induction steps generalizing start cursor with
  | nil => rfl
  | cons step rest ih =>
      obtain ⟨hstep, hrest⟩ := hattends
      cases step with
      | elsewhere next => exact ih (hstep.trans hcursor) hturned hrest
      | turnStart now =>
          obtain ⟨session, hsession, hlater, hfollows, context, hok⟩ := hstep
          have hbefore : session.seenCursor = cursor := by
            rw [sessionCursor, hsession, Option.map_some, Option.some.injEq] at hcursor
            exact hcursor
          have hselects := selectsAt_iff hsession (by omega) hfollows hok
          rw [hbefore] at hselects
          have hlaterRequests : selections env pubkey event.channelH event.id
              (start.ambientStep env pubkey (.turnStart now)) rest =
                openWindows event.createdAt now (requestTimes rest) :=
            ih (turnStart_cursor hsession hlater hok) (by omega) hrest
          rw [selections, requestTimes, openWindows, hlaterRequests, if_congr hselects rfl rfl]

/-- A message that every later request can capture is selected by exactly one of them exactly
if its stamp falls into the window of the first. -/
theorem run_ambient_once_iff (env : TurnEnv) (pubkey : String) (event : RelayEvent)
    {start : Database} {steps : List AmbientStep} {cursor : Nat}
    (hcursor : start.sessionCursor pubkey = some cursor) (hturned : 0 < cursor)
    (hattends : Guarded (ambientStep env pubkey) (Attends env pubkey event) start steps) :
    (selections env pubkey event.channelH event.id start steps).length = 1 ↔
      FallsInFirst event.createdAt cursor (requestTimes steps) := by
  rw [selections_eq hcursor hturned hattends]
  exact length_openWindows_iff (requestTimes_increasing hcursor hattends)

/-! ## A message ahead of the clock -/

/-- An environment that parses the tags of one channel. -/
def rootTagEnv : TurnEnv where
  capture :=
    { parseTags := fun text => if text = "[[\"h\",\"root\"]]" then some [["h", "root"]] else none
      debug := id
      statusCaps := fun _ _ => [] }
  backendPubkey := "backend"
  rewriteBody := fun _ body => body
  startWarnings := fun _ _ _ _ => []
  checkWarnings := fun _ _ _ _ => []

/-- A chat message of a human in the root channel. -/
def rootChat (id : String) (createdAt : Nat) : RelayEvent where
  id := id
  kind := kindChat
  pubkey := "human"
  createdAt := createdAt
  channelH := "root"
  dTag := ""
  content := "hello"
  tagsJson := "[[\"h\",\"root\"]]"

/-- The session has had a turn at 5, and then the message was stored. -/
def heardDatabase (event : RelayEvent) : Database :=
  let turned := (launchedDatabase.rpcTurnStart rootTagEnv "agent" 5).2
  commit (turned.insertEvent event) turned

theorem run_ambient_once_iff_between :
    (selections rootTagEnv "agent" "root" "between" (heardDatabase (rootChat "between" 7))
      [.turnStart 10, .turnStart 12]).length = 1 := by
  have hattends : Guarded (ambientStep rootTagEnv "agent")
      (Attends rootTagEnv "agent" (rootChat "between" 7)) (heardDatabase (rootChat "between" 7))
      [.turnStart 10, .turnStart 12] := ⟨by decide +kernel, by decide +kernel, trivial⟩
  have hcursor : (heardDatabase (rootChat "between" 7)).sessionCursor "agent" = some 5 := by
    decide +kernel
  exact (run_ambient_once_iff rootTagEnv "agent" (rootChat "between" 7) hcursor (by decide)
    hattends).mpr ⟨by decide, by decide⟩

/-- A message ahead of the clock is shown by two requests. -/
theorem ambient_not_once :
    ¬ ∀ (env : TurnEnv) (pubkey : String) (event : RelayEvent) (start : Database)
      (steps : List AmbientStep) (cursor : Nat), start.sessionCursor pubkey = some cursor →
      0 < cursor → requestTimes steps ≠ [] →
      Guarded (ambientStep env pubkey) (Attends env pubkey event) start steps →
        (selections env pubkey event.channelH event.id start steps).length = 1 := by
  intro hclaim
  have hattends : Guarded (ambientStep rootTagEnv "agent")
      (Attends rootTagEnv "agent" (rootChat "ahead" 20)) (heardDatabase (rootChat "ahead" 20))
      [.turnStart 10, .turnStart 12] := ⟨by decide +kernel, by decide +kernel, trivial⟩
  have honce := hclaim rootTagEnv "agent" (rootChat "ahead" 20) (heardDatabase (rootChat "ahead" 20))
    [.turnStart 10, .turnStart 12] 5 (by decide +kernel) (by decide) (by decide) hattends
  have htwice : (selections rootTagEnv "agent" "root" "ahead" (heardDatabase (rootChat "ahead" 20))
      [.turnStart 10, .turnStart 12]).length = 2 := by decide +kernel
  exact absurd (htwice.symm.trans honce) (by decide)

/-- A message that arrives behind the cursor is shown by none. -/
example : selections rootTagEnv "agent" "root" "late" (heardDatabase (rootChat "late" 4))
    [.turnStart 10, .turnStart 12] = [] := by decide +kernel

end Database

end Mosaico
