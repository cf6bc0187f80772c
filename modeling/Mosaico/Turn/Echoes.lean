import Mosaico.Inbox.Delivery
import Mosaico.Turn.Ambient

/-!
# Injected messages in the views of a session

The doorbell claims a row, hands the message to the runtime and marks the row
injected afterwards; a later turn end consumes the echo.  A capture leaves out what
is marked injected at that moment, and nothing else keeps the chat event of the
message out: before the mark and after the turn end its window alone decides.
-/

namespace Mosaico

open Relational Transition

namespace Database

/-! ## Runs after the claim of the doorbell -/

/-- A step after the claim.  `store` is any operation of the session store: the mark of the
doorbell, a turn end, the requests of other sessions.  `elsewhere` changes the rest. -/
inductive EchoStep where
  | store (op : StoreOp)
  | turnStart (now : Nat)
  | turnCheck (rec : Session) (now : Nat)
  | elsewhere (relay : Database)

def echoStep (env : TurnEnv) (pubkey : String) (db : Database) : EchoStep → Database
  | .store op => { db with store := db.store.step op }
  | .turnStart now => (db.rpcTurnStart env pubkey now).2
  | .turnCheck rec now => (db.rpcTurnCheck env rec now).2
  | .elsewhere relay => { relay with store := db.store }

/-- The doorbell claims the planned events. -/
def doorbellClaim (eventIds : List String) (pubkey : String) (now : Nat) : StoreOp :=
  .inbox (.claimPendingEventIdsForPubkey eventIds pubkey now)

/-- The view that the step captures for the session. -/
def capturedView (env : TurnEnv) (pubkey : String) (db : Database) :
    EchoStep → Option TurnContext
  | .turnStart now =>
      match (db.rpcTurnStart env pubkey now).1 with
      | .ok context => context
      | .error _ => none
  | .turnCheck rec now =>
      if rec.pubkey = pubkey then
        match (db.rpcTurnCheck env rec now).1 with
        | .ok context => some context
        | .error _ => none
      else none
  | _ => none

/-- The view that the step captures has no message row of the event. -/
def Hides (env : TurnEnv) (pubkey id : String) (db : Database) (step : EchoStep) : Prop :=
  ∀ context, db.capturedView env pubkey step = some context →
    ∀ channel, context.shows channel id = false

/-- A channel that the session looks into has the chat of the event in its window. -/
def InView (db : Database) (env : TurnEnv) (session : Session) (backendPubkey : String)
    (cursor now : Nat) (id : String) : Prop :=
  ∃ channel, db.Views session now channel ∧
    db.ChatInWindow env.capture.parseTags (reader session backendPubkey) channel id cursor now

/-- A view that is captured with the event in its window finds the row marked injected. -/
def Covered (env : TurnEnv) (pubkey id : String) (db : Database) : EchoStep → Prop
  | .turnStart now => (db.capturedView env pubkey (.turnStart now)).isSome →
      ∀ session, db.store.getSession pubkey = some session →
        db.InView env session env.backendPubkey session.seenCursor now id →
          db.Injected session id
  | .turnCheck rec now => (db.capturedView env pubkey (.turnCheck rec now)).isSome →
      db.InView env rec "" (db.checkCursor rec now) now id → db.Injected rec id
  | _ => True

/-! ## One step -/

theorem not_awaits_of_taken {db : Database} {session : Session} {id : String}
    (htaken : db.store.Taken (id, session.pubkey)) : ¬ db.Awaits session id := by
  rintro ⟨row, hfind, hpending⟩
  obtain ⟨taken, hfindTaken, hstate⟩ := htaken
  rw [hfind, Option.some.injEq] at hfindTaken
  exact hstate (hfindTaken ▸ hpending)

/-- No channel of a view shows what is injected or outside of its window. -/
theorem hidden_iff {db : Database} {env : TurnEnv} {session : Session} {backendPubkey : String}
    {cursor now : Nat} {id : String} {context : TurnContext}
    (hshows : ∀ channel, context.shows channel id = true ↔
      db.Exposes env session backendPubkey cursor now channel id) :
    (∀ channel, context.shows channel id = false) ↔
      (db.InView env session backendPubkey cursor now id → db.Injected session id) := by
  constructor
  · rintro hhidden ⟨channel, hviews, hwindow⟩
    by_contra hfresh
    have hshown : context.shows channel id = true :=
      (hshows channel).mpr ⟨hviews, hwindow, hfresh⟩
    rw [hhidden channel] at hshown
    cases hshown
  · intro hcovered channel
    rw [Bool.eq_false_iff]
    intro hshown
    obtain ⟨hviews, hwindow, hfresh⟩ := (hshows channel).mp hshown
    exact hfresh (hcovered ⟨channel, hviews, hwindow⟩)

theorem turnStart_hides_iff (env : TurnEnv) {pubkey id : String} (db : Database) (now : Nat)
    (htaken : db.store.Taken (id, pubkey)) :
    db.Hides env pubkey id (.turnStart now) ↔ db.Covered env pubkey id (.turnStart now) := by
  rw [Hides, Covered]
  cases hview : db.capturedView env pubkey (.turnStart now) with
  | none => simp
  | some context =>
      have hanswer : db.rpcTurnStart env pubkey now =
          (.ok (some context), (db.rpcTurnStart env pubkey now).2) := by
        rw [capturedView] at hview
        split at hview
        · rename_i shown hok
          exact Prod.ext (hview ▸ hok) rfl
        · cases hview
      cases hsession : db.store.getSession pubkey with
      | none =>
          rw [rpcTurnStart, hsession] at hanswer
          cases hanswer
      | some session =>
          have hpubkey : session.pubkey = pubkey := Table.key_of_find? hsession
          have hwaits : ¬ db.Awaits session id := not_awaits_of_taken (hpubkey ▸ htaken)
          have hhidden := hidden_iff (turnStart_shows_iff hsession hanswer hwaits)
          simpa using hhidden

theorem turnCheck_hides_iff (env : TurnEnv) {pubkey id : String} (db : Database) (rec : Session)
    (now : Nat) (htaken : db.store.Taken (id, pubkey)) :
    db.Hides env pubkey id (.turnCheck rec now) ↔
      db.Covered env pubkey id (.turnCheck rec now) := by
  rw [Hides, Covered]
  cases hview : db.capturedView env pubkey (.turnCheck rec now) with
  | none => simp
  | some context =>
      rw [capturedView] at hview
      split at hview
      · rename_i hpubkey
        have hanswer : db.rpcTurnCheck env rec now =
            (.ok context, (db.rpcTurnCheck env rec now).2) := by
          split at hview
          · rename_i shown hok
            exact Prod.ext (Option.some.inj hview ▸ hok) rfl
          · cases hview
        have hwaits : ¬ db.Awaits rec id := not_awaits_of_taken (hpubkey ▸ htaken)
        have hhidden := hidden_iff (turnCheck_shows_iff hanswer hwaits)
        simpa using hhidden
      · cases hview

/-- A step hides a claimed event exactly if it covers it. -/
theorem hides_iff_covered (env : TurnEnv) {pubkey id : String} (db : Database) (step : EchoStep)
    (htaken : db.store.Taken (id, pubkey)) :
    db.Hides env pubkey id step ↔ db.Covered env pubkey id step := by
  cases step with
  | store op | elsewhere relay => simp [Hides, Covered, capturedView]
  | turnStart now => exact turnStart_hides_iff env db now htaken
  | turnCheck rec now => exact turnCheck_hides_iff env db rec now htaken

/-! ## Claimed rows stay claimed -/

theorem taken_of_inbox {before after : Store} {k : String × String}
    (hinbox : after.inbox = before.inbox) (htaken : before.Taken k) : after.Taken k := by
  rw [Store.Taken, hinbox]
  exact htaken

/-- The claim of a request gives no row back. -/
theorem taken_claimPending {store : Store} {k : String × String} (pubkey : String) (now : Nat)
    (htaken : store.Taken k) :
    (commit (store.claimPendingForPubkey pubkey now) store).Taken k := by
  by_contra hreleased
  have hreenqueued : (StoreOp.inbox (.claimPendingForPubkey pubkey now)).Reenqueues k :=
    Store.reenqueues_of_released htaken hreleased
  exact hreenqueued

theorem taken_rpcTurnStart {db : Database} {k : String × String} (env : TurnEnv) (pubkey : String)
    (now : Nat) (htaken : db.store.Taken k) : (db.rpcTurnStart env pubkey now).2.store.Taken k := by
  rw [rpcTurnStart]
  cases hsession : db.store.getSession pubkey with
  | none => exact htaken
  | some session =>
      dsimp only
      cases hstart : db.store.applySessionTurnStarted session.pubkey session.runtimeGeneration
          now with
      | error error => exact htaken
      | ok result =>
          obtain ⟨changed, store⟩ := result
          have hkey : session.pubkey = pubkey := Table.key_of_find? hsession
          have hstarted : store.Taken k :=
            taken_of_inbox (turnStarted_spec (hkey ▸ hsession) hstart).2.2 htaken
          cases changed with
          | false => exact hstarted
          | true =>
              have hclaimed := assembleTurnStart_store { db with store := store } env
                ((store.getSession pubkey).getD session) now
              dsimp only
              generalize { db with store := store }.assembleTurnStart env
                ((store.getSession pubkey).getD session) now = assembled at hclaimed ⊢
              obtain ⟨outcome, claimed⟩ := assembled
              have htakenClaimed : claimed.store.Taken k := by
                rw [hclaimed]
                exact taken_claimPending _ now hstarted
              cases outcome with
              | error error => exact htakenClaimed
              | ok context =>
                  dsimp only
                  cases hdrive : claimed.driveCursorRequest
                      ((store.getSession pubkey).getD session) now true with
                  | error error => exact htakenClaimed
                  | ok driven =>
                      exact taken_of_inbox (driveCursorRequest_ok hdrive).2.1 htakenClaimed

theorem taken_rpcTurnCheck {db : Database} {k : String × String} (env : TurnEnv) (rec : Session)
    (now : Nat) (htaken : db.store.Taken k) : (db.rpcTurnCheck env rec now).2.store.Taken k := by
  cases hdrive : db.driveCursorRequest rec now rec.isWorking with
  | error error =>
      rw [rpcTurnCheck, hdrive]
      exact htaken
  | ok driven =>
      obtain ⟨deltaSince, advanced⟩ := driven
      rw [(rpcTurnCheck_of_drive hdrive).1, assembleTurnCheck_store]
      exact taken_claimPending _ now (taken_of_inbox (driveCursorRequest_ok hdrive).2.1 htaken)

/-- The step does not put the row back. -/
def KeepsClaim (k : String × String) : EchoStep → Prop
  | .store op => ¬ op.Reenqueues k
  | _ => True

theorem taken_echoStep (env : TurnEnv) (pubkey : String) {k : String × String} (db : Database)
    (step : EchoStep) (htaken : db.store.Taken k) (hkeeps : KeepsClaim k step) :
    (db.echoStep env pubkey step).store.Taken k := by
  cases step with
  | store op =>
      by_contra hreleased
      exact hkeeps (Store.reenqueues_of_released htaken hreleased)
  | turnStart now => exact taken_rpcTurnStart env pubkey now htaken
  | turnCheck rec now => exact taken_rpcTurnCheck env rec now htaken
  | elsewhere relay => exact htaken

/-! ## Whole runs -/

/-- After the claim of the doorbell no view shows the event exactly if every capture that has
it in its window finds the row marked injected. -/
theorem run_injected_hidden_iff (env : TurnEnv) (db : Database) (pubkey id : String)
    (eventIds : List String) (claimedAt : Nat) (steps : List EchoStep)
    (hclaim : (doorbellClaim eventIds pubkey claimedAt).Returns db.store (id, pubkey))
    (hdelivered : ∀ step ∈ steps, KeepsClaim (id, pubkey) step) :
    Guarded (echoStep env pubkey) (Hides env pubkey id)
        (db.echoStep env pubkey (.store (doorbellClaim eventIds pubkey claimedAt))) steps ↔
      Guarded (echoStep env pubkey) (Covered env pubkey id)
        (db.echoStep env pubkey (.store (doorbellClaim eventIds pubkey claimedAt))) steps := by
  have hstart : (db.echoStep env pubkey
      (.store (doorbellClaim eventIds pubkey claimedAt))).store.Taken (id, pubkey) :=
    Store.taken_of_returns hclaim
  refine guarded_congr (J := fun state => state.store.Taken (id, pubkey)) hdelivered hstart ?_ ?_
  · intro state step htaken hkeeps
    exact taken_echoStep env pubkey state step htaken hkeeps
  · intro state step htaken
    exact hides_iff_covered env state step htaken

/-! ## A mention that is injected -/

/-- The tags of a mention of the agent in the root channel. -/
def mentionTagEnv : TurnEnv :=
  { rootTagEnv with
    capture :=
      { rootTagEnv.capture with
        parseTags := fun text =>
          if text = "[[\"h\",\"root\"],[\"p\",\"agent\"]]" then some [["h", "root"], ["p", "agent"]]
          else none } }

def rootMention (id : String) (createdAt : Nat) : RelayEvent :=
  { rootChat id createdAt with tagsJson := "[[\"h\",\"root\"],[\"p\",\"agent\"]]" }

/-- The agent is in a turn since 5, and a mention of it arrives at 6. -/
def addressedDatabase : Database :=
  let heard := heardDatabase (rootMention "mention" 6)
  { heard with
    store := heard.store.step
      (.inbox (.enqueueInbox "mention" "agent" "human" "root" "hello" 6)) }

/-- The mark of the doorbell after a successful delivery. -/
def doorbellMark (now : Nat) : EchoStep :=
  .store (.inbox (.markInjectedForEcho ["mention"] "agent" now))

/-- The next turn starts after the mark. -/
def markedFirst : List EchoStep := [doorbellMark 7, .turnStart 8]

/-- The run after the claim of the doorbell at 7. -/
def claimedDatabase : Database :=
  addressedDatabase.echoStep mentionTagEnv "agent" (.store (doorbellClaim ["mention"] "agent" 7))

theorem run_injected_hidden_iff_marked :
    Guarded (echoStep mentionTagEnv "agent") (Hides mentionTagEnv "agent" "mention")
      (addressedDatabase.echoStep mentionTagEnv "agent"
        (.store (doorbellClaim ["mention"] "agent" 7))) markedFirst := by
  have hkeeps : ∀ step ∈ markedFirst, KeepsClaim ("mention", "agent") step := by
    simp [markedFirst, doorbellMark, KeepsClaim, StoreOp.Reenqueues]
  refine (run_injected_hidden_iff mentionTagEnv addressedDatabase "agent" "mention" ["mention"] 7
    markedFirst (by decide +kernel) hkeeps).mpr ⟨trivial, ?_, trivial⟩
  intro _ session hsession _
  have hpubkey : session.pubkey = "agent" := Table.key_of_find? hsession
  have hstate : ((claimedDatabase.echoStep mentionTagEnv "agent" (doorbellMark 7)).store.inbox.find?
      ("mention", "agent")).map InboxRow.state = some .injected := by decide +kernel
  obtain ⟨row, hfind, hinjected⟩ := Option.map_eq_some_iff.mp hstate
  refine ⟨row, ?_, hinjected⟩
  rw [hpubkey]
  exact hfind

/-- A turn that starts between the delivery and the mark shows the mention. -/
theorem injected_shown_again :
    ¬ ∀ (env : TurnEnv) (db : Database) (pubkey id : String) (eventIds : List String)
      (claimedAt : Nat) (steps : List EchoStep),
      (doorbellClaim eventIds pubkey claimedAt).Returns db.store (id, pubkey) →
      (∀ step ∈ steps, KeepsClaim (id, pubkey) step) →
        Guarded (echoStep env pubkey) (Hides env pubkey id)
          (db.echoStep env pubkey (.store (doorbellClaim eventIds pubkey claimedAt))) steps := by
  intro hclaim
  have hkeeps : ∀ step ∈ [.turnStart 8, doorbellMark 9], KeepsClaim ("mention", "agent") step := by
    simp [doorbellMark, KeepsClaim, StoreOp.Reenqueues]
  have hhidden := (hclaim mentionTagEnv addressedDatabase "agent" "mention" ["mention"] 7
    [.turnStart 8, doorbellMark 9] (by decide +kernel) hkeeps).1
  have hshown : (claimedDatabase.capturedView mentionTagEnv "agent" (.turnStart 8)).any
      (fun context => context.shows "root" "mention") = true := by decide +kernel
  obtain ⟨context, hview, hrow⟩ := (Option.any_eq_true _ _).mp hshown
  rw [hhidden context hview "root"] at hrow
  cases hrow

/-- So does the turn that starts after a turn end has consumed the echo. -/
example : ((run (echoStep mentionTagEnv "agent") claimedDatabase
    [doorbellMark 7, .store (.lifecycle (.applySessionTurnEnded "agent" 1 8))]).capturedView
      mentionTagEnv "agent" (.turnStart 9)).any (fun context => context.shows "root" "mention") =
        true := by decide +kernel

end Database

end Mosaico
