import Mosaico.Fabric.Rosters
import Mosaico.State.LeaseFrames
import Mosaico.Transition.Programs

/-!
# Writes of several statements

Some writes of the store take several statements.  The claim of every pending row of
an agent runs them in one transaction.  The replacement of a roster, the claim of named
rows, the change of a session's channel or context and the launches of a remote actor
do not: each of their statements commits by itself, and when one of them fails, what
the earlier ones wrote stays.

Each program here runs the statements of one write in the order of the source.  Without
a fault it does what the atomic model of the same write does.
-/

namespace Mosaico

open Relational Transition

/-! ## The programs -/

/-- One statement with its integer parameters. -/
def writing {σ β : Type} (params : List Nat) (write : σ → β × σ) : Program StoreError σ β :=
  .statement (fun state => do
    bindParams params
    return write state) .done

namespace Database

/-- Remember the time of a snapshot. -/
def stampRoster (db : Database) (channelH : String) (role : RosterRole) (updatedAt : Nat) :
    Database :=
  { db with
    channelMemberSets := db.channelMemberSets.upsert
      { channelH := channelH, role := role.asStr, updatedAt := updatedAt }
      (fun row => { row with updatedAt := updatedAt })
      (ChannelMemberSet.key_stamped updatedAt) }

/-- Delete the rows of a role. -/
def clearRoster (db : Database) (channelH : String) (role : RosterRole) : Database :=
  { db with
    channelMembers := db.channelMembers.deleteWhere
      (fun row => row.channelH = channelH ∧ row.role = role.asStr) }

/-- The upserts of a roster, one for each pubkey. -/
def insertRoles (channelH : String) (role : RosterRole) (updatedAt : Nat) :
    List String → Program StoreError Database Unit
  | [] => return ()
  | pubkey :: rest => do
      writing [updatedAt] (fun db => ((), { db with
        channelMembers := upsertRole db.channelMembers channelH role updatedAt pubkey }))
      insertRoles channelH role updatedAt rest

def replaceRoleProgram (channelH : String) (role : RosterRole) (pubkeys : List String)
    (updatedAt : Nat) : Program StoreError Database Unit := do
  let current ← .read (fun db => db.memberSetTime channelH role)
  if current.any (fun seen => updatedAt < seen) then return ()
  else
    writing [updatedAt] (fun db => ((), db.stampRoster channelH role updatedAt))
    writing [] (fun db => ((), db.clearRoster channelH role))
    insertRoles channelH role updatedAt pubkeys

end Database

namespace Store

/-- Claim one event id after the other. -/
def claimEachProgram (targetPubkey : String) (now : Nat) :
    List String → Program StoreError Store (List InboxRow)
  | [] => return []
  | eventId :: rest => do
      let claimed ← writing [now] (fun store : Store => store.claimRows
        (fun row => row.key = (eventId, targetPubkey) ∧ row.state = .pending) now)
      let others ← claimEachProgram targetPubkey now rest
      return claimed ++ others

def claimPendingEventIdsProgram (eventIds : List String) (targetPubkey : String) (now : Nat) :
    Program StoreError Store (List InboxRow) := do
  let claimed ← claimEachProgram targetPubkey now eventIds
  return oldestFirst claimed

/-- `INSERT OR IGNORE` of a route, unless the channel is blank. -/
def grantRouteProgram (pubkey channelH : String) (grantedAt : Nat) :
    Program StoreError Store Unit :=
  if Rust.isBlank channelH then return ()
  else writing [grantedAt] (fun store => ((), { store with
    sessionChannels := store.sessionChannels.insertOrIgnore
      { pubkey := pubkey, channelH := channelH, grantedAt := grantedAt } }))

/-- `UPDATE sessions SET … WHERE pubkey=?1`. -/
def updateSession (pubkey : String) (assign : Session → Session)
    (hkey : ∀ row, (assign row).pubkey = row.pubkey) (store : Store) : Store :=
  { store with sessions := store.sessions.updateWhere (fun row => row.pubkey = pubkey) assign hkey }

/-- Move a session and grant it the route. -/
def moveSessionProgram (pubkey channelH : String) (assign : Session → Session)
    (hkey : ∀ row, (assign row).pubkey = row.pubkey) (now : Nat) :
    Program StoreError Store Unit := do
  writing [] (fun store => ((), store.updateSession pubkey assign hkey))
  grantRouteProgram pubkey channelH now

def setSessionChannelProgram (pubkey channelH : String) (now : Nat) :
    Program StoreError Store Unit :=
  moveSessionProgram pubkey channelH (fun row => { row with channelH := channelH })
    (fun _ => rfl) now

def setSessionContextProgram (pubkey channelH workRoot readinessParent : String) (now : Nat) :
    Program StoreError Store Unit :=
  moveSessionProgram pubkey channelH
    (fun row => { row with
      channelH := channelH
      workRoot := workRoot
      readinessParent := readinessParent }) (fun _ => rfl) now

/-- `INSERT INTO sessions` of a remote actor, which a pubkey with a session refuses. -/
def insertActor (store : Store) (pubkey agentSlug channel : String) (now : Nat) :
    Except StoreError (Unit × Store) := do
  bindParams [now, Rust.saturatingAdd now headlessIdleTimeoutSecs]
  ensure (store.sessionExists pubkey = false) (.constraintViolation "sessions")
  return ((), { store with
    sessions := store.sessions.insertOrIgnore (Session.mcpActor pubkey agentSlug channel now) })

def reserveMcpActorSessionProgram (pubkey agentSlug channel : String) (now : Nat) :
    Program StoreError Store Unit := do
  .statement (fun store : Store => store.insertActor pubkey agentSlug channel now) .done
  grantRouteProgram pubkey channel now

/-- `UPDATE mcp_actor_aliases SET last_seen=?2 WHERE actor_key=?1`. -/
def touchActor (store : Store) (actorKey : String) (now : Nat) : Store :=
  { store with
    mcpActorAliases := store.mcpActorAliases.updateWhere (fun row => row.actorKey = actorKey)
      (fun row => { row with lastSeen := now }) (McpActorAlias.actorKey_seen now) }

/-- The writes of an activation. -/
def activateProgram (actorKey pubkey : String) (now : Nat) : Program StoreError Store Unit := do
  writing [now, Rust.saturatingAdd now headlessIdleTimeoutSecs] (fun store : Store =>
    ((), store.updateSession pubkey (fun row => row.mcpActivated now) (fun _ => rfl)))
  writing [now] (fun store : Store => ((), store.touchActor actorKey now))
  writing [now] (fun store : Store => ((), store.markHandleLive pubkey now))

def activateMcpActorProgram (actorKey pubkey : String) (now : Nat) :
    Program StoreError Store Unit := do
  let found ← .read (fun store : Store => store.getSession pubkey)
  match found with
  | none => .refused .noRow
  | some row =>
      if row.runtimeState = .stopping then .refused .actorStopping
      else if row.recoveryState = .revoked then .refused .actorRevoked
      else activateProgram actorKey pubkey now

/-- `INSERT OR IGNORE` of the work-start handoffs, one for each row. -/
def stageProgram (now : Nat) : List InboxRow → Program StoreError Store Unit
  | [] => return ()
  | row :: rest => do
      writing [now] (fun store : Store => ((), store.stageFromInbox [row] now))
      stageProgram now rest

/-- The claim of every pending row, and of their work-start handoffs.  The source runs
it in a transaction. -/
def claimPendingProgram (targetPubkey : String) (now : Nat) :
    Program StoreError Store (List InboxRow) := do
  let claimed ← writing [now] (fun store : Store => store.claimRows
    (fun row => row.targetPubkey = targetPubkey ∧ row.state = .pending) now)
  stageProgram now (oldestFirst claimed)
  return oldestFirst claimed

end Store

/-! ## Single statements -/

section Writing

variable {σ α β : Type} {params : List Nat} {write : σ → β × σ}
  {following : β → Program StoreError σ α} {fault : Fault StoreError} {state : σ}

theorem run_writing (hnow : fault.now = none) (hparams : bindParams params = .ok ()) :
    (writing params write >>= following).run fault state =
      (following (write state).1).run fault.later (write state).2 := by
  apply Program.run_ok hnow
  rw [hparams]
  rfl

theorem run_writing_now {error : StoreError} (hnow : fault.now = some error) :
    (writing params write >>= following).run fault state = (.error error, state) :=
  Program.run_now hnow

theorem run_writing_refused {error : StoreError} (hnow : fault.now = none)
    (hparams : bindParams params = .error error) :
    (writing params write >>= following).run fault state = (.error error, state) := by
  apply Program.run_error hnow
  rw [hparams]
  rfl

end Writing

/-! ## Rosters -/

namespace Database

variable {channelH : String} {role : RosterRole} {updatedAt : Nat}

/-- The upserts of a roster all succeed when no fault hits them. -/
theorem insertRoles_ok (hparams : bindParams [updatedAt] = .ok ()) {pubkeys : List String}
    {fault : Fault StoreError} (houtside : fault.Outside 0 pubkeys.length) (db : Database) :
    (insertRoles channelH role updatedAt pubkeys).run fault db =
      (.ok (), { db with
        channelMembers := pubkeys.foldl
          (fun members pubkey => upsertRole members channelH role updatedAt pubkey)
          db.channelMembers }) := by
  induction pubkeys generalizing fault db with
  | nil => rfl
  | cons pubkey rest ih =>
      obtain ⟨hnow, hlater⟩ := houtside.uncons
      rw [insertRoles, run_writing hnow hparams, ih hlater]
      rfl

/-- A fault among the upserts leaves the time of the snapshot in place. -/
theorem insertRoles_fault (channelH : String) (role : RosterRole)
    (hparams : bindParams [updatedAt] = .ok ()) {pubkeys : List String}
    {place : Nat} (error : StoreError) (hplace : place < pubkeys.length) (db : Database) :
    ∃ after, (insertRoles channelH role updatedAt pubkeys).run (.after place error) db =
        (.error error, after) ∧ after.channelMemberSets = db.channelMemberSets := by
  induction pubkeys generalizing place db with
  | nil => cases hplace
  | cons pubkey rest ih =>
      cases place with
      | zero => exact ⟨db, run_writing_now rfl, rfl⟩
      | succ place =>
          rw [insertRoles, run_writing rfl hparams]
          exact ih (by simpa using hplace) _

/-- The statements after the check that no newer snapshot was seen. -/
theorem run_replaceRole (pubkeys : List String) {fault : Fault StoreError}
    (hnow : fault.now = none) (db : Database) :
    (replaceRoleProgram channelH role pubkeys updatedAt).run fault db =
      if (db.memberSetTime channelH role).any (fun seen => updatedAt < seen) then (.ok (), db)
      else
        (writing [updatedAt] (fun db : Database => ((), db.stampRoster channelH role updatedAt))
            >>= fun _ =>
          writing [] (fun db : Database => ((), db.clearRoster channelH role)) >>= fun _ =>
          insertRoles channelH role updatedAt pubkeys).run fault.later db := by
  rw [replaceRoleProgram, Program.read, Program.statement_bind, Program.run_ok hnow rfl,
    Program.done_bind]
  split
  · rfl
  · rfl

/-- Without a fault the statements replace the roster as the atomic write does. -/
theorem replaceRoleProgram_never (pubkeys : List String) (db : Database) :
    (replaceRoleProgram channelH role pubkeys updatedAt).run .never db =
      Script.attempt (fun db : Database => db.replaceRole channelH role pubkeys updatedAt) db := by
  have hseen : (db.memberSetTime channelH role).any (fun seen => updatedAt < seen) =
      (db.channelMemberSets.find? (channelH, role.asStr)).any
        (fun seen => updatedAt < seen.updatedAt) := by
    rw [memberSetTime, Option.any_map]
  rw [run_replaceRole pubkeys rfl, hseen, Script.attempt, replaceRole]
  by_cases hnewer : (db.channelMemberSets.find? (channelH, role.asStr)).any
      (fun seen => updatedAt < seen.updatedAt)
  · rw [if_pos hnewer, if_pos hnewer]
    rfl
  · rw [if_neg hnewer, if_neg hnewer]
    cases hparams : bindParams [updatedAt] with
    | error error =>
        rw [run_writing_refused rfl hparams]
        rfl
    | ok =>
        have hnever : (Fault.never : Fault StoreError).Outside 0 pubkeys.length := trivial
        rw [run_writing rfl hparams, run_writing rfl rfl, Fault.later_never, Fault.later_never,
          Fault.later_never, insertRoles_ok hparams hnever]
        rfl

theorem memberSetTime_stampRoster (db : Database) (channelH : String) (role : RosterRole)
    (updatedAt : Nat) :
    (db.stampRoster channelH role updatedAt).memberSetTime channelH role = some updatedAt := by
  have hfind := Table.find?_upsert db.channelMemberSets
    { channelH := channelH, role := role.asStr, updatedAt := updatedAt }
    (fun row => { row with updatedAt := updatedAt }) (fun _ => rfl) (channelH, role.asStr)
  rw [memberSetTime, stampRoster, hfind.trans (if_pos rfl)]
  cases db.channelMemberSets.find? (channelH, role.asStr) <;> rfl

/-- A fault after the time of the snapshot is written leaves it written. -/
theorem replaceRole_fault (channelH : String) (role : RosterRole)
    (hparams : bindParams [updatedAt] = .ok ()) (pubkeys : List String) {place : Nat}
    (error : StoreError) (hplace : place < 1 + pubkeys.length) :
    ∃ after, (replaceRoleProgram channelH role pubkeys updatedAt).run (.after (place + 2) error)
        Database.empty = (.error error, after) ∧
      after.memberSetTime channelH role = some updatedAt := by
  have hstamped := memberSetTime_stampRoster Database.empty channelH role updatedAt
  rw [run_replaceRole pubkeys rfl, if_neg (show ¬ (Database.empty.memberSetTime channelH role).any
    (fun seen => updatedAt < seen) from Bool.false_ne_true), Fault.later_succ,
    run_writing rfl hparams, Fault.later_succ]
  cases place with
  | zero => exact ⟨_, run_writing_now rfl, hstamped⟩
  | succ place =>
      rw [run_writing rfl rfl, Fault.later_succ]
      obtain ⟨after, hrun, hsets⟩ := insertRoles_fault channelH role hparams error
        (show place < pubkeys.length by omega)
        ((Database.empty.stampRoster channelH role updatedAt).clearRoster channelH role)
      refine ⟨after, hrun, ?_⟩
      rw [memberSetTime, hsets]
      exact hstamped

/-- A replacement of a roster is atomic exactly if no statement from the deletion of the
old rows on fails. -/
theorem replaceRoleProgram_atomic_iff (pubkeys : List String) (fault : Fault StoreError) :
    (replaceRoleProgram channelH role pubkeys updatedAt).Atomic fault ↔
      fault.Outside 2 (3 + pubkeys.length) ∨ bindParams [updatedAt] ≠ .ok () := by
  rw [Program.atomic_iff]
  constructor
  · intro hatomic
    by_contra hinside
    rw [not_or, not_not] at hinside
    obtain ⟨hfault, hparams⟩ := hinside
    obtain ⟨place, error, rfl, hfirst, hlast⟩ := Fault.not_outside hfault
    obtain ⟨place, rfl⟩ : ∃ later, place = later + 2 := ⟨place - 2, by omega⟩
    obtain ⟨after, hrun, hwritten⟩ := replaceRole_fault channelH role hparams pubkeys error
      (show place < 1 + pubkeys.length by omega)
    rw [hatomic _ _ _ hrun] at hwritten
    cases hwritten
  · intro houtside db error after hfailed
    cases hnow : fault.now with
    | some failure =>
        rw [replaceRoleProgram, Program.read, Program.statement_bind,
          Program.run_now hnow] at hfailed
        cases hfailed
        rfl
    | none =>
        rw [run_replaceRole pubkeys hnow] at hfailed
        split at hfailed
        · cases hfailed
        · cases hlater : fault.later.now with
          | some failure =>
              rw [run_writing_now hlater] at hfailed
              cases hfailed
              rfl
          | none =>
              cases hparams : bindParams [updatedAt] with
              | error failure =>
                  rw [run_writing_refused hlater hparams] at hfailed
                  cases hfailed
                  rfl
              | ok =>
                  have hfault := houtside.resolve_right (fun hrefused => hrefused hparams)
                  rw [show 3 + pubkeys.length = pubkeys.length + 1 + 1 + 1 by omega] at hfault
                  obtain ⟨_, hstamp⟩ := hfault.shift.resolve_left (by simp [hnow])
                  obtain ⟨_, hclear⟩ := hstamp.shift.resolve_left (by simp [hlater])
                  obtain ⟨hnone, hinserts⟩ := hclear.uncons
                  rw [run_writing hlater hparams, run_writing hnone rfl,
                    insertRoles_ok hparams hinserts] at hfailed
                  cases hfailed

end Database

/-! ## Claims by event id -/

namespace Store

variable {targetPubkey : String} {now : Nat}

theorem claimEachProgram_cons (eventId : String) (rest : List String) (fault : Fault StoreError)
    (store : Store) (hnow : fault.now = none) (hparams : bindParams [now] = .ok ()) :
    (claimEachProgram targetPubkey now (eventId :: rest)).run fault store =
      let claimed := store.claimRows
        (fun row => row.key = (eventId, targetPubkey) ∧ row.state = .pending) now
      let others := (claimEachProgram targetPubkey now rest).run fault.later claimed.2
      (others.1.map (fun rows => claimed.1 ++ rows), others.2) := by
  rw [claimEachProgram, run_writing hnow hparams]
  exact Program.run_map _ _ _ _

theorem claimEachProgram_ok (hparams : bindParams [now] = .ok ()) {eventIds : List String}
    {fault : Fault StoreError} (houtside : fault.Outside 0 eventIds.length) (store : Store) :
    (claimEachProgram targetPubkey now eventIds).run fault store =
      (.ok (store.claimEach targetPubkey now eventIds).1,
        (store.claimEach targetPubkey now eventIds).2) := by
  induction eventIds generalizing fault store with
  | nil => rfl
  | cons eventId rest ih =>
      obtain ⟨hnow, hlater⟩ := houtside.uncons
      rw [claimEachProgram_cons eventId rest fault store hnow hparams]
      dsimp only
      rw [ih hlater]
      rfl

theorem claimEachProgram_refused {error : StoreError} (hparams : bindParams [now] = .error error)
    {eventIds : List String} (hids : eventIds ≠ []) {fault : Fault StoreError}
    (hnow : fault.now = none) (store : Store) :
    (claimEachProgram targetPubkey now eventIds).run fault store = (.error error, store) := by
  cases eventIds with
  | nil => exact absurd rfl hids
  | cons eventId rest => exact run_writing_refused hnow hparams

/-- A fault among the claims keeps the rows that were claimed before it. -/
theorem claimEachProgram_fault (targetPubkey : String) (hparams : bindParams [now] = .ok ())
    {eventIds : List String}
    {place : Nat} (error : StoreError) (hplace : place < eventIds.length) (store : Store) :
    ∃ after, (claimEachProgram targetPubkey now eventIds).run (.after place error) store =
        (.error error, after) ∧
      ∀ key row, store.inbox.find? key = some row → row.state ≠ .pending →
        after.inbox.find? key = some row := by
  induction eventIds generalizing place store with
  | nil => cases hplace
  | cons eventId rest ih =>
      cases place with
      | zero => exact ⟨store, run_writing_now rfl, fun _ _ hrow _ => hrow⟩
      | succ place =>
          rw [claimEachProgram_cons eventId rest _ store rfl hparams]
          dsimp only
          obtain ⟨after, hrun, hkept⟩ := ih (show place < rest.length by simpa using hplace)
            (store.claimRows
              (fun row => row.key = (eventId, targetPubkey) ∧ row.state = .pending) now).2
          rw [Fault.later_succ, hrun]
          refine ⟨after, rfl, fun key row hrow hstate => hkept key row ?_ hstate⟩
          rw [claimRows, Table.find?_updateWhere, hrow, Option.map_some,
            if_neg (fun hclaimed => hstate hclaimed.2)]

/-- Without a fault the statements claim what the atomic write does. -/
theorem claimPendingEventIdsProgram_never (eventIds : List String) (store : Store) :
    (claimPendingEventIdsProgram eventIds targetPubkey now).run .never store =
      Script.attempt (fun store : Store =>
        store.claimPendingEventIdsForPubkey eventIds targetPubkey now) store := by
  have hnever : (Fault.never : Fault StoreError).Outside 0 eventIds.length := trivial
  rw [claimPendingEventIdsProgram, Program.run_map, Script.attempt,
    claimPendingEventIdsForPubkey]
  by_cases hids : eventIds = []
  · subst hids
    rfl
  · have hbound : bindParams (eventIds.map (fun _ => now)) = bindParams [now] := by
      cases eventIds with
      | nil => exact absurd rfl hids
      | cons eventId rest => by_cases hfits : now ≤ Rust.i64Max <;> simp [bindParams, hfits]
    rw [hbound]
    cases hparams : bindParams [now] with
    | error error =>
        rw [claimEachProgram_refused hparams hids rfl]
        rfl
    | ok =>
        rw [claimEachProgram_ok hparams hnever]
        rfl

/-- A pending row of the agent. -/
def pendingStore (eventId targetPubkey : String) : Store :=
  { Store.empty with
    inbox := Table.empty.insertOrIgnore (InboxRow.arrival eventId targetPubkey "" "" "" 0) }

/-- A claim by event id is atomic exactly if no statement after the first fails. -/
theorem claimPendingEventIdsProgram_atomic_iff (eventIds : List String)
    (fault : Fault StoreError) :
    (claimPendingEventIdsProgram eventIds targetPubkey now).Atomic fault ↔
      fault.Outside 1 eventIds.length ∨ bindParams [now] ≠ .ok () := by
  rw [Program.atomic_iff]
  constructor
  · intro hatomic
    by_contra hinside
    rw [not_or, not_not] at hinside
    obtain ⟨hfault, hparams⟩ := hinside
    obtain ⟨place, error, rfl, hfirst, hlast⟩ := Fault.not_outside hfault
    obtain ⟨place, rfl⟩ : ∃ later, place = later + 1 := ⟨place - 1, by omega⟩
    cases eventIds with
    | nil => cases hlast
    | cons eventId rest =>
        -- The first id is claimed, and no later claim opens it again.
        have hplace : place < rest.length := by simpa using hlast
        have hpending : (pendingStore eventId targetPubkey).inbox.find? (eventId, targetPubkey) =
            some (InboxRow.arrival eventId targetPubkey "" "" "" 0) := by
          rw [pendingStore, Table.find?_insertOrIgnore]
          exact if_pos rfl
        obtain ⟨after, hrun, hkept⟩ := claimEachProgram_fault targetPubkey hparams error hplace
          ((pendingStore eventId targetPubkey).claimRows
            (fun row => row.key = (eventId, targetPubkey) ∧ row.state = .pending) now).2
        have hclaimed := hkept (eventId, targetPubkey)
          ((InboxRow.arrival eventId targetPubkey "" "" "" 0).claimed now) (by
            rw [claimRows, Table.find?_updateWhere, hpending, Option.map_some]
            exact congrArg some (if_pos ⟨rfl, rfl⟩)) (by
            intro hstate
            cases hstate)
        have hfailed : (claimPendingEventIdsProgram (eventId :: rest) targetPubkey now).run
            (.after (place + 1) error) (pendingStore eventId targetPubkey) =
              (.error error, after) := by
          rw [claimPendingEventIdsProgram, Program.run_map,
            claimEachProgram_cons eventId rest _ _ rfl hparams]
          dsimp only
          rw [Fault.later_succ, hrun]
          rfl
        rw [hatomic _ _ _ hfailed, hpending] at hclaimed
        cases hclaimed
  · intro houtside store error after hfailed
    rw [claimPendingEventIdsProgram, Program.run_map] at hfailed
    cases eventIds with
    | nil => cases hfailed
    | cons eventId rest =>
        cases hnow : fault.now with
        | some failure =>
            rw [claimEachProgram, run_writing_now hnow] at hfailed
            cases hfailed
            rfl
        | none =>
            cases hparams : bindParams [now] with
            | error failure =>
                rw [claimEachProgram, run_writing_refused hnow hparams] at hfailed
                cases hfailed
                rfl
            | ok =>
                have hfault := houtside.resolve_right (fun hrefused => hrefused hparams)
                obtain ⟨_, hrest⟩ := hfault.shift.resolve_left (by simp [hnow])
                rw [claimEachProgram_cons eventId rest fault store hnow hparams] at hfailed
                dsimp only at hfailed
                rw [claimEachProgram_ok hparams hrest] at hfailed
                cases hfailed

/-! ## Channel and context -/

theorem find?_updateSession {store : Store} {pubkey : String} (assign : Session → Session)
    (hkey : ∀ row, (assign row).pubkey = row.pubkey) {row : Session}
    (hfind : store.sessions.find? pubkey = some row) :
    (store.updateSession pubkey assign hkey).sessions.find? pubkey = some (assign row) := by
  rw [updateSession, Table.find?_updateWhere, hfind, Option.map_some]
  exact congrArg some (if_pos (Table.key_of_find? hfind))

section Moves

variable {pubkey channelH : String} {assign : Session → Session}
  {hkey : ∀ row, (assign row).pubkey = row.pubkey} {fault : Fault StoreError}

/-- The route is granted unless its statement fails. -/
theorem grantRouteProgram_cases (pubkey : String) {channelH : String}
    (hnamed : ¬ Rust.isBlank channelH) (grantedAt : Nat) (fault : Fault StoreError)
    (store : Store) :
    (∃ error, (fault.now = some error ∨ fault.now = none ∧ bindParams [grantedAt] = .error error) ∧
        (grantRouteProgram pubkey channelH grantedAt).run fault store = (.error error, store)) ∨
      fault.now = none ∧ bindParams [grantedAt] = .ok () ∧
        (grantRouteProgram pubkey channelH grantedAt).run fault store =
          (.ok (), { store with
            sessionChannels := store.sessionChannels.insertOrIgnore
              { pubkey := pubkey, channelH := channelH, grantedAt := grantedAt } }) := by
  rw [grantRouteProgram, if_neg hnamed, writing]
  cases hnow : fault.now with
  | some error => exact Or.inl ⟨error, Or.inl rfl, Program.run_now hnow⟩
  | none =>
      cases hparams : bindParams [grantedAt] with
      | error error =>
          exact Or.inl ⟨error, Or.inr ⟨rfl, rfl⟩, Program.run_error hnow rfl⟩
      | ok => exact Or.inr ⟨rfl, rfl, Program.run_ok hnow rfl⟩

/-- A move is atomic exactly if it grants no route, its first statement fails, or its
second one does not. -/
theorem moveSessionProgram_atomic_iff
    (hchanges : ¬ Rust.isBlank channelH → ∃ row : Session, row.pubkey = pubkey ∧ assign row ≠ row) :
    (moveSessionProgram pubkey channelH assign hkey now).Atomic fault ↔
      Rust.isBlank channelH ∨ fault.now ≠ none ∨
        fault.Outside 1 2 ∧ bindParams [now] = .ok () := by
  rw [Program.atomic_iff]
  constructor
  · intro hatomic
    by_contra hinside
    rw [not_or, not_or, not_not] at hinside
    obtain ⟨hnamed, hnow, hfails⟩ := hinside
    obtain ⟨row, hrow, hmoved⟩ := hchanges hnamed
    let store : Store :=
      { Store.empty with sessions := Table.empty.insertOrIgnore row }
    have hfind : store.sessions.find? pubkey = some row := by
      rw [Table.find?_insertOrIgnore]
      exact if_pos hrow.symm
    rcases grantRouteProgram_cases pubkey hnamed now fault.later
        (store.updateSession pubkey assign hkey) with ⟨error, _, hrun⟩ | ⟨hlater, hparams, _⟩
    · have hafter := hatomic store error (store.updateSession pubkey assign hkey) (by
        rw [moveSessionProgram, run_writing hnow rfl]
        exact hrun)
      have hupdated := find?_updateSession assign hkey hfind
      rw [hafter, hfind, Option.some.injEq] at hupdated
      exact hmoved hupdated.symm
    · exact hfails ⟨(Fault.later_now_iff hnow).mp hlater, hparams⟩
  · intro hsafe store error after hfailed
    cases hnow : fault.now with
    | some failure =>
        rw [moveSessionProgram, run_writing_now hnow] at hfailed
        cases hfailed
        rfl
    | none =>
        rw [moveSessionProgram, run_writing hnow rfl] at hfailed
        by_cases hnamed : Rust.isBlank channelH
        · rw [grantRouteProgram, if_pos hnamed] at hfailed
          cases hfailed
        · obtain ⟨houtside, hparams⟩ :=
            (hsafe.resolve_left hnamed).resolve_left (fun hsome => hsome hnow)
          have hlater := (Fault.later_now_iff hnow).mpr houtside
          rcases grantRouteProgram_cases pubkey hnamed now fault.later
              (store.updateSession pubkey assign hkey) with ⟨failure, hcause, _⟩ | ⟨_, _, hrun⟩
          · rw [hlater, hparams] at hcause
            rcases hcause with hcause | ⟨_, hcause⟩ <;> cases hcause
          · rw [hrun] at hfailed
            cases hfailed

end Moves

/-- Without a fault the grant does what the atomic write does, and it succeeds. -/
theorem grantRouteProgram_never (pubkey channelH : String) {grantedAt : Nat}
    (hparams : bindParams [grantedAt] = .ok ()) (store : Store) :
    ∃ after, store.grantSessionRoute pubkey channelH grantedAt = .ok ((), after) ∧
      (grantRouteProgram pubkey channelH grantedAt).run .never store = (.ok (), after) := by
  rw [grantSessionRoute]
  by_cases hnamed : Rust.isBlank channelH
  · rw [grantRouteProgram, if_pos hnamed, if_pos hnamed]
    exact ⟨store, rfl, rfl⟩
  · rw [if_neg hnamed, hparams]
    rcases grantRouteProgram_cases pubkey hnamed grantedAt Fault.never store with
      ⟨error, hcause, _⟩ | ⟨_, _, hrun⟩
    · rw [hparams] at hcause
      rcases hcause with hcause | ⟨_, hcause⟩ <;> cases hcause
    · exact ⟨_, rfl, hrun⟩

/-- Without a fault a move does what the atomic write does. -/
theorem setSessionChannelProgram_never {pubkey channelH : String}
    (hparams : bindParams [now] = .ok ()) (store : Store) :
    (setSessionChannelProgram pubkey channelH now).run .never store =
      Script.attempt (fun store : Store => store.setSessionChannel pubkey channelH now) store := by
  obtain ⟨after, hgranted, hrun⟩ := grantRouteProgram_never pubkey channelH hparams
    (store.updateSession pubkey
      (fun row => { row with channelH := channelH }) (fun _ => rfl))
  rw [setSessionChannelProgram, moveSessionProgram, run_writing rfl rfl, Fault.later_never, hrun]
  symm
  exact Script.attempt_ok_iff.mpr hgranted

theorem setSessionContextProgram_never {pubkey channelH workRoot readinessParent : String}
    (hparams : bindParams [now] = .ok ()) (store : Store) :
    (setSessionContextProgram pubkey channelH workRoot readinessParent now).run .never store =
      Script.attempt (fun store : Store =>
        store.setSessionContext pubkey channelH workRoot readinessParent now) store := by
  obtain ⟨after, hgranted, hrun⟩ := grantRouteProgram_never pubkey channelH hparams
    (store.updateSession pubkey
      (fun row => { row with
        channelH := channelH
        workRoot := workRoot
        readinessParent := readinessParent }) (fun _ => rfl))
  rw [setSessionContextProgram, moveSessionProgram, run_writing rfl rfl, Fault.later_never, hrun]
  symm
  exact Script.attempt_ok_iff.mpr hgranted

/-! ## Remote actors -/

section Actors

variable {actorKey pubkey agentSlug channel : String} {fault : Fault StoreError}

/-- The parameters of a launch include its instant. -/
theorem bindParams_instant {now deadline : Nat} (hparams : bindParams [now, deadline] = .ok ()) :
    bindParams [now] = .ok () := by
  rw [bindParams_eq_ok] at hparams ⊢
  intro param hparam
  rw [List.mem_singleton.mp hparam]
  exact hparams now List.mem_cons_self

theorem insertActor_ok {store after : Store}
    (hok : store.insertActor pubkey agentSlug channel now = .ok ((), after)) :
    bindParams [now, Rust.saturatingAdd now headlessIdleTimeoutSecs] = .ok () ∧
      store.sessionExists pubkey = false ∧
      after = { store with
        sessions := store.sessions.insertOrIgnore
          (Session.mcpActor pubkey agentSlug channel now) } := by
  simp only [insertActor, bind_eq_ok, ensure_eq_ok, pure_eq_ok, Prod.mk.injEq] at hok
  obtain ⟨_, hparams, _, hfree, _, rfl⟩ := hok
  exact ⟨hparams, hfree, rfl⟩

/-- Without a fault the statements reserve the session as the atomic write does. -/
theorem reserveMcpActorSessionProgram_never (store : Store) :
    (reserveMcpActorSessionProgram pubkey agentSlug channel now).run .never store =
      Script.attempt (fun store : Store =>
        store.reserveMcpActorSession pubkey agentSlug channel now) store := by
  have hatomic : store.reserveMcpActorSession pubkey agentSlug channel now =
      (store.insertActor pubkey agentSlug channel now >>= fun inserted =>
        inserted.2.grantSessionRoute pubkey channel now) := by
    simp only [reserveMcpActorSession, insertActor, bind_assoc, pure_bind]
  rw [reserveMcpActorSessionProgram, Program.statement_bind, Script.attempt, hatomic]
  cases hinsert : store.insertActor pubkey agentSlug channel now with
  | error error =>
      rw [Program.run_error rfl hinsert]
      rfl
  | ok result =>
      obtain ⟨⟨⟩, inserted⟩ := result
      have hinstant := bindParams_instant (insertActor_ok hinsert).1
      obtain ⟨after, hgranted, hrun⟩ := grantRouteProgram_never pubkey channel hinstant
        inserted
      rw [Program.run_ok rfl hinsert, Program.done_bind, Fault.later_never, hrun]
      have hpure : (Except.ok ((), inserted) : Except StoreError (Unit × Store)) =
          pure ((), inserted) := rfl
      rw [hpure, pure_bind, hgranted]

/-- Without a fault the statements activate the session as the atomic write does. -/
theorem activateMcpActorProgram_never (store : Store) :
    (activateMcpActorProgram actorKey pubkey now).run .never store =
      Script.attempt (fun store : Store => store.activateMcpActor actorKey pubkey now) store := by
  rw [activateMcpActorProgram, Program.read, Program.statement_bind, Program.run_ok rfl rfl,
    Program.done_bind, Script.attempt, activateMcpActor]
  cases hrow : store.getSession pubkey with
  | none => rfl
  | some row =>
      dsimp only
      by_cases hstopping : row.runtimeState = .stopping
      · rw [if_pos hstopping, ensure, if_neg (fun hother => hother hstopping)]
        rfl
      · rw [if_neg hstopping, ensure, if_pos hstopping]
        by_cases hrevoked : row.recoveryState = .revoked
        · rw [if_pos hrevoked, ensure, if_neg (fun hother => hother hrevoked)]
          rfl
        · rw [if_neg hrevoked, ensure, if_pos hrevoked, activateProgram, Fault.later_never]
          cases hparams : bindParams [now, Rust.saturatingAdd now headlessIdleTimeoutSecs] with
          | error error =>
              rw [run_writing_refused rfl hparams]
              rfl
          | ok =>
              have hinstant := bindParams_instant hparams
              rw [run_writing rfl hparams, run_writing rfl hinstant, writing,
                Program.run_ok rfl (by rw [hinstant]; rfl)]
              rfl

/-- A reservation is atomic exactly if it grants no route, its insertion is refused, or
the grant does not fail. -/
theorem reserveMcpActorSessionProgram_atomic_iff :
    (reserveMcpActorSessionProgram pubkey agentSlug channel now).Atomic fault ↔
      Rust.isBlank channel ∨ fault.Outside 1 2 ∨
        bindParams [now, Rust.saturatingAdd now headlessIdleTimeoutSecs] ≠ .ok () := by
  rw [Program.atomic_iff]
  constructor
  · intro hatomic
    by_contra hinside
    rw [not_or, not_or, not_not] at hinside
    obtain ⟨hnamed, hfault, hparams⟩ := hinside
    obtain ⟨place, error, rfl, hfirst, hlast⟩ := Fault.not_outside hfault
    obtain rfl : place = 1 := by omega
    obtain ⟨inserted, hinserted, hfound⟩ : ∃ inserted : Store,
        Store.empty.insertActor pubkey agentSlug channel now = .ok ((), inserted) ∧
          inserted.sessions.find? pubkey ≠ none := by
      rw [insertActor, hparams]
      refine ⟨_, rfl, ?_⟩
      rw [Table.find?_insertOrIgnore]
      exact (if_pos rfl).trans_ne (Option.some_ne_none _)
    have hrun : (reserveMcpActorSessionProgram pubkey agentSlug channel now).run (.after 1 error)
        Store.empty = (grantRouteProgram pubkey channel now).run (.after 0 error) inserted := by
      rw [reserveMcpActorSessionProgram, Program.statement_bind, Program.run_ok rfl hinserted,
        Program.done_bind]
      rfl
    rw [grantRouteProgram, if_neg hnamed, writing, Program.run_now rfl] at hrun
    -- the fault leaves the session of the first statement behind
    have hsame : inserted = Store.empty := hatomic _ _ _ hrun
    rw [hsame] at hfound
    exact hfound rfl
  · intro hsafe store error after hfailed
    rw [reserveMcpActorSessionProgram, Program.statement_bind] at hfailed
    cases hnow : fault.now with
    | some failure =>
        rw [Program.run_now hnow] at hfailed
        cases hfailed
        rfl
    | none =>
        cases hinsert : store.insertActor pubkey agentSlug channel now with
        | error failure =>
            rw [Program.run_error hnow hinsert] at hfailed
            cases hfailed
            rfl
        | ok result =>
            obtain ⟨⟨⟩, inserted⟩ := result
            obtain ⟨hparams, _, _⟩ := insertActor_ok hinsert
            rw [Program.run_ok hnow hinsert, Program.done_bind] at hfailed
            by_cases hnamed : Rust.isBlank channel
            · rw [grantRouteProgram, if_pos hnamed] at hfailed
              cases hfailed
            · have hfault :=
                (hsafe.resolve_left hnamed).resolve_right (fun hrefused => hrefused hparams)
              obtain ⟨_, hgrant⟩ := hfault.shift.resolve_left (by simp [hnow])
              obtain ⟨hlater, _⟩ := hgrant.uncons
              rcases grantRouteProgram_cases pubkey hnamed now fault.later inserted with
                ⟨failure, hcause, _⟩ | ⟨_, _, hgranted⟩
              · rw [hlater, bindParams_instant hparams] at hcause
                rcases hcause with hcause | ⟨_, hcause⟩ <;> cases hcause
              · rw [hgranted] at hfailed
                cases hfailed

/-- An activation reads the session first and refuses one that stops or is revoked. -/
theorem activateMcpActorProgram_cases (actorKey pubkey : String) (now : Nat)
    (fault : Fault StoreError) (store : Store) :
    (∃ error, (activateMcpActorProgram actorKey pubkey now).run fault store =
        (.error error, store)) ∨
      fault.now = none ∧ (activateMcpActorProgram actorKey pubkey now).run fault store =
        (activateProgram actorKey pubkey now).run fault.later store := by
  rw [activateMcpActorProgram, Program.read, Program.statement_bind]
  cases hnow : fault.now with
  | some error => exact Or.inl ⟨error, Program.run_now hnow⟩
  | none =>
      rw [Program.run_ok hnow rfl, Program.done_bind]
      cases hrow : store.getSession pubkey with
      | none => exact Or.inl ⟨.noRow, rfl⟩
      | some row =>
          dsimp only
          by_cases hstopping : row.runtimeState = .stopping
          · rw [if_pos hstopping]
            exact Or.inl ⟨.actorStopping, rfl⟩
          · rw [if_neg hstopping]
            by_cases hrevoked : row.recoveryState = .revoked
            · rw [if_pos hrevoked]
              exact Or.inl ⟨.actorRevoked, rfl⟩
            · rw [if_neg hrevoked]
              exact Or.inr ⟨rfl, rfl⟩

/-- The session of an actor that has stopped. -/
def stoppedActor (pubkey : String) : Session :=
  { Session.mcpActor pubkey "" "" 0 with runtimeState := .stopped }

def stoppedActorStore (pubkey : String) : Store :=
  { Store.empty with sessions := Table.empty.insertOrIgnore (stoppedActor pubkey) }

theorem find?_stoppedActorStore (pubkey : String) :
    (stoppedActorStore pubkey).sessions.find? pubkey = some (stoppedActor pubkey) := by
  rw [stoppedActorStore, Table.find?_insertOrIgnore]
  exact if_pos rfl

/-- A fault after the session was activated leaves it running. -/
theorem activateMcpActor_fault (actorKey pubkey : String)
    (hparams : bindParams [now, Rust.saturatingAdd now headlessIdleTimeoutSecs] = .ok ())
    {place : Nat} (error : StoreError) (hplace : place < 2) :
    ∃ after, (activateMcpActorProgram actorKey pubkey now).run (.after (place + 2) error)
        (stoppedActorStore pubkey) = (.error error, after) ∧ after.InUse pubkey := by
  have hfind := find?_stoppedActorStore pubkey
  have hused : ((stoppedActorStore pubkey).updateSession pubkey (fun row => row.mcpActivated now)
      (fun _ => rfl)).InUse pubkey := by
    exact ⟨_, find?_updateSession _ _ hfind, Or.inl rfl⟩
  have hrun : (activateMcpActorProgram actorKey pubkey now).run (.after (place + 2) error)
      (stoppedActorStore pubkey) =
        (activateProgram actorKey pubkey now).run (.after (place + 1) error)
          (stoppedActorStore pubkey) := by
    rw [activateMcpActorProgram, Program.read, Program.statement_bind, Program.run_ok rfl rfl,
      Program.done_bind, getSession, hfind]
    rfl
  rw [hrun, activateProgram, run_writing rfl hparams, Fault.later_succ]
  cases place with
  | zero => exact ⟨_, run_writing_now rfl, hused⟩
  | succ place =>
      obtain rfl : place = 0 := by omega
      rw [run_writing rfl (bindParams_instant hparams), Fault.later_succ, writing,
        Program.run_now rfl]
      exact ⟨_, rfl, hused⟩

/-- An activation is atomic exactly if its first update is refused or no later one
fails. -/
theorem activateMcpActorProgram_atomic_iff :
    (activateMcpActorProgram actorKey pubkey now).Atomic fault ↔
      fault.Outside 2 4 ∨
        bindParams [now, Rust.saturatingAdd now headlessIdleTimeoutSecs] ≠ .ok () := by
  rw [Program.atomic_iff]
  constructor
  · intro hatomic
    by_contra hinside
    rw [not_or, not_not] at hinside
    obtain ⟨hfault, hparams⟩ := hinside
    obtain ⟨place, error, rfl, hfirst, hlast⟩ := Fault.not_outside hfault
    obtain ⟨place, rfl⟩ : ∃ later, place = later + 2 := ⟨place - 2, by omega⟩
    obtain ⟨after, hrun, hused⟩ := activateMcpActor_fault actorKey pubkey hparams error
      (show place < 2 by omega)
    rw [hatomic _ _ _ hrun] at hused
    have hstopped : (stoppedActorStore pubkey).StoppedSession pubkey :=
      ⟨_, find?_stoppedActorStore pubkey, rfl⟩
    exact hstopped.not_inUse hused
  · intro hsafe store error after hfailed
    rcases activateMcpActorProgram_cases actorKey pubkey now fault store with
      ⟨failure, hrun⟩ | ⟨hnow, hrun⟩
    · rw [hrun] at hfailed
      cases hfailed
      rfl
    · rw [hrun, activateProgram] at hfailed
      cases hlater : fault.later.now with
      | some failure =>
          rw [run_writing_now hlater] at hfailed
          cases hfailed
          rfl
      | none =>
          cases hparams : bindParams [now, Rust.saturatingAdd now headlessIdleTimeoutSecs] with
          | error failure =>
              rw [run_writing_refused hlater hparams] at hfailed
              cases hfailed
              rfl
          | ok =>
              have hinstant := bindParams_instant hparams
              have hfault := hsafe.resolve_right (fun hrefused => hrefused hparams)
              obtain ⟨_, hfirst⟩ := hfault.shift.resolve_left (by simp [hnow])
              obtain ⟨_, hwrites⟩ := hfirst.shift.resolve_left (by simp [hlater])
              obtain ⟨hsecond, hrest⟩ := hwrites.uncons
              obtain ⟨hthird, _⟩ := hrest.uncons
              rw [run_writing hlater hparams, run_writing hsecond hinstant, writing,
                Program.run_ok hthird (by rw [hinstant]; rfl)] at hfailed
              cases hfailed

end Actors

/-! ## The claim that runs in a transaction -/

theorem stageProgram_never (hparams : bindParams [now] = .ok ()) (rows : List InboxRow)
    (store : Store) :
    (stageProgram now rows).run .never store = (.ok (), store.stageFromInbox rows now) := by
  induction rows generalizing store with
  | nil => rfl
  | cons row rest ih =>
      rw [stageProgram, run_writing rfl hparams, Fault.later_never, ih]
      rfl

/-- Without a fault the statements claim every pending row as the atomic write does. -/
theorem claimPendingProgram_never (store : Store) :
    (claimPendingProgram targetPubkey now).run .never store =
      Script.attempt (fun store : Store => store.claimPendingForPubkey targetPubkey now) store := by
  rw [claimPendingProgram, Script.attempt, claimPendingForPubkey]
  cases hparams : bindParams [now] with
  | error error =>
      rw [run_writing_refused rfl hparams]
      rfl
  | ok =>
      rw [run_writing rfl hparams, Program.run_map, Fault.later_never, stageProgram_never hparams]
      rfl

end Store

/-! ## Atomicity -/

/-- The writes of several statements that run outside a transaction. -/
inductive MultiWrite where
  | replaceRole (channelH : String) (role : RosterRole) (pubkeys : List String) (updatedAt : Nat)
  | claimPendingEventIdsForPubkey (eventIds : List String) (targetPubkey : String) (now : Nat)
  | setSessionChannel (pubkey channelH : String) (now : Nat)
  | setSessionContext (pubkey channelH workRoot readinessParent : String) (now : Nat)
  | reserveMcpActorSession (pubkey agentSlug channel : String) (now : Nat)
  | activateMcpActor (actorKey pubkey : String) (now : Nat)

namespace MultiWrite

/-- In every state the write returns with all its effects, or fails and leaves the
state as it was. -/
def Atomic (fault : Fault StoreError) : MultiWrite → Prop
  | .replaceRole channelH role pubkeys updatedAt =>
      (Database.replaceRoleProgram channelH role pubkeys updatedAt).Atomic fault
  | .claimPendingEventIdsForPubkey eventIds targetPubkey now =>
      (Store.claimPendingEventIdsProgram eventIds targetPubkey now).Atomic fault
  | .setSessionChannel pubkey channelH now =>
      (Store.setSessionChannelProgram pubkey channelH now).Atomic fault
  | .setSessionContext pubkey channelH workRoot readinessParent now =>
      (Store.setSessionContextProgram pubkey channelH workRoot readinessParent now).Atomic fault
  | .reserveMcpActorSession pubkey agentSlug channel now =>
      (Store.reserveMcpActorSessionProgram pubkey agentSlug channel now).Atomic fault
  | .activateMcpActor actorKey pubkey now =>
      (Store.activateMcpActorProgram actorKey pubkey now).Atomic fault

/-- No statement fails after one that wrote.  An instant that no statement can bind fails
the first write, except that a move binds its instant in the second. -/
def Safe (fault : Fault StoreError) : MultiWrite → Prop
  | .replaceRole _ _ pubkeys updatedAt =>
      fault.Outside 2 (3 + pubkeys.length) ∨ Rust.i64Max < updatedAt
  | .claimPendingEventIdsForPubkey eventIds _ now =>
      fault.Outside 1 eventIds.length ∨ Rust.i64Max < now
  | .setSessionChannel _ channelH now =>
      Rust.isBlank channelH ∨ fault.now ≠ none ∨ fault.Outside 1 2 ∧ now ≤ Rust.i64Max
  | .setSessionContext _ channelH _ _ now =>
      Rust.isBlank channelH ∨ fault.now ≠ none ∨ fault.Outside 1 2 ∧ now ≤ Rust.i64Max
  | .reserveMcpActorSession _ _ channel now =>
      Rust.isBlank channel ∨ fault.Outside 1 2 ∨
        Rust.i64Max < Rust.saturatingAdd now headlessIdleTimeoutSecs
  | .activateMcpActor _ _ now =>
      fault.Outside 2 4 ∨ Rust.i64Max < Rust.saturatingAdd now headlessIdleTimeoutSecs

theorem bindParams_instant_iff {instant : Nat} :
    bindParams [instant] = .ok () ↔ instant ≤ Rust.i64Max := by
  simp

theorem bindParams_launch_iff {now : Nat} :
    bindParams [now, Rust.saturatingAdd now headlessIdleTimeoutSecs] = .ok () ↔
      Rust.saturatingAdd now headlessIdleTimeoutSecs ≤ Rust.i64Max := by
  rw [bindParams_eq_ok]
  constructor
  · intro hall
    exact hall _ (List.mem_cons_of_mem _ List.mem_cons_self)
  · intro hbound param hparam
    simp only [List.mem_cons, List.not_mem_nil, or_false] at hparam
    rcases hparam with hinstant | hdeadline
    · rw [Rust.saturatingAdd_le_i64Max hbound] at hbound
      rw [hinstant]
      exact (Nat.le_add_right _ _).trans hbound
    · rw [hdeadline]
      exact hbound

/-- A session of another channel than the one it moves to. -/
theorem exists_moved {pubkey channelH : String} {assign : Session → Session}
    (hassign : ∀ row, (assign row).channelH = channelH) (hnamed : ¬ Rust.isBlank channelH) :
    ∃ row : Session, row.pubkey = pubkey ∧ assign row ≠ row := by
  refine ⟨Session.mcpActor pubkey "" "" 0, rfl, fun hsame => hnamed ?_⟩
  rw [← hassign (Session.mcpActor pubkey "" "" 0), hsame]
  rfl

/-- A write of several statements is atomic exactly if no statement fails after one that
wrote. -/
theorem atomic_iff_safe (fault : Fault StoreError) (op : MultiWrite) :
    op.Atomic fault ↔ op.Safe fault := by
  cases op with
  | replaceRole channelH role pubkeys updatedAt =>
      rw [Atomic, Safe, Database.replaceRoleProgram_atomic_iff, Ne, bindParams_instant_iff, not_le]
  | claimPendingEventIdsForPubkey eventIds targetPubkey now =>
      rw [Atomic, Safe, Store.claimPendingEventIdsProgram_atomic_iff, Ne, bindParams_instant_iff,
        not_le]
  | setSessionChannel pubkey channelH now
  | setSessionContext pubkey channelH workRoot readinessParent now =>
      rw [Safe, ← bindParams_instant_iff]
      exact Store.moveSessionProgram_atomic_iff (exists_moved (fun _ => rfl))
  | reserveMcpActorSession pubkey agentSlug channel now =>
      rw [Atomic, Safe, Store.reserveMcpActorSessionProgram_atomic_iff, Ne, bindParams_launch_iff,
        not_le]
  | activateMcpActor actorKey pubkey now =>
      rw [Atomic, Safe, Store.activateMcpActorProgram_atomic_iff, Ne, bindParams_launch_iff,
        not_le]

/-- The claim of all pending rows runs in a transaction and is atomic wherever it
fails. -/
theorem claimPending_allOrNothing (targetPubkey : String) (now : Nat) (fault : Fault StoreError)
    (commitFails : Option StoreError) (store : Store) :
    Program.AllOrNothing
      ((Store.claimPendingProgram targetPubkey now).runTransaction fault commitFails store)
      (Script.attempt (fun store : Store => store.claimPendingForPubkey targetPubkey now) store)
      store := by
  have hfaultless : (Store.claimPendingProgram targetPubkey now).runTransaction .never none store =
      Script.attempt (fun store : Store => store.claimPendingForPubkey targetPubkey now)
        store := by
    unfold Program.runTransaction
    rw [Store.claimPendingProgram_never, Script.attempt]
    cases store.claimPendingForPubkey targetPubkey now with
    | ok result | error error => rfl
  rw [← hfaultless]
  exact Program.runTransaction_allOrNothing _ _ _ _

/-! ## What is left behind -/

/-- A running session with two pending rows. -/
def twoPending : Store :=
  run Store.step Store.empty
    [launchOf "agent" 5,
      .inbox (.enqueueInbox "first" "agent" "peer" "root" "hello" 6),
      .inbox (.enqueueInbox "second" "agent" "peer" "root" "again" 7)]

/-- A channel with two members. -/
def twoMembers : Database :=
  commit (Database.empty.replaceRole "root" .member ["ana", "bo"] 1) Database.empty

/-- The second claim fails. -/
def claimInterrupted : Except StoreError (List InboxRow) × Store :=
  (Store.claimPendingEventIdsProgram ["first", "second"] "agent" 8).run
    (.after 1 (.constraintViolation "inbox")) twoPending

/-- The first insertion of a new roster fails. -/
def rosterInterrupted : Except StoreError Unit × Database :=
  (Database.replaceRoleProgram "root" .member ["ana", "cy"] 2).run
    (.after 3 (.constraintViolation "relay_channel_members")) twoMembers

/-- The grant of the new route fails. -/
def moveInterrupted : Except StoreError Unit × Store :=
  (Store.setSessionChannelProgram "agent" "side" 8).run
    (.after 1 (.constraintViolation "session_channels")) twoPending

/-- The first row is delivered to nobody; the channel is empty as of the time of the new
roster; the session has moved to a channel that it has no route to. -/
theorem writes_left_behind :
    (¬ ∀ fault op, MultiWrite.Atomic fault op) ∧
    (claimInterrupted.1.isOk = false ∧
      (claimInterrupted.2.inbox.find? ("first", "agent")).map InboxRow.state =
        some .delivered) ∧
    (rosterInterrupted.1.isOk = false ∧ rosterInterrupted.2.channelMembers.rows = [] ∧
      rosterInterrupted.2.memberSetTime "root" .member = some 2) ∧
    moveInterrupted.1.isOk = false ∧
      (moveInterrupted.2.getSession "agent").map Session.channelH = some "side" ∧
      moveInterrupted.2.sessionChannels.find? ("agent", "side") = none := by
  refine ⟨?_, by decide +kernel, by decide +kernel, by decide +kernel⟩
  intro hall
  have hatomic := hall (.after 1 (.constraintViolation "inbox"))
    (.claimPendingEventIdsForPubkey ["first", "second"] "agent" 8)
  have hkept := Program.atomic_iff.mp hatomic twoPending (.constraintViolation "inbox") _ rfl
  have hrow := congrArg (fun store : Store =>
    (store.inbox.find? ("first", "agent")).map InboxRow.state) hkept
  revert hrow
  decide +kernel

end MultiWrite

end Mosaico
