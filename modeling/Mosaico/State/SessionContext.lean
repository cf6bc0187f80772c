import Mosaico.State.SessionRoutes

/-!
# Session context and awareness cursor

The channel a session publishes in, its work root, and the cursor up to which it
has seen the fabric.
-/

namespace Mosaico

open Relational

namespace Store

/-- `now` is the wall clock the source reads for the route. -/
def setSessionChannel (store : Store) (pubkey channelH : String) (now : Nat) :
    Except StoreError (Unit × Store) :=
  let moved : Store := { store with
    sessions := store.sessions.updateWhere (fun row => row.pubkey = pubkey)
      (fun row => { row with channelH := channelH }) }
  moved.grantSessionRoute pubkey channelH now

def setSessionContext (store : Store) (pubkey channelH workRoot readinessParent : String)
    (now : Nat) : Except StoreError (Unit × Store) :=
  let moved : Store := { store with
    sessions := store.sessions.updateWhere (fun row => row.pubkey = pubkey)
      (fun row => { row with
        channelH := channelH
        workRoot := workRoot
        readinessParent := readinessParent }) }
  moved.grantSessionRoute pubkey channelH now

/-- Advance the awareness cursor only if the caller still owns the value it
read. -/
def advanceCursorIfCurrent (store : Store) (pubkey : String) (expected seenCursor : Nat) :
    Except StoreError (Bool × Store) := do
  bindParams [expected, seenCursor]
  return store.updateSessions
    (fun row => row.pubkey = pubkey ∧ row.seenCursor = expected)
    (fun row => { row with seenCursor := seenCursor })

end Store

end Mosaico
