import Mathlib.Data.List.Infix
import Mosaico.Fabric.OperatorSessions

/-!
# Channel paths

A slash path below a root channel is resolved name by name, and every missing
channel on the way is provisioned on the relay.  The path may have any length.
The walk from the provisioned channel back to its root has a bound, and it is run
for every channel of the machine whenever a session's view is captured; the last
section says what that bound and a single dangling channel cost.

The relay round trip that makes a channel ready is a parameter.
-/

namespace Mosaico

open Relational Transition Forest

/-- `str::eq_ignore_ascii_case`. -/
def eqIgnoreAsciiCase (left right : String) : Bool :=
  left.toList.map Char.toLower = right.toList.map Char.toLower

/-- The names on a channel path, relative to `root`, or `none` for a malformed
path. -/
def canonicalSegments (root reference : String) : Option (List String) :=
  let reference := (Rust.trim reference).toList
  if reference = [] ∨ '.' ∈ reference ∨ reference.getLast? = some '/' ∨
      ['/', '/'] <:+: reference then none
  else
    let absolute := reference.head? = some '/'
    let path := if absolute then reference.tail else reference
    let segments := (path.splitOn '/').map (fun segment => Rust.trim (String.ofList segment))
    if "" ∈ segments then none
    else if absolute then
      if segments.head? = some root then some segments.tail else none
    else some segments

/-- Why a channel path cannot be resolved. -/
inductive ResolveError where
  | invalidPath (root reference : String)
  | alreadyRoot (segment root : String)
  | notFound (name : String)
  | notProvisioned (name channelH parent : String)
  | store (error : StoreError)
  deriving DecidableEq, Repr

/-- The text of an error.  `debug` is Rust's `{:?}` rendering of a string. -/
def ResolveError.text (debug : String → String) : ResolveError → String
  | .invalidPath root reference =>
      "invalid channel path " ++ debug reference ++ "; use a relative slash path or /" ++ root ++
        "/child"
  | .alreadyRoot segment root =>
      segment ++ " is already the workspace root channel; use " ++ debug root ++ " instead"
  | .notFound name => "channel " ++ name ++ " not found"
  | .notProvisioned name channelH parent =>
      "relay did not provision channel " ++ debug name ++ " (id " ++ channelH ++ ", parent " ++
        parent ++ "); its kind:39000 never materialized"
  | .store error => error.text debug

/-- What the resolver uses besides the database: the relay round trip that makes a
channel ready below a parent (`false` when it degrades), and the opaque id it draws
for a name below a parent. -/
structure ProvisionEnv where
  ensureReady : Database → String → String → String → Bool × Database
  opaqueId : String → String → String

namespace Database

/-- Resolve a name with local knowledge only.  The root asking for itself gets
itself. -/
def resolveLocally (db : Database) (parent name : String) : Option String :=
  if parent = name then some name else db.channelIdForName parent name

/-- Reserve an id for a channel name, or find the id reserved earlier. -/
def reserveChannelResolutionIntent (db : Database) (parent name proposed : String) (now : Nat) :
    Except StoreError (String × Database) := do
  bindParams [now]
  let intents := db.resolutionIntents.insertOrIgnore
    { parent := parent, name := name, channelH := proposed, createdAt := now }
  match intents.find? (parent, name) with
  | some row => return (row.channelH, { db with resolutionIntents := intents })
  | none => throw .noRow

/-- Resolve a channel name below `parent`, provisioning the channel when it is
missing.  A reservation outlives a failed provisioning. -/
def resolveChannel (db : Database) (env : ProvisionEnv) (parent name : String) (now : Nat)
    (createIfAbsent : Bool) : Except ResolveError String × Database :=
  match db.resolveLocally parent name with
  | some channelH => (.ok channelH, db)
  | none =>
      if createIfAbsent = false then (.error (.notFound name), db)
      else match db.reserveChannelResolutionIntent parent name (env.opaqueId parent name) now with
        | .error error => (.error (.store error), db)
        | .ok (channelH, reserved) =>
            match env.ensureReady reserved parent name channelH with
            | (true, ready) => (.ok channelH, ready)
            | (false, degraded) => (.error (.notProvisioned name channelH parent), degraded)

/-- Resolve the remaining segments of a path below `parent`. -/
def resolveSegments (env : ProvisionEnv) (root : String) (now : Nat) (createIfAbsent : Bool) :
    Database → String → List String → Except ResolveError String × Database
  | db, parent, [] => (.ok parent, db)
  | db, parent, segment :: rest =>
      if parent = root ∧ eqIgnoreAsciiCase segment root = true then
        (.error (.alreadyRoot segment root), db)
      else match db.resolveChannel env parent segment now createIfAbsent with
        | (.ok channelH, next) => resolveSegments env root now createIfAbsent next channelH rest
        | (.error error, next) => (.error error, next)

/-- Resolve a slash path within `root`.  There is no depth cap. -/
def resolveChannelPath (db : Database) (env : ProvisionEnv) (root reference : String) (now : Nat)
    (createIfAbsent : Bool) : Except ResolveError String × Database :=
  match canonicalSegments root reference with
  | none => (.error (.invalidPath root reference), db)
  | some segments => resolveSegments env root now createIfAbsent db root segments

/-! ## What a resolution leaves in place -/

/-- The channels and reservations of one database are still in another. -/
structure Extends (before after : Database) : Prop where
  links : ∀ channelH link, before.parentLinks channelH = some link →
    after.parentLinks channelH = some link
  intents : ∀ row ∈ before.resolutionIntents.rows, row ∈ after.resolutionIntents.rows

theorem Extends.refl (db : Database) : db.Extends db :=
  ⟨fun _ _ hlink => hlink, fun _ hrow => hrow⟩

variable {after db : Database} {parent name channelH root : String} {now : Nat} {env : ProvisionEnv}
  {createIfAbsent : Bool}

theorem Extends.trans {before middle : Database} (hfirst : before.Extends middle)
    (hsecond : middle.Extends after) : before.Extends after := by
  constructor
  · intro channelH link hlink
    exact hsecond.links channelH link (hfirst.links channelH link hlink)
  · intro row hrow
    exact hsecond.intents row (hfirst.intents row hrow)

/-- A channel that the relay made ready has metadata, and the round trip unmakes
nothing. -/
structure EnsuresReady (env : ProvisionEnv) : Prop where
  extends_of_ready : ∀ db parent name channelH ready,
    env.ensureReady db parent name channelH = (true, ready) → db.Extends ready
  known_of_ready : ∀ db parent name channelH ready,
    env.ensureReady db parent name channelH = (true, ready) → ready.parentLinks channelH ≠ none

/-- The root is a root channel, no channel has the empty id, and the relay placed
every reserved channel below the parent it was reserved for. -/
structure WellPlaced (db : Database) (root : String) : Prop where
  rootKnown : db.parentLinks root = some none
  idsNonempty : db.parentLinks "" = none
  reserved : ∀ row ∈ db.resolutionIntents.rows, db.parentLinks row.channelH ≠ none →
    db.parentLinks row.channelH = some (some row.parent)

theorem extends_reserve {reserved : Database} {proposed : String}
    (hok : db.reserveChannelResolutionIntent parent name proposed now =
      .ok (channelH, reserved)) :
    db.Extends reserved ∧ ∃ row ∈ reserved.resolutionIntents.rows,
      row.parent = parent ∧ row.channelH = channelH := by
  simp only [reserveChannelResolutionIntent, bind_eq_ok] at hok
  obtain ⟨_, _, hok⟩ := hok
  split at hok
  · rename_i row hrow
    simp only [pure_eq_ok, Prod.mk.injEq] at hok
    obtain ⟨rfl, rfl⟩ := hok
    refine ⟨⟨fun _ _ hlink => hlink, ?_⟩, row, Table.mem_of_find? hrow, ?_, rfl⟩
    · intro other hother
      exact Table.mem_insertOrIgnore_of_mem hother
    · have hkey := Table.key_of_find? hrow
      exact congrArg Prod.fst hkey
  · cases hok

theorem parentLinks_of_resolveLocally
    (hlocal : db.resolveLocally parent name = some channelH) (hne : parent ≠ name)
    (hparent : parent ≠ "") : db.parentLinks channelH = some (some parent) := by
  rw [resolveLocally, if_neg hne, channelIdForName, Option.map_eq_some_iff] at hlocal
  obtain ⟨row, hrow, rfl⟩ := hlocal
  have hmem : row ∈ db.channels.rows := List.mem_of_find?_eq_some hrow
  have hcolumns : row.parent = parent ∧ row.name = name := by
    simpa using List.find?_some hrow
  have hget : db.getChannel row.channelH = some row := Table.mem_rows_iff.mp hmem
  rw [parentLinks, hget, Option.map_some, Channel.parentLink, hcolumns.1, if_neg hparent]

/-- One name resolves locally, or to a reserved channel that has become ready. -/
theorem resolveChannel_ok (hready : EnsuresReady env)
    (hok : db.resolveChannel env parent name now createIfAbsent = (.ok channelH, after)) :
    (db.resolveLocally parent name = some channelH ∧ after = db) ∨
      (db.Extends after ∧ after.parentLinks channelH ≠ none ∧
        ∃ row ∈ after.resolutionIntents.rows, row.parent = parent ∧ row.channelH = channelH) := by
  rw [resolveChannel] at hok
  split at hok
  · rename_i found hlocal
    cases hok
    exact Or.inl ⟨hlocal, rfl⟩
  · right
    split at hok
    · cases hok
    · split at hok
      · cases hok
      · rename_i reservedH reserved hreserve
        obtain ⟨hreserved, row, hrow, hrowParent, hrowChannel⟩ := extends_reserve hreserve
        split at hok
        · rename_i ready hgate
          cases hok
          have hextends := hready.extends_of_ready _ _ _ _ _ hgate
          have hknown := hready.known_of_ready _ _ _ _ _ hgate
          exact ⟨hreserved.trans hextends, hknown,
            row, hextends.intents row hrow, hrowParent, hrowChannel⟩
        · cases hok

theorem extends_resolveChannel (hready : EnsuresReady env)
    (hok : db.resolveChannel env parent name now createIfAbsent = (.ok channelH, after)) :
    db.Extends after := by
  rcases resolveChannel_ok hready hok with ⟨_, rfl⟩ | ⟨hextends, _⟩
  · exact Extends.refl after
  · exact hextends

theorem extends_resolveSegments (hready : EnsuresReady env) {segments : List String} {leaf : String}
    (hok : resolveSegments env root now createIfAbsent db parent segments = (.ok leaf, after)) :
    db.Extends after := by
  induction segments generalizing db parent with
  | nil =>
      rw [resolveSegments] at hok
      cases hok
      exact Extends.refl after
  | cons segment rest ih =>
      rw [resolveSegments] at hok
      split at hok
      · cases hok
      · split at hok
        · rename_i channelH next hnext
          exact (extends_resolveChannel hready hnext).trans (ih hok)
        · cases hok

/-- One name goes one level down in the database that the whole resolution leaves,
unless it is the id of the parent. -/
theorem parentLinks_of_resolveChannel {next : Database} (hready : EnsuresReady env)
    (hok : db.resolveChannel env parent name now createIfAbsent = (.ok channelH, next))
    (hextends : next.Extends after) (hplaced : after.WellPlaced root)
    (hparent : after.parentLinks parent ≠ none) :
    (parent = name ∧ channelH = parent) ∨ after.parentLinks channelH = some (some parent) := by
  have hnonempty : parent ≠ "" := by
    rintro rfl
    exact hparent hplaced.idsNonempty
  rcases resolveChannel_ok hready hok with ⟨hlocal, rfl⟩ | ⟨_, hknown, row, hrow, rfl, rfl⟩
  · by_cases hself : parent = name
    · rw [resolveLocally, if_pos hself, Option.some.injEq] at hlocal
      exact Or.inl ⟨hself, (hself.trans hlocal).symm⟩
    · exact Or.inr (hextends.links _ _ (parentLinks_of_resolveLocally hlocal hself hnonempty))
  · obtain ⟨link, hlink⟩ := Option.ne_none_iff_exists'.mp hknown
    refine Or.inr (hplaced.reserved row (hextends.intents row hrow) ?_)
    rw [hextends.links _ _ hlink]
    exact Option.some_ne_none link

/-- The resolved channel lies below the start, one level for every name, not
counting names that are ids of channels themselves. -/
theorem rooted_of_resolveSegments (hready : EnsuresReady env)
    (hplaced : after.WellPlaced root) {segments : List String} {leaf : String} {depth : Nat}
    (hok : resolveSegments env root now createIfAbsent db parent segments = (.ok leaf, after))
    (hparent : Rooted after.parentLinks parent root depth) :
    ∃ below ≤ segments.length, Rooted after.parentLinks leaf root (depth + below) ∧
      ((∀ segment ∈ segments, after.parentLinks segment = none) → below = segments.length) := by
  induction segments generalizing db parent depth with
  | nil =>
      rw [resolveSegments] at hok
      cases hok
      exact ⟨0, Nat.le_refl 0, hparent, fun _ => rfl⟩
  | cons segment rest ih =>
      rw [resolveSegments] at hok
      split at hok
      · cases hok
      · split at hok
        · rename_i channelH next hnext
          have hextends : next.Extends after := extends_resolveSegments hready hok
          rcases parentLinks_of_resolveChannel hready hnext hextends hplaced hparent.known with
            ⟨hself, rfl⟩ | hlink
          · obtain ⟨below, hbelow, hrooted, _⟩ := ih hok hparent
            refine ⟨below, Nat.le_succ_of_le hbelow, hrooted, ?_⟩
            intro hnames
            have hunknown : after.parentLinks segment = none :=
              hnames segment List.mem_cons_self
            rw [← hself] at hunknown
            exact absurd hunknown hparent.known
          · obtain ⟨below, hbelow, hrooted, hexact⟩ := ih hok (.child hlink hparent)
            have hassoc : depth + 1 + below = depth + (below + 1) := by omega
            rw [hassoc] at hrooted
            refine ⟨below + 1, Nat.succ_le_succ hbelow, hrooted, ?_⟩
            intro hnames
            have hrest : below = rest.length :=
              hexact (fun name hname => hnames name (List.mem_cons_of_mem segment hname))
            rw [hrest, List.length_cons]
        · cases hok

/-! ## The ancestry of one channel and the view of another -/

/-- A path of fewer names than the bound leads to a channel whose root is resolved;
a longer path of names that are no ids does not. -/
theorem rootChannelOf_resolveChannelPath (hready : EnsuresReady env)
    {reference leaf : String} {segments : List String}
    (hsegments : canonicalSegments root reference = some segments)
    (hok : db.resolveChannelPath env root reference now createIfAbsent = (.ok leaf, after))
    (hplaced : after.WellPlaced root) :
    (segments.length < maxChannelParentDepth → after.rootChannelOf leaf = .ok (some root)) ∧
      ((∀ segment ∈ segments, after.parentLinks segment = none) →
        after.rootChannelOf leaf = .ok (some root) →
        segments.length < maxChannelParentDepth) := by
  have hresolved : resolveSegments env root now createIfAbsent db root segments =
      (.ok leaf, after) := by
    rw [resolveChannelPath, hsegments] at hok
    exact hok
  obtain ⟨below, hbelow, hrooted, hexact⟩ :=
    rooted_of_resolveSegments hready hplaced hresolved (.root hplaced.rootKnown)
  rw [rootChannelOf_eq_some_iff]
  constructor
  · intro hshort
    exact ⟨0 + below, by omega, hrooted⟩
  · rintro hnames ⟨depth, hdepth, hother⟩
    have hsame : depth = 0 + below := (hother.unique hrooted).2
    have hlength : below = segments.length := hexact hnames
    omega

/-- A session's row is in the operator's list exactly when the list is projected at
all. -/
theorem projectSessions_contains_iff {npub : String → Option String}
    {endpoints : List OperatorEndpoint} {session : Session}
    (hsession : session ∈ db.store.sessions.rows) :
    (∃ rows, db.projectSessions npub endpoints = .ok rows ∧
      ∃ row ∈ rows, row.pubkey = session.pubkey) ↔
      ∃ rows, db.projectSessions npub endpoints = .ok rows := by
  constructor
  · rintro ⟨rows, hrows, _⟩
    exact ⟨rows, hrows⟩
  · rintro ⟨rows, hrows⟩
    refine ⟨rows, hrows, ?_⟩
    simp only [projectSessions, bind_eq_ok, pure_eq_ok] at hrows
    obtain ⟨listed, hlisted, unbound, _, rfl⟩ := hrows
    obtain ⟨row, hrow, hcompute⟩ := exists_mem_mapM_ok hlisted (Store.mem_listSessions.mpr hsession)
    refine ⟨row, List.mem_append_left _ hrow, ?_⟩
    simp only [sessionRow, bind_eq_ok] at hcompute
    obtain ⟨workspaces, _, hcompute⟩ := hcompute
    split at hcompute
    · cases hcompute
    · cases hcompute
      rfl

/-- What a channel costs the others.  The view of a session is captured exactly when
its scope and every channel that is not archived have a root; a session is listed
for the operator exactly when the routes of every session have one; and the path
of a provisioned channel leads back to its root exactly when it is shorter than the
bound. -/
theorem foreignAncestry_iff {provision : ProvisionEnv} (hready : EnsuresReady provision)
    (env : CaptureEnv) (npub : String → Option String) :
    (∀ (db : Database) (input : FabricContextInput),
      (∃ inputs, db.captureInputs env input = .ok inputs) ↔ db.Resolves input.scope) ∧
    (∀ (db : Database) (endpoints : List OperatorEndpoint), ∀ session ∈ db.store.sessions.rows,
      (∃ rows, db.projectSessions npub endpoints = .ok rows ∧
        ∃ row ∈ rows, row.pubkey = session.pubkey) ↔
      (∀ other ∈ db.store.sessions.rows, (npub other.pubkey).isSome = true ∧
        ∀ route ∈ db.store.sessionChannels.rows, route.pubkey = other.pubkey →
          db.Resolvable route.channelH) ∧
      ∀ endpoint ∈ db.unboundEndpoints endpoints, db.Resolvable endpoint.root) ∧
    (∀ (db after : Database) (root reference leaf : String) (segments : List String) (now : Nat)
      (createIfAbsent : Bool), canonicalSegments root reference = some segments →
      db.resolveChannelPath provision root reference now createIfAbsent = (.ok leaf, after) →
      after.WellPlaced root →
      (segments.length < maxChannelParentDepth → after.rootChannelOf leaf = .ok (some root)) ∧
      ((∀ segment ∈ segments, after.parentLinks segment = none) →
        after.rootChannelOf leaf = .ok (some root) →
        segments.length < maxChannelParentDepth)) := by
  refine ⟨fun db input => captureInputs_ok_iff, ?_, ?_⟩
  · intro db endpoints session hsession
    rw [projectSessions_contains_iff hsession]
    exact projectSessions_ok_iff
  · intro db after root reference leaf segments now createIfAbsent hsegments hok hplaced
    exact rootChannelOf_resolveChannelPath hready hsegments hok hplaced

/-- Materialize channel metadata in the order given. -/
def materialize (db : Database) (channels : List Channel) : Database :=
  channels.foldl (fun db channel => commit
    (db.upsertChannel channel.channelH channel.name channel.about channel.parent
      channel.createdAt) db) db

/-- A named channel as its creation publishes it. -/
def publishedChannel (channelH parent : String) : Channel where
  channelH := channelH
  name := channelH
  about := ""
  parent := parent
  createdAt := 1
  updatedAt := 1

/-- A session launched in a root channel and joined to it. -/
def launchedDatabase : Database :=
  ({ Database.empty with
    store := run Store.step Store.empty
      [launchOf "agent" 1, .standing (.grantSessionRoute "agent" "root" 1)] }).materialize
    [publishedChannel "root" ""]

/-- A relay that creates every unknown channel and echoes its metadata at once. -/
def grantingRelay : ProvisionEnv where
  ensureReady := fun db parent name channelH =>
    if (db.getChannel channelH).isSome then (true, db)
    else match db.upsertChannel channelH name "" parent 1 with
      | .ok (_, ready) => (true, ready)
      | .error _ => (false, db)
  opaqueId := fun parent name => parent ++ "-" ++ name

theorem parentLinks_upsertChannel_of_ne {about other : String} {createdAt : Nat} {value : Unit}
    (hok : db.upsertChannel channelH name about parent createdAt = .ok (value, after))
    (hne : other ≠ channelH) : after.parentLinks other = db.parentLinks other := by
  simp only [upsertChannel, bind_eq_ok, pure_eq_ok, Prod.mk.injEq] at hok
  obtain ⟨_, _, _, _, _, rfl⟩ := hok
  rw [parentLinks, getChannel]
  dsimp only
  rw [Table.find?_upsert, if_neg hne]
  rfl

theorem grantingRelay_ensuresReady : EnsuresReady grantingRelay := by
  constructor
  · intro db parent name channelH ready hready
    simp only [grantingRelay] at hready
    split at hready
    · cases hready
      exact Extends.refl db
    · rename_i hunknown
      split at hready
      · rename_i hupsert
        cases hready
        constructor
        · intro other link hlink
          have hne : other ≠ channelH := by
            rintro rfl
            rw [Option.not_isSome_iff_eq_none] at hunknown
            rw [parentLinks, hunknown] at hlink
            cases hlink
          rw [parentLinks_upsertChannel_of_ne hupsert hne]
          exact hlink
        · intro row hrow
          simp only [upsertChannel, bind_eq_ok, pure_eq_ok, Prod.mk.injEq] at hupsert
          obtain ⟨_, _, _, _, _, rfl⟩ := hupsert
          exact hrow
      · cases hready
  · intro db parent name channelH ready hready
    simp only [grantingRelay] at hready
    split at hready
    · rename_i hknown
      cases hready
      simpa [parentLinks, Option.isSome_iff_ne_none] using hknown
    · split at hready
      · rename_i hupsert
        cases hready
        simp only [upsertChannel, bind_eq_ok, pure_eq_ok, Prod.mk.injEq] at hupsert
        obtain ⟨_, _, _, _, _, rfl⟩ := hupsert
        simp [parentLinks, getChannel, Table.find?_upsert]
      · cases hready

/-- A path of two names, resolved on the granting relay. -/
def twoNames : Except ResolveError String × Database :=
  launchedDatabase.resolveChannelPath grantingRelay "root" "/root/a/b" 2 true

theorem twoNames_ok : twoNames = (.ok "root-a-b", twoNames.2) := by
  have hleaf : twoNames.1 = .ok "root-a-b" := by decide +kernel
  rw [← hleaf]

theorem twoNames_wellPlaced : twoNames.2.WellPlaced "root" where
  rootKnown := by decide +kernel
  idsNonempty := by decide +kernel
  reserved := by decide +kernel

/-- A path of two names that the resolver provisions leads back to its root. -/
theorem foreignAncestry_iff_two_names :
    twoNames.2.rootChannelOf "root-a-b" = .ok (some "root") := by
  have hsegments : canonicalSegments "root" "/root/a/b" = some ["a", "b"] := by decide +kernel
  have hshort : ["a", "b"].length < maxChannelParentDepth := by decide
  exact ((foreignAncestry_iff grantingRelay_ensuresReady
    { parseTags := fun _ => none, debug := id, statusCaps := fun _ _ => [] } some).2.2
      launchedDatabase twoNames.2 "root" "/root/a/b" "root-a-b" ["a", "b"] 2 true hsegments
      twoNames_ok twoNames_wellPlaced).1 hshort

/-- One channel that arrived before its parent fails the capture for a session in a
root channel. -/
theorem foreignAncestry_breaks_capture :
    ¬ ∀ (db : Database) (env : CaptureEnv) (input : FabricContextInput) (session : Session)
      (root : String) (depth : Nat), input.session = some session →
      session ∈ db.store.sessions.rows → input.scope = session.channelH →
      depth < maxChannelParentDepth → Rooted db.parentLinks session.channelH root depth →
      ∃ inputs, db.captureInputs env input = .ok inputs := by
  intro hclaim
  let db := launchedDatabase.materialize [publishedChannel "stray" "gone"]
  obtain ⟨session, hsession⟩ : ∃ session, db.store.sessions.find? "agent" = some session :=
    Option.isSome_iff_exists.mp (by decide)
  have hchannel : session.channelH = "root" := by
    have hcolumn : (db.store.sessions.find? "agent").map Session.channelH = some "root" := by
      decide
    rw [hsession] at hcolumn
    exact Option.some.inj hcolumn
  have hroot : Rooted db.parentLinks session.channelH "root" 0 := by
    rw [hchannel]
    exact .root (by decide)
  have hcaptured := hclaim db
    { parseTags := fun _ => none, debug := id, statusCaps := fun _ _ => [] }
    { session := some session
      scope := session.channelH
      selfPubkey := session.pubkey
      backendPubkey := ""
      forcedMessages := []
      warnings := [] }
    session "root" 0 rfl (Table.mem_of_find? hsession) rfl (by decide) hroot
  have hresolves := captureInputs_ok_iff.mp hcaptured
  have hstray : db.Resolvable "stray" :=
    hresolves.2 (publishedChannel "stray" "gone") (by decide)
  obtain ⟨top, hresolved⟩ := rootForChannel_ok_iff.mpr hstray
  have herror : db.rootForChannel "stray" = .error (.incompleteAncestry "stray") := by decide
  rw [herror] at hresolved
  cases hresolved

end Database

end Mosaico
