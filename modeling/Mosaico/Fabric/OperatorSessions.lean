import Mosaico.Fabric.Capture

/-!
# The operator's session list

The projection of every local session, together with the live endpoints that
belong to none of them.  Sessions are shown under the workspaces of their routes,
so the projection resolves the root of every route of every session.

Of the columns of a row only the identity and the workspaces are modelled; `npub`
is the bech32 encoder.
-/

namespace Mosaico

open Relational Transition

/-- The launch record of an endpoint, and whether it still lives. -/
structure OperatorEndpoint where
  id : String
  root : String
  cwd : String
  live : Bool
  deriving DecidableEq, Repr

inductive OperatorError where
  | ancestry (error : AncestryError)
  | invalidPubkey (pubkey : String)
  deriving DecidableEq, Repr

structure WorkspaceValue where
  id : String
  name : String
  path : Option String
  channels : List (String × String)
  deriving DecidableEq, Repr

/-- One row of the list; an endpoint without a session has an empty pubkey. -/
structure OperatorRow where
  pubkey : String
  npub : String
  running : Bool
  workspaces : List WorkspaceValue
  deriving DecidableEq, Repr

/-- The kind of locator under which a transport registers its endpoints. -/
def transportLocatorKind (transport : String) : Option String :=
  if transport = "pty" then some locatorPty
  else if transport = "acp" then some locatorAcp
  else if transport = "app-server" then some locatorAppServer
  else none

namespace Store

/-- The id of the hosted endpoint bound to a session. -/
def hostedEndpointId (store : Store) (rec : Session) : Option String :=
  (transportLocatorKind rec.admittedTransport).bind (fun kind =>
    (store.sessionLocators.rows.find? (fun row => row.pubkey = rec.pubkey ∧
      row.runtimeGeneration = rec.runtimeGeneration ∧ row.locatorKind = kind ∧
      row.harness = rec.observedHarness)).map SessionLocator.locatorValue)

/-- Most recently active first. -/
def listSessions (store : Store) : List Session :=
  (store.sessions.rows.insertionSort (fun left right => left.pubkey ≤ right.pubkey)).insertionSort
    (fun left right => max right.lastSeen (max right.stoppedAt right.createdAt) ≤
      max left.lastSeen (max left.stoppedAt left.createdAt))

theorem mem_listSessions {store : Store} {rec : Session} :
    rec ∈ store.listSessions ↔ rec ∈ store.sessions.rows := by
  rw [listSessions, List.mem_insertionSort, List.mem_insertionSort]

end Store

namespace Database

def channelName (db : Database) (channelH : String) : String :=
  ((db.getChannel channelH).bind Channel.humanName).getD channelH

def workspaceValue (db : Database) (grouped : List (String × String)) (root : String) :
    Except AncestryError WorkspaceValue := do
  let path ← db.pathForChannel root
  return {
    id := root
    name := db.channelName root
    path := path
    channels := (grouped.filter (fun entry => entry.1 = root)).map
      (fun entry => (entry.2, db.channelName entry.2)) }

/-- The workspaces of a session's routes. -/
def sessionWorkspaces (db : Database) (pubkey : String) :
    Except AncestryError (List WorkspaceValue) := do
  let grouped ← (db.store.listSessionRoutes pubkey).mapM (fun route => do
    let root ← db.rootForChannel route.1
    return (root, route.1))
  (sortDedup (grouped.map Prod.fst)).mapM (db.workspaceValue grouped)

/-- An ancestry failure, as the list reports it. -/
def orAncestry {α : Type} (outcome : Except AncestryError α) : Except OperatorError α :=
  match outcome with
  | .ok value => .ok value
  | .error error => .error (.ancestry error)

def sessionRow (db : Database) (npub : String → Option String) (rec : Session) :
    Except OperatorError OperatorRow := do
  let workspaces ← orAncestry (db.sessionWorkspaces rec.pubkey)
  match npub rec.pubkey with
  | none => throw (.invalidPubkey rec.pubkey)
  | some encoded =>
      return {
        pubkey := rec.pubkey
        npub := encoded
        running := rec.runtimeState = .running
        workspaces := workspaces }

def unboundEndpointRow (db : Database) (endpoint : OperatorEndpoint) :
    Except OperatorError OperatorRow := do
  let path ← orAncestry (db.pathForChannel endpoint.root)
  return {
    pubkey := ""
    npub := ""
    running := true
    workspaces := [{
      id := endpoint.root
      name := db.channelName endpoint.root
      path := some (path.getD endpoint.cwd)
      channels := [(endpoint.root, db.channelName endpoint.root)] }] }

/-- The live endpoints that no running session projects. -/
def unboundEndpoints (db : Database) (endpoints : List OperatorEndpoint) :
    List OperatorEndpoint :=
  let projected := (db.store.listSessions.filter (fun rec => rec.runtimeState = .running)).filterMap
    db.store.hostedEndpointId
  (endpoints.filter (fun endpoint => endpoint.live && !projected.contains endpoint.id)).insertionSort
    (fun left right => left.id ≤ right.id)

def projectSessions (db : Database) (npub : String → Option String)
    (endpoints : List OperatorEndpoint) : Except OperatorError (List OperatorRow) := do
  let rows ← db.store.listSessions.mapM (db.sessionRow npub)
  let unbound ← (db.unboundEndpoints endpoints).mapM db.unboundEndpointRow
  return rows ++ unbound

/-! ## When the list is projected -/

/-- A resolved root is resolvable itself. -/
theorem resolvable_of_root {db : Database} {channelH root : String}
    (hroot : db.rootForChannel channelH = .ok root) : db.Resolvable root := by
  unfold rootForChannel at hroot
  split at hroot
  · cases hroot
    exact Or.inl rfl
  · simp only [bind_eq_ok] at hroot
    obtain ⟨found, hfound, hroot⟩ := hroot
    cases found with
    | some top =>
        cases hroot
        obtain ⟨depth, _, hrooted⟩ := rootChannelOf_eq_some_iff.mp hfound
        exact Or.inr (Or.inl ⟨root, 0, by decide, .root hrooted.root_isRoot⟩)
    | none =>
        have hdangling := rootChannelOf_eq_none_iff.mp hfound
        dsimp only at hroot
        split at hroot
        · rename_i hbound
          cases hroot
          exact Or.inr (Or.inr ⟨hbound, hdangling⟩)
        · cases hroot

theorem pathForChannel_ok_iff {db : Database} {channelH : String} :
    (∃ path, db.pathForChannel channelH = .ok path) ↔ db.Resolvable channelH := by
  rw [← rootForChannel_ok_iff]
  simp only [pathForChannel, bind_eq_ok, pure_eq_ok]
  constructor
  · rintro ⟨_, root, hroot, _⟩
    exact ⟨root, hroot⟩
  · rintro ⟨root, hroot⟩
    exact ⟨_, root, hroot, rfl⟩

theorem exists_orAncestry {α : Type} {outcome : Except AncestryError α} :
    (∃ value, orAncestry outcome = .ok value) ↔ ∃ value, outcome = .ok value := by
  cases outcome with
  | ok value | error error => simp [orAncestry]

theorem mem_listSessionRoutes {store : Store} {pubkey channelH : String} :
    (∃ route ∈ store.listSessionRoutes pubkey, route.1 = channelH) ↔
      ∃ route ∈ store.sessionChannels.rows, route.pubkey = pubkey ∧ route.channelH = channelH := by
  simp [Store.listSessionRoutes, Store.routesOf, Table.mem_select, and_assoc]

/-- The workspaces of a session are resolved exactly when its routes are. -/
theorem sessionWorkspaces_ok_iff {db : Database} {pubkey : String} :
    (∃ workspaces, db.sessionWorkspaces pubkey = .ok workspaces) ↔
      ∀ route ∈ db.store.sessionChannels.rows, route.pubkey = pubkey →
        db.Resolvable route.channelH := by
  have hroutes : (∃ grouped, (db.store.listSessionRoutes pubkey).mapM (fun route => do
      let root ← db.rootForChannel route.1
      return (root, route.1)) = Except.ok grouped) ↔
      ∀ route ∈ db.store.listSessionRoutes pubkey, db.Resolvable route.1 := by
    rw [exists_mapM_eq_ok]
    apply forall₂_congr
    intro route _
    rw [← rootForChannel_ok_iff]
    simp only [bind_eq_ok, pure_eq_ok]
    constructor
    · rintro ⟨_, root, hroot, _⟩
      exact ⟨root, hroot⟩
    · rintro ⟨root, hroot⟩
      exact ⟨_, root, hroot, rfl⟩
  have hrows : (∀ route ∈ db.store.listSessionRoutes pubkey, db.Resolvable route.1) ↔
      ∀ route ∈ db.store.sessionChannels.rows, route.pubkey = pubkey →
        db.Resolvable route.channelH := by
    constructor
    · intro hall route hroute hpubkey
      obtain ⟨listed, hlisted, hchannel⟩ :=
        mem_listSessionRoutes.mpr ⟨route, hroute, hpubkey, rfl⟩
      rw [← hchannel]
      exact hall listed hlisted
    · intro hall listed hlisted
      obtain ⟨route, hroute, hpubkey, hchannel⟩ := mem_listSessionRoutes.mp ⟨listed, hlisted, rfl⟩
      rw [← hchannel]
      exact hall route hroute hpubkey
  rw [← hrows, ← hroutes]
  simp only [sessionWorkspaces, bind_eq_ok]
  constructor
  · rintro ⟨_, grouped, hgrouped, _⟩
    exact ⟨grouped, hgrouped⟩
  · rintro ⟨grouped, hgrouped⟩
    -- every group is keyed by a resolved root
    have hvalues : ∃ workspaces, (sortDedup (grouped.map Prod.fst)).mapM
        (db.workspaceValue grouped) = .ok workspaces := by
      rw [exists_mapM_eq_ok]
      intro root hroot
      rw [mem_sortDedup, List.mem_map] at hroot
      obtain ⟨entry, hentry, rfl⟩ := hroot
      have hresolved : db.Resolvable entry.1 := by
        obtain ⟨route, _, hresult⟩ := mem_mapM_ok hgrouped hentry
        simp only [bind_eq_ok, pure_eq_ok] at hresult
        obtain ⟨root, hroot, rfl⟩ := hresult
        exact resolvable_of_root hroot
      obtain ⟨path, hpath⟩ := pathForChannel_ok_iff.mpr hresolved
      simp only [workspaceValue, bind_eq_ok, pure_eq_ok]
      exact ⟨_, path, hpath, rfl⟩
    obtain ⟨workspaces, hworkspaces⟩ := hvalues
    exact ⟨workspaces, grouped, hgrouped, hworkspaces⟩

/-- The operator's list is projected exactly when every route of every session and
the root of every unbound endpoint resolve, and every pubkey can be encoded. -/
theorem projectSessions_ok_iff {db : Database} {npub : String → Option String}
    {endpoints : List OperatorEndpoint} :
    (∃ rows, db.projectSessions npub endpoints = .ok rows) ↔
      (∀ session ∈ db.store.sessions.rows, (npub session.pubkey).isSome = true ∧
        ∀ route ∈ db.store.sessionChannels.rows, route.pubkey = session.pubkey →
          db.Resolvable route.channelH) ∧
      ∀ endpoint ∈ db.unboundEndpoints endpoints, db.Resolvable endpoint.root := by
  have hsessions : (∃ rows, db.store.listSessions.mapM (db.sessionRow npub) = .ok rows) ↔
      ∀ session ∈ db.store.sessions.rows, (npub session.pubkey).isSome = true ∧
        ∀ route ∈ db.store.sessionChannels.rows, route.pubkey = session.pubkey →
          db.Resolvable route.channelH := by
    rw [exists_mapM_eq_ok]
    simp only [Store.mem_listSessions]
    apply forall₂_congr
    intro session _
    rw [← sessionWorkspaces_ok_iff, ← exists_orAncestry]
    simp only [sessionRow, bind_eq_ok]
    cases npub session.pubkey with
    | none | some encoded => simp
  have hendpoints : (∃ rows, (db.unboundEndpoints endpoints).mapM db.unboundEndpointRow =
      .ok rows) ↔ ∀ endpoint ∈ db.unboundEndpoints endpoints, db.Resolvable endpoint.root := by
    rw [exists_mapM_eq_ok]
    apply forall₂_congr
    intro endpoint _
    rw [← pathForChannel_ok_iff, ← exists_orAncestry]
    simp only [unboundEndpointRow, bind_eq_ok, pure_eq_ok]
    constructor
    · rintro ⟨_, path, hpath, _⟩
      exact ⟨path, hpath⟩
    · rintro ⟨path, hpath⟩
      exact ⟨_, path, hpath, rfl⟩
  rw [← hsessions, ← hendpoints]
  simp only [projectSessions, bind_eq_ok, pure_eq_ok]
  constructor
  · rintro ⟨_, rows, hrows, unbound, hunbound, _⟩
    exact ⟨⟨rows, hrows⟩, unbound, hunbound⟩
  · rintro ⟨⟨rows, hrows⟩, unbound, hunbound⟩
    exact ⟨_, rows, hrows, unbound, hunbound, rfl⟩

end Database

end Mosaico
