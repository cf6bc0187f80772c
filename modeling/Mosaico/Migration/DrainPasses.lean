import Mathlib.Data.List.DropRight
import Mathlib.Data.String.Basic
import Mosaico.Migration.PendingWrites
import Mosaico.Storage.Parts

/-!
# Passes of the drain

Every thirty seconds the drain reads the journal, enqueues its rows in order and writes back
the ones that are left.  A row that is no event is passed over.  A row that the queue does
not take ends the pass, whether the queue is not available or the row can never be taken.
-/

namespace Mosaico

open Storage (Parts)
open Transition

/-! ## The write door -/

/-- An event with what a write of it needs. -/
structure SignedWrite extends SignedEvent where
  pubkey : String
  createdAt : Nat
  content : String
  deriving DecidableEq, Repr

/-- What the publisher composes a group write of. -/
structure GroupTemplate where
  group : String
  author : String
  createdAt : Nat
  kind : Nat
  content : String
  extraTags : List (List String)
  deriving DecidableEq, Repr

/-- A write of the queue.  The route is what composing it for a relay decides. -/
structure WriteIntent (ρ : Type) where
  route : ρ
  payload : SignedWrite
  identityOverride : String
  deriving DecidableEq, Repr

inductive WriteError where
  | noGroup
  | composing (detail : String)
  | submitting (context detail : String)
  | noHost
  | notProfile (kind : Nat)
  | noRoute (id : String)
  deriving DecidableEq, Repr

def WriteError.text : WriteError → String
  | .noGroup => "NIP-29 write has no h tag"
  | .composing detail => "composing NMP group write: " ++ detail
  | .submitting context detail => context ++ ": " ++ detail
  | .noHost => "cannot publish a NIP-29 event without a configured group host"
  | .notProfile kind => "profile enqueue requires kind:0, got " ++ toString kind
  | .noRoute id =>
      "schema-7 pending event " ++ id ++ " has neither one h tag nor profile kind"

/-- The relays of the daemon, in their order, and what the publisher composes for each. -/
structure WriteHost (ρ : Type) where
  relays : List String
  profileRelays : List String
  composeGroupSend : String → GroupTemplate → Except String ρ
  pinnedHost : String → ρ
  /-- There is a group host to publish at. -/
  configured : relays ≠ []
  /-- Profiles go to every group host as well. -/
  relays_subset : relays ⊆ profileRelays

/-- `group_values`, a set in the source. -/
def groupValues (tags : List (List String)) : List String :=
  tags.filterMap fun fields => if fields.head? = some "h" then fields[1]? else none

def eventTemplate (event : SignedWrite) : Except WriteError GroupTemplate :=
  match (groupValues event.tags).min? with
  | none => .error .noGroup
  | some group => .ok
      { group := group
        author := event.pubkey
        createdAt := event.createdAt
        kind := event.kind
        content := event.content
        extraTags := event.tags.filter fun fields =>
          fields.head? != some "h" && fields.head? != some "previous" }

variable {ρ : Type}

/-- `submit_intents`.  `publish` is the answer of the engine. -/
def submitIntents (publish : WriteIntent ρ → Except String Unit) (context : String)
    (intents : List (WriteIntent ρ)) : Except WriteError Unit := do
  let receivers ← (intents.mapM publish).mapError (.submitting context)
  if receivers = [] then .error .noHost else .ok ()

namespace WriteHost

def groupIntent (host : WriteHost ρ) (event : SignedWrite) (template : GroupTemplate)
    (relay : String) : Except WriteError (WriteIntent ρ) := do
  let route ← (host.composeGroupSend relay template).mapError .composing
  return ⟨route, event, event.pubkey⟩

def enqueueGroupEvent (host : WriteHost ρ) (publish : WriteIntent ρ → Except String Unit)
    (event : SignedWrite) : Except WriteError Unit := do
  let template ← eventTemplate event
  let intents ← host.relays.mapM (host.groupIntent event template)
  submitIntents publish "submitting signed NMP write" intents

def enqueueProfileEvent (host : WriteHost ρ) (publish : WriteIntent ρ → Except String Unit)
    (event : SignedWrite) : Except WriteError Unit :=
  if event.kind ≠ 0 then .error (.notProfile event.kind)
  else submitIntents publish "submitting profile NMP write"
    (host.profileRelays.map fun relay => ⟨host.pinnedHost relay, event, event.pubkey⟩)

/-- How the drain enqueues an event. -/
def enqueue (host : WriteHost ρ) (publish : WriteIntent ρ → Except String Unit)
    (event : SignedWrite) : Except WriteError Unit :=
  if hasGroupTag event.toSignedEvent then host.enqueueGroupEvent publish event
  else if event.kind = 0 then host.enqueueProfileEvent publish event
  else .error (.noRoute event.id)

end WriteHost

/-! ## A pass -/

/-- What the loop of `drain_once` has done.  The imported rows stand for their number. -/
structure DrainProgress where
  imported : List String
  remaining : List String
  lastError : String
  deriving DecidableEq, Repr

section Drain

variable (fromJson : String → Except String SignedWrite) (host : WriteHost ρ)

/-- The loop of `drain_once`. -/
def drainLoop (publish : WriteIntent ρ → Except String Unit) :
    List String → DrainProgress → DrainProgress
  | [], progress => progress
  | row :: rest, progress =>
      match fromJson row with
      | .error error => drainLoop publish rest
          { progress with
            lastError := "invalid signed event: " ++ error
            remaining := progress.remaining ++ [row] }
      | .ok event =>
          match host.enqueue publish event with
          | .ok () => drainLoop publish rest
              { progress with imported := progress.imported ++ [row] }
          | .error error =>
              { progress with
                lastError := error.text
                remaining := progress.remaining ++ row :: rest }

inductive Drain where
  | complete (imported : Nat)
  | remaining (imported count : Nat) (error : String)
  deriving DecidableEq, Repr

/-- What the daemon logs about a pass. -/
def DrainProgress.report (progress : DrainProgress) : Drain :=
  if progress.remaining = [] then .complete progress.imported.length
  else .remaining progress.imported.length progress.remaining.length progress.lastError

/-- The journal, and the rows that have been enqueued so far. -/
structure DrainState where
  journal : List String
  enqueued : List String
  deriving DecidableEq, Repr

/-- `loaded` and `replaced` are what reading and writing the journal meet. -/
def drainOnce (publish : WriteIntent ρ → Except String Unit) (loaded replaced : Except String Unit)
    (state : DrainState) : DrainState × Except String Drain :=
  match loaded with
  | .error error => (state, .error error)
  | .ok () =>
    if state.journal = [] then (state, .ok (.complete 0))
    else
      let progress := drainLoop fromJson host publish state.journal ⟨[], [], ""⟩
      let enqueued := state.enqueued ++ progress.imported
      match replaced with
      | .ok () => (⟨progress.remaining, enqueued⟩, .ok progress.report)
      -- The rows before the error are enqueued, and stand in the journal for the next pass.
      | .error error =>
          (⟨state.journal, enqueued⟩,
            .error ("updating pending-write migration journal: " ++ error))

/-- A pass with the queue available, which accepts every write, or with any other answers. -/
inductive DrainPass (ρ : Type) where
  | available
  | answering (publish : WriteIntent ρ → Except String Unit)

def DrainPass.publish : DrainPass ρ → WriteIntent ρ → Except String Unit
  | .available => fun _ => .ok ()
  | .answering publish => publish

def DrainPass.isAvailable : DrainPass ρ → Bool
  | .available => true
  | .answering _ => false

/-- A pass that can read and write the journal. -/
def drainStep (state : DrainState) (pass : DrainPass ρ) : DrainState :=
  (drainOnce fromJson host pass.publish (.ok ()) (.ok ()) state).1

/-- The journal and the queue after the passes. -/
def drained (rows : List String) (passes : List (DrainPass ρ)) : DrainState :=
  run (drainStep fromJson host) ⟨rows, []⟩ passes

/-! ## Rows -/

inductive RowVerdict where
  | malformed
  | rejected
  | acceptable
  deriving DecidableEq, Repr

/-- The publisher refuses nothing of the event's own content. -/
def WriteHost.accepts (event : SignedWrite) : Bool :=
  if hasGroupTag event.toSignedEvent then
    match eventTemplate event with
    | .error _ => false
    | .ok template => host.relays.all fun relay => (host.composeGroupSend relay template).isOk
  else event.kind == 0

def rowVerdict (row : String) : RowVerdict :=
  match fromJson row with
  | .error _ => .malformed
  | .ok event => if host.accepts event then .acceptable else .rejected

/-- Each pass leaves exactly the rows that are not enqueued, in their order, and after
finitely many passes with the queue available every acceptable row is enqueued. -/
structure DrainsAll (rows : List String) : Prop where
  kept : ∀ passes, ∃ taken, Parts taken (drained fromJson host rows passes).journal rows ∧
    taken.Perm (drained fromJson host rows passes).enqueued
  enqueued : ∃ n, ∀ passes : List (DrainPass ρ), n ≤ passes.countP DrainPass.isAvailable →
    ∀ row, rowVerdict fromJson host row = .acceptable →
      (drained fromJson host rows passes).enqueued.count row = rows.count row

/-- No acceptable row stands behind a rejected one. -/
def NoneBehindRejected (rows : List String) : Prop :=
  rows.Pairwise fun earlier later =>
    rowVerdict fromJson host earlier = .rejected → rowVerdict fromJson host later ≠ .acceptable

end Drain

/-! ## Groups -/

/-- An event that the drain routes as a group write has a group. -/
theorem eventTemplate_of_hasGroupTag {event : SignedWrite}
    (hgroup : hasGroupTag event.toSignedEvent = true) :
    ∃ template, eventTemplate event = .ok template := by
  obtain ⟨fields, hfields, htag⟩ := List.any_eq_true.mp hgroup
  rw [Bool.and_eq_true, beq_iff_eq] at htag
  have hmem : ∃ group, group ∈ groupValues event.tags := by
    cases hvalue : fields[1]? with
    | none =>
        rw [hvalue] at htag
        exact absurd htag.2 (by simp)
    | some group =>
        refine ⟨group, List.mem_filterMap.mpr ⟨fields, hfields, ?_⟩⟩
        rw [if_pos htag.1, hvalue]
  obtain ⟨group, hgroup⟩ := hmem
  obtain ⟨first, hfirst⟩ := Option.isSome_iff_exists.mp (List.isSome_min?_of_mem hgroup)
  unfold eventTemplate
  rw [hfirst]
  exact ⟨_, rfl⟩

/-! ## What the queue takes -/

theorem submitIntents_available {context : String} {intents : List (WriteIntent ρ)}
    (hsome : intents ≠ []) : submitIntents (fun _ => .ok ()) context intents = .ok () := by
  have hmap : intents.mapM (fun _ => (.ok () : Except String Unit)) =
      .ok (intents.map fun _ => ()) := mapM_eq_pure_map fun _ _ => rfl
  have hreceivers : (intents.map fun _ => ()) ≠ [] :=
    fun hnil => hsome (List.map_eq_nil_iff.mp hnil)
  unfold submitIntents
  rw [hmap]
  exact if_neg hreceivers

namespace WriteHost

variable {host : WriteHost ρ} {event : SignedWrite}

theorem isOk_groupIntent (template : GroupTemplate) (relay : String) :
    (host.groupIntent event template relay).isOk =
      (host.composeGroupSend relay template).isOk := by
  unfold groupIntent
  cases host.composeGroupSend relay template with
  | error error | ok route => rfl

/-- Whatever the queue answers, it takes no event that the publisher refuses. -/
theorem accepts_of_enqueue {publish : WriteIntent ρ → Except String Unit}
    (hok : host.enqueue publish event = .ok ()) : host.accepts event = true := by
  unfold enqueue at hok
  unfold accepts
  split_ifs at hok ⊢ with hgroup hkind
  · unfold enqueueGroupEvent at hok
    simp only [bind_eq_ok] at hok
    obtain ⟨template, htemplate, intents, hmap, _⟩ := hok
    have hall := isOk_mapM (host.groupIntent event template) host.relays
    simp only [hmap, isOk_groupIntent] at hall
    rw [htemplate]
    exact hall.symm
  · exact beq_iff_eq.mpr hkind

/-- An available queue takes every other event. -/
theorem enqueue_available (haccepts : host.accepts event = true) :
    host.enqueue (fun _ => .ok ()) event = .ok () := by
  unfold accepts at haccepts
  unfold enqueue
  split_ifs at haccepts ⊢ with hgroup hkind
  · obtain ⟨template, htemplate⟩ := eventTemplate_of_hasGroupTag hgroup
    simp only [htemplate] at haccepts
    have hall := isOk_mapM (host.groupIntent event template) host.relays
    simp only [isOk_groupIntent, haccepts] at hall
    unfold enqueueGroupEvent
    cases hmap : host.relays.mapM (host.groupIntent event template) with
    | error error =>
        rw [hmap] at hall
        cases hall
    | ok intents =>
        have hintents : intents ≠ [] := by
          rw [← List.length_pos_iff, length_of_mapM hmap]
          exact List.length_pos_iff.mpr host.configured
        rw [htemplate]
        change (host.relays.mapM (host.groupIntent event template) >>= _) = _
        rw [hmap]
        exact submitIntents_available hintents
  · rw [enqueueProfileEvent, if_neg (not_not_intro hkind)]
    refine submitIntents_available ?_
    obtain ⟨relay, hrelay⟩ := List.exists_mem_of_ne_nil _ host.configured
    exact List.ne_nil_of_mem (List.mem_map_of_mem (host.relays_subset hrelay))
  · exact absurd (beq_iff_eq.mp haccepts) hkind

end WriteHost

/-! ## What a pass leaves -/

section Drain

variable (fromJson : String → Except String SignedWrite) (host : WriteHost ρ)

/-- The rows that the loop imports and those it leaves are the rows it was given. -/
theorem drainLoop_parts (publish : WriteIntent ρ → Except String Unit) (rows : List String)
    (progress : DrainProgress) :
    ∃ taken left, Parts taken left rows ∧
      (drainLoop fromJson host publish rows progress).imported = progress.imported ++ taken ∧
      (drainLoop fromJson host publish rows progress).remaining = progress.remaining ++ left ∧
      ∀ row ∈ taken, rowVerdict fromJson host row = .acceptable := by
  induction rows generalizing progress with
  | nil => exact ⟨[], [], .nil, by simp [drainLoop], by simp [drainLoop], by simp⟩
  | cons row rest ih =>
      rw [drainLoop]
      cases hevent : fromJson row with
      | error error =>
          obtain ⟨taken, left, hparts, himported, hremaining, htaken⟩ := ih
            { progress with
              lastError := "invalid signed event: " ++ error
              remaining := progress.remaining ++ [row] }
          refine ⟨taken, row :: left, .leave row hparts, himported, ?_, htaken⟩
          rw [hremaining, List.append_assoc]
          rfl
      | ok event =>
          cases henqueue : host.enqueue publish event with
          | error error =>
              exact ⟨[], row :: rest, .none _, by simp [henqueue], by simp [henqueue], by simp⟩
          | ok accepted =>
              obtain ⟨taken, left, hparts, himported, hremaining, htaken⟩ := ih
                { progress with imported := progress.imported ++ [row] }
              have haccepts := WriteHost.accepts_of_enqueue henqueue
              refine ⟨row :: taken, left, .take row hparts, ?_, ?_, ?_⟩
              · simp only [henqueue, himported, List.append_assoc]
                rfl
              · simp only [henqueue, hremaining]
              · intro other hother
                rcases List.mem_cons.mp hother with rfl | hother
                · simp only [rowVerdict, hevent, haccepts, if_true]
                · exact htaken other hother

/-- With the queue available the loop leaves the malformed rows up to the first rejected one,
and from there on everything. -/
theorem drainLoop_available (rows : List String) (progress : DrainProgress) :
    (drainLoop fromJson host (fun _ => .ok ()) rows progress).remaining =
      progress.remaining ++
        ((rows.takeWhile fun row => rowVerdict fromJson host row ≠ .rejected).filter
          fun row => rowVerdict fromJson host row = .malformed) ++
        rows.dropWhile fun row => rowVerdict fromJson host row ≠ .rejected := by
  induction rows generalizing progress with
  | nil => simp [drainLoop]
  | cons row rest ih =>
      rw [drainLoop]
      cases hevent : fromJson row with
      | error error =>
          have hverdict : rowVerdict fromJson host row = .malformed := by
            simp only [rowVerdict, hevent]
          simp [ih, hverdict]
      | ok event =>
          by_cases haccepts : host.accepts event = true
          · have hverdict : rowVerdict fromJson host row = .acceptable := by
              simp only [rowVerdict, hevent, haccepts, if_true]
            simp [ih, hverdict, WriteHost.enqueue_available haccepts]
          · have hverdict : rowVerdict fromJson host row = .rejected := by
              simp only [rowVerdict, hevent, haccepts]
              rfl
            cases henqueue : host.enqueue (fun _ => .ok ()) event with
            | ok accepted => exact absurd (WriteHost.accepts_of_enqueue henqueue) haccepts
            | error error => simp [henqueue, hverdict]

/-- A pass that fails has not touched the journal, so no row of it is lost. -/
theorem drainOnce_error {publish : WriteIntent ρ → Except String Unit}
    {loaded replaced : Except String Unit} {state : DrainState} {error : String}
    (herror : (drainOnce fromJson host publish loaded replaced state).2 = .error error) :
    (drainOnce fromJson host publish loaded replaced state).1.journal = state.journal := by
  unfold drainOnce at herror ⊢
  cases loaded with
  | error _ => rfl
  | ok _ =>
      split_ifs at herror ⊢ with hempty
      cases replaced with
      | error _ => rfl
      | ok _ => exact nomatch herror

theorem drainStep_eq (state : DrainState) (pass : DrainPass ρ) :
    drainStep fromJson host state pass =
      { journal := (drainLoop fromJson host pass.publish state.journal ⟨[], [], ""⟩).remaining
        enqueued := state.enqueued ++
          (drainLoop fromJson host pass.publish state.journal ⟨[], [], ""⟩).imported } := by
  unfold drainStep drainOnce
  split_ifs with hempty
  · obtain ⟨journal, enqueued⟩ := state
    subst hempty
    simp [drainLoop]
  · rfl

theorem drainStep_parts (state : DrainState) (pass : DrainPass ρ) :
    ∃ taken, Parts taken (drainStep fromJson host state pass).journal state.journal ∧
      (drainStep fromJson host state pass).enqueued = state.enqueued ++ taken := by
  obtain ⟨taken, left, hparts, himported, hremaining, _⟩ :=
    drainLoop_parts fromJson host pass.publish state.journal ⟨[], [], ""⟩
  rw [drainStep_eq]
  refine ⟨taken, ?_, ?_⟩
  · simp only [hremaining]
    exact hparts
  · simp only [himported]
    rfl

theorem run_parts (state : DrainState) (passes : List (DrainPass ρ)) :
    ∃ taken, Parts taken (run (drainStep fromJson host) state passes).journal state.journal ∧
      (run (drainStep fromJson host) state passes).enqueued.Perm (state.enqueued ++ taken) := by
  induction passes generalizing state with
  | nil => exact ⟨[], .none _, by simp⟩
  | cons pass rest ih =>
      obtain ⟨first, hfirst, hstep⟩ := drainStep_parts fromJson host state pass
      obtain ⟨second, hsecond, hrun⟩ := ih (drainStep fromJson host state pass)
      obtain ⟨both, hboth, hperm⟩ := hfirst.trans hsecond
      refine ⟨both, hboth, hrun.trans ?_⟩
      rw [hstep, List.append_assoc]
      exact (hperm.symm).append_left state.enqueued

/-- No acceptable row stands behind a rejected one exactly if none stands behind the first
rejected one. -/
theorem noneBehindRejected_iff {rows : List String} :
    NoneBehindRejected fromJson host rows ↔
      ∀ row ∈ rows.dropWhile (fun row => rowVerdict fromJson host row ≠ .rejected),
        rowVerdict fromJson host row ≠ .acceptable := by
  induction rows with
  | nil => simp [NoneBehindRejected]
  | cons row rest ih =>
      rw [NoneBehindRejected, List.pairwise_cons]
      by_cases hrejected : rowVerdict fromJson host row = .rejected
      · rw [List.dropWhile_cons_of_neg (by simp [hrejected])]
        constructor
        · rintro ⟨hrest, _⟩ other hother
          rcases List.mem_cons.mp hother with rfl | hother
          · rw [hrejected]
            decide
          · exact hrest other hother hrejected
        · intro hall
          refine ⟨fun other hother _ => hall other (List.mem_cons_of_mem row hother), ?_⟩
          refine ih.mpr ?_
          intro other hother
          exact hall other (List.mem_cons_of_mem row ((List.dropWhile_sublist _).mem hother))
      · rw [List.dropWhile_cons_of_pos (by simp [hrejected])]
        refine ⟨fun hpairs => ih.mp hpairs.2, fun hall => ⟨?_, ih.mpr hall⟩⟩
        exact fun _ _ hagain => absurd hagain hrejected

theorem drainStep_available (state : DrainState) :
    (drainStep fromJson host state .available).journal =
      ((state.journal.takeWhile fun row => rowVerdict fromJson host row ≠ .rejected).filter
          fun row => rowVerdict fromJson host row = .malformed) ++
        state.journal.dropWhile fun row => rowVerdict fromJson host row ≠ .rejected := by
  rw [drainStep_eq]
  exact drainLoop_available fromJson host state.journal ⟨[], [], ""⟩

/-- The rows from the first rejected one on stay behind every pass. -/
theorem dropWhile_replicate (state : DrainState) (n : Nat) :
    ((run (drainStep fromJson host) state (List.replicate n .available)).journal.dropWhile
        fun row => rowVerdict fromJson host row ≠ .rejected) =
      state.journal.dropWhile fun row => rowVerdict fromJson host row ≠ .rejected := by
  induction n generalizing state with
  | zero => rfl
  | succ n ih =>
      rw [List.replicate_succ, run_cons, ih, drainStep_available, List.dropWhile_append_of_pos,
        List.dropWhile_idempotent]
      intro row hrow
      have hmalformed := (List.mem_filter.mp hrow).2
      simp only [decide_eq_true_eq] at hmalformed
      simp [hmalformed]

/-- One pass with the queue available is enough where nothing acceptable is held up. -/
theorem none_acceptable_run {state : DrainState} {passes : List (DrainPass ρ)}
    (hnone : NoneBehindRejected fromJson host state.journal)
    (hpass : 1 ≤ passes.countP DrainPass.isAvailable ∨
      ∀ row ∈ state.journal, rowVerdict fromJson host row ≠ .acceptable) :
    ∀ row ∈ (run (drainStep fromJson host) state passes).journal,
      rowVerdict fromJson host row ≠ .acceptable := by
  induction passes generalizing state with
  | nil => exact hpass.resolve_left (by simp)
  | cons pass rest ih =>
      obtain ⟨taken, hparts, _⟩ := drainStep_parts fromJson host state pass
      have hsublist := hparts.left_sublist
      refine ih (List.Pairwise.sublist hsublist hnone) ?_
      rcases hpass with hcount | hall
      · cases pass with
        | available =>
            refine Or.inr ?_
            intro row hrow
            rw [drainStep_available] at hrow
            rcases List.mem_append.mp hrow with hfront | hback
            · have hmalformed := (List.mem_filter.mp hfront).2
              simp only [decide_eq_true_eq] at hmalformed
              rw [hmalformed]
              decide
            · exact (noneBehindRejected_iff fromJson host).mp hnone row hback
        | answering publish =>
            rw [List.countP_cons_of_neg (by simp [DrainPass.isAvailable])] at hcount
            exact Or.inl hcount
      · exact Or.inr fun row hrow => hall row (hsublist.mem hrow)

/-- The drain enqueues every acceptable row exactly if none stands behind a rejected one; what
it leaves is right in any case. -/
theorem drainsAll_iff (fromJson : String → Except String SignedWrite) (host : WriteHost ρ)
    (rows : List String) :
    DrainsAll fromJson host rows ↔ NoneBehindRejected fromJson host rows := by
  constructor
  · rintro ⟨hkept, n, henqueued⟩
    let passes : List (DrainPass ρ) := List.replicate n .available
    obtain ⟨taken, hparts, hperm⟩ := hkept passes
    refine (noneBehindRejected_iff fromJson host).mpr ?_
    intro row hrow hacceptable
    have hpasses : n ≤ passes.countP DrainPass.isAvailable := by
      rw [List.countP_replicate]
      exact le_refl n
    have hcount := henqueued passes hpasses row hacceptable
    -- However many passes there are, what is behind the first rejected row stays.
    have hleft : row ∈ (drained fromJson host rows passes).journal := by
      rw [← dropWhile_replicate fromJson host ⟨rows, []⟩ n] at hrow
      exact (List.dropWhile_sublist _).mem hrow
    have hsum := hparts.count row
    rw [hperm.count_eq, hcount] at hsum
    have hpos := List.count_pos_iff.mpr hleft
    omega
  · intro hnone
    have hkept : ∀ passes, ∃ taken,
        Parts taken (drained fromJson host rows passes).journal rows ∧
          taken.Perm (drained fromJson host rows passes).enqueued := by
      intro passes
      obtain ⟨taken, hparts, hperm⟩ := run_parts fromJson host
        ⟨rows, []⟩ passes
      exact ⟨taken, hparts, hperm.symm⟩
    refine ⟨hkept, 1, ?_⟩
    intro passes hcount row hacceptable
    obtain ⟨taken, hparts, hperm⟩ := hkept passes
    have hleft : row ∉ (drained fromJson host rows passes).journal :=
      fun hrow => none_acceptable_run fromJson host hnone (Or.inl hcount) row hrow hacceptable
    rw [← hperm.count_eq, ← hparts.count row, List.count_eq_zero_of_not_mem hleft]
    rfl

/-! ## A row that is held up -/

/-- A note without a group, which is no write of the fabric. -/
def orphanNote : SignedWrite where
  id := "orphan"
  kind := 1
  tags := []
  pubkey := "agent"
  createdAt := 1
  content := "note"

def roomChat : SignedWrite where
  id := "chat"
  kind := 9
  tags := [["h", "room"]]
  pubkey := "agent"
  createdAt := 2
  content := "hello"

def readNote (row : String) : Except String SignedWrite :=
  if row = "orphan" then .ok orphanNote else if row = "chat" then .ok roomChat else .error "eof"

def roomHost : WriteHost Unit where
  relays := ["relay"]
  profileRelays := ["relay"]
  composeGroupSend := fun _ _ => .ok ()
  pinnedHost := fun _ => ()
  configured := by decide
  relays_subset := fun _ hrelay => hrelay

/-- A row that can never be routed holds up the chat behind it. -/
theorem orphan_blocks_chat :
    ¬ ∀ (fromJson : String → Except String SignedWrite) (host : WriteHost Unit)
      (rows : List String), DrainsAll fromJson host rows := by
  intro hall
  have hpairs := (drainsAll_iff readNote roomHost ["orphan", "chat"]).mp (hall _ _ _)
  exact absurd (List.rel_of_pairwise_cons hpairs (List.mem_singleton.mpr rfl)) (by decide)

/-! ## Passes and turns -/

/-- What the turns of the handover read of a row. -/
def signedEvent (fromJson : String → Except String SignedWrite) (row : String) :
    Option SignedEvent :=
  match fromJson row with
  | .error _ => none
  | .ok event => some event.toSignedEvent

/-- The loop of a pass is a run of the drain's turns: it ends with the same rows to install. -/
theorem drainLoop_turns (publish : WriteIntent ρ → Except String Unit) (rows : List String)
    (progress : DrainProgress) (state : HandoverState)
    (hphase : state.phase = .draining rows progress.remaining) :
    ∃ answers : List EnqueueAnswer,
      (run (HandoverState.step (signedEvent fromJson)) state
        (answers.map HandoverOp.drainRow)).phase =
          .installing (drainLoop fromJson host publish rows progress).remaining .drain := by
  induction rows generalizing progress state with
  | nil =>
      refine ⟨[.accepted], ?_⟩
      simp [HandoverState.step, hphase, HandoverState.drainRow, drainLoop]
  | cons row rest ih =>
      rw [drainLoop]
      cases hevent : fromJson row with
      | error error =>
          have hturn : (state.step (signedEvent fromJson) (.drainRow .accepted)).phase =
              .draining rest (progress.remaining ++ [row]) := by
            simp [HandoverState.step, hphase, HandoverState.drainRow, signedEvent, hevent]
          obtain ⟨answers, hanswers⟩ := ih
            { progress with
              lastError := "invalid signed event: " ++ error
              remaining := progress.remaining ++ [row] } _ hturn
          exact ⟨.accepted :: answers, hanswers⟩
      | ok event =>
          cases henqueue : host.enqueue publish event with
          | error error =>
              refine ⟨[.rejected false], ?_⟩
              simp only [List.map_cons, List.map_nil, run_cons, run_nil, HandoverState.step, hphase,
                HandoverState.drainRow, signedEvent, hevent, henqueue]
              by_cases hroute : (hasGroupTag event.toSignedEvent || event.kind == 0) = true
              · rw [if_pos hroute]
              · rw [if_neg hroute]
          | ok accepted =>
              -- An event that the queue accepted has a route.
              have hroute : (hasGroupTag event.toSignedEvent || event.kind == 0) = true := by
                by_contra hnone
                simp only [Bool.or_eq_true, not_or, beq_iff_eq] at hnone
                rw [WriteHost.enqueue, if_neg hnone.1, if_neg hnone.2] at henqueue
                cases henqueue
              have hturn : (state.step (signedEvent fromJson) (.drainRow .accepted)).phase =
                  .draining rest progress.remaining := by
                simp [HandoverState.step, hphase, HandoverState.drainRow, signedEvent, hevent,
                  hroute]
              obtain ⟨answers, hanswers⟩ := ih
                { progress with imported := progress.imported ++ [row] } _ hturn
              refine ⟨.accepted :: answers, ?_⟩
              simp only [henqueue]
              exact hanswers

end Drain

end Mosaico
