import Mosaico.State.LocatorEdges

/-!
# Recovery authority of one pubkey

The two readings of a pubkey's recovery, side by side: the recovery state of its
session and whether it owns a native resume locator.  `Authority.Move` is how the
two are meant to move together, and a move keeps them in agreement.  A session
whose locator is detached without a word is what the moves leave out.
-/

namespace Mosaico

/-- The recovery state of a session, if there is one, next to the presence of
its locator. -/
structure Authority where
  recovery : Option RecoveryState
  native : Bool
  deriving DecidableEq

namespace Authority

/-- A session that is not revoked is ready exactly when the locator exists. -/
def Agrees (authority : Authority) : Prop :=
  ∀ state, authority.recovery = some state → state ≠ .revoked →
    (state = .ready ↔ authority.native = true)

/-- A pubkey without a session owns no locator. -/
def Owned (authority : Authority) : Prop :=
  authority.recovery = none → authority.native = false

/-- How the two readings move together. -/
inductive Move : Authority → Authority → Prop
  | kept (authority : Authority) : Move authority authority
  | reserved (native : Bool) : Move ⟨none, native⟩ ⟨some .pending, native⟩
  | bound (state : RecoveryState) (native : Bool) (hstate : state ≠ .revoked) :
      Move ⟨some state, native⟩ ⟨some .ready, true⟩
  | unbound (state : RecoveryState) (native : Bool) :
      Move ⟨some state, native⟩ ⟨some (if state = .ready then .pending else state), false⟩
  | revoked (state : RecoveryState) (native : Bool) :
      Move ⟨some state, native⟩ ⟨some .revoked, native⟩
  | forgotten (native : Bool) : Move ⟨some .revoked, native⟩ ⟨some .revoked, false⟩

theorem Move.agrees {before after : Authority} (hmove : Move before after)
    (howned : before.Owned) (hagrees : before.Agrees) : after.Agrees := by
  cases hmove with
  | kept => exact hagrees
  | reserved native =>
      have hnative : native = false := howned rfl
      intro state hstate _
      cases hstate
      simp [hnative]
  | bound state native hstate =>
      intro next hnext _
      cases hnext
      simp
  | unbound state native =>
      intro next hnext _
      by_cases hready : state = .ready
      · rw [if_pos hready] at hnext
        cases hnext
        simp
      · rw [if_neg hready] at hnext
        cases hnext
        simpa using hready
  | revoked state native | forgotten native =>
      intro next hnext hrevoked
      cases hnext
      exact absurd rfl hrevoked

theorem Move.owned {before after : Authority} (hmove : Move before after)
    (howned : before.Owned) : after.Owned := by
  cases hmove with
  | kept => exact howned
  | _ =>
      intro hnone
      cases hnone

/-- The locator of a session that is not revoked disappears, and nothing else
happens. -/
structure Detached (before after : Authority) : Prop where
  notRevoked : ∃ state, before.recovery = some state ∧ state ≠ .revoked
  native : before.native = true
  after_eq : after = { before with native := false }

/-- Two agreeing readings disagree after a detachment. -/
theorem Detached.not_agrees {before after : Authority} (hdetached : Detached before after)
    (hagrees : before.Agrees) : ¬ after.Agrees := by
  obtain ⟨⟨state, hstate, hrevoked⟩, hnative, rfl⟩ := hdetached
  have hready : state = .ready := (hagrees state hstate hrevoked).mpr hnative
  intro hafter
  have hlost := (hafter state hstate hrevoked).mp hready
  cases hlost

theorem Detached.owned {before after : Authority} (hdetached : Detached before after) :
    after.Owned := by
  obtain ⟨_, _, rfl⟩ := hdetached
  intro _
  rfl

end Authority

namespace Store

/-- The recovery authority of a pubkey as the store tells it. -/
def authority (store : Store) (pubkey : String) : Authority where
  recovery := store.recoveryOf pubkey
  native := decide (store.hasNativeResume pubkey)

/-- A session that is not revoked is ready exactly when a native resume locator
of its pubkey exists. -/
def ReadinessAgrees (store : Store) (pubkey : String) : Prop :=
  ∀ row, store.sessions.find? pubkey = some row → row.recoveryState ≠ .revoked →
    (row.recoveryState = .ready ↔ store.hasNativeResume pubkey)

theorem authority_agrees_iff {store : Store} {pubkey : String} :
    (store.authority pubkey).Agrees ↔ store.ReadinessAgrees pubkey := by
  simp only [Authority.Agrees, ReadinessAgrees, authority, recoveryOf, decide_eq_true_eq,
    Option.map_eq_some_iff]
  constructor
  · intro hagrees row hfind hrevoked
    exact hagrees row.recoveryState ⟨row, hfind, rfl⟩ hrevoked
  · rintro hagrees state ⟨row, hfind, rfl⟩ hrevoked
    exact hagrees row hfind hrevoked

theorem authority_eq {before after : Store} {pubkey : String}
    (hrecovery : after.recoveryOf pubkey = before.recoveryOf pubkey)
    (hnative : after.hasNativeResume pubkey ↔ before.hasNativeResume pubkey) :
    after.authority pubkey = before.authority pubkey := by
  simp only [authority, hrecovery, Authority.mk.injEq, true_and]
  exact decide_eq_decide.mpr hnative

end Store

end Mosaico
