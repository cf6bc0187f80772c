import Mathlib.Data.Set.Lattice
import Mathlib.Order.CompletePartialOrder
import Mathlib.Order.Interval.Set.Basic
import Mosaico.Transition.Run

/-!
# Windows behind a shared cursor

Several parties read one cursor, deliver what lies between the cursor and an
instant of their own, and move the cursor there by compare-and-set.  Whoever moves
the cursor owns the window behind it.  Two things go wrong: a party delivers a
window although the cursor has left its lower end, and a party that owns a window
never delivers it.  As long as neither happens the windows partition what the
cursor has passed.
-/

namespace Concurrent

open Transition

/-- A cursor and what each party has delivered or is bound to deliver. -/
structure Ledger (ι α : Type*) where
  cursor : α
  delivered : ι → Set α

namespace Ledger

variable {ι α : Type*} [LinearOrder α]

/-- Everything that the cursor has passed since `base` is delivered, and nothing
twice. -/
structure Once (base : α) (ledger : Ledger ι α) : Prop where
  disjoint : ∀ i j, i ≠ j → Disjoint (ledger.delivered i) (ledger.delivered j)
  covered : Set.Ioc base ledger.cursor ⊆ ⋃ i, ledger.delivered i

/-- Nothing is delivered that the cursor has not passed. -/
structure Bounded (base : α) (ledger : Ledger ι α) : Prop extends Once base ledger where
  passed : base ≤ ledger.cursor
  within : ∀ i, ledger.delivered i ⊆ Set.Ioc base ledger.cursor

section Moves

variable [DecidableEq ι]

/-- Party `i` delivers `window`, and nothing else, with the cursor at `cursor`. -/
def deliver (ledger : Ledger ι α) (i : ι) (window : Set α) (cursor : α) : Ledger ι α :=
  ⟨cursor, Function.update ledger.delivered i window⟩

omit [LinearOrder α] in
@[simp] theorem cursor_deliver (ledger : Ledger ι α) (i : ι) (window : Set α) (cursor : α) :
    (ledger.deliver i window cursor).cursor = cursor := rfl

omit [LinearOrder α] in
@[simp] theorem delivered_deliver_self (ledger : Ledger ι α) (i : ι) (window : Set α)
    (cursor : α) : (ledger.deliver i window cursor).delivered i = window := by
  simp [deliver]

omit [LinearOrder α] in
theorem delivered_deliver_of_ne (ledger : Ledger ι α) {i j : ι} (hne : j ≠ i) (window : Set α)
    (cursor : α) : (ledger.deliver i window cursor).delivered j = ledger.delivered j := by
  simp [deliver, hne]

omit [LinearOrder α] in
/-- A delivery that changes nothing. -/
@[simp] theorem deliver_self (ledger : Ledger ι α) (i : ι) :
    ledger.deliver i (ledger.delivered i) ledger.cursor = ledger := by
  simp [deliver]

/-- A step either leaves the ledger alone or gives a party the window behind the
cursor that it moves. -/
inductive Regular (before after : Ledger ι α) : Prop where
  | quiet (hsame : after = before)
  | claimed (i : ι) (upto : α) (hidle : before.delivered i = ∅) (hlater : before.cursor < upto)
      (hafter : after = before.deliver i (Set.Ioc before.cursor upto) upto)

/-- A step delivers a window which the cursor has left behind, or takes an owned
window back. -/
inductive Irregular (base : α) (before after : Ledger ι α) : Prop where
  | copied (i : ι) (since upto : α) (hidle : before.delivered i = ∅) (hbase : base ≤ since)
      (hlater : since < upto) (hleft : since < before.cursor)
      (hafter : after = before.deliver i (Set.Ioc since upto) before.cursor)
  | dropped (i : ι) (upto : α) (howned : upto ∈ before.delivered i)
      (hpassed : upto ∈ Set.Ioc base before.cursor)
      (hafter : after = before.deliver i ∅ before.cursor)

variable {base : α} {before after : Ledger ι α}

theorem Regular.cursor_le (hregular : Regular before after) : before.cursor ≤ after.cursor := by
  cases hregular with
  | quiet hsame => rw [hsame]
  | claimed i upto hidle hlater hafter =>
      rw [hafter]
      exact hlater.le

theorem Irregular.cursor_eq (hirregular : Irregular base before after) :
    after.cursor = before.cursor := by
  cases hirregular with
  | copied i since upto hidle hbase hlater hleft hafter | dropped i upto howned hpassed hafter =>
      rw [hafter, cursor_deliver]

omit [DecidableEq ι] in
/-- The window behind the cursor meets no window that was delivered before. -/
theorem Bounded.disjoint_claim (hbounded : Bounded base before) (upto : α) (i : ι) :
    Disjoint (before.delivered i) (Set.Ioc before.cursor upto) := by
  rw [Set.disjoint_left]
  intro instant hdelivered hclaimed
  have hpassed := hbounded.within i hdelivered
  exact absurd hpassed.2 (not_le.mpr hclaimed.1)

theorem Bounded.regular (hbounded : Bounded base before) (hregular : Regular before after) :
    Bounded base after := by
  cases hregular with
  | quiet hsame =>
      rw [hsame]
      exact hbounded
  | claimed i upto hidle hlater hafter =>
      subst hafter
      refine ⟨⟨?_, ?_⟩, hbounded.passed.trans hlater.le, ?_⟩
      · intro j k hne
        by_cases hj : j = i
        · subst hj
          rw [delivered_deliver_self, delivered_deliver_of_ne _ hne.symm]
          exact (hbounded.disjoint_claim upto k).symm
        · by_cases hk : k = i
          · subst hk
            rw [delivered_deliver_self, delivered_deliver_of_ne _ hj]
            exact hbounded.disjoint_claim upto j
          · rw [delivered_deliver_of_ne _ hj, delivered_deliver_of_ne _ hk]
            exact hbounded.disjoint j k hne
      · rintro instant ⟨hbase, hupto⟩
        rw [Set.mem_iUnion]
        rcases le_or_gt instant before.cursor with hpassed | hnew
        · obtain ⟨j, hj⟩ := Set.mem_iUnion.mp (hbounded.covered ⟨hbase, hpassed⟩)
          refine ⟨j, ?_⟩
          have hne : j ≠ i := by
            rintro rfl
            rw [hidle] at hj
            exact hj
          rw [delivered_deliver_of_ne _ hne]
          exact hj
        · refine ⟨i, ?_⟩
          rw [delivered_deliver_self]
          exact ⟨hnew, hupto⟩
      · intro j
        by_cases hj : j = i
        · subst hj
          rw [delivered_deliver_self]
          exact Set.Ioc_subset_Ioc_left hbounded.passed
        · rw [delivered_deliver_of_ne _ hj]
          exact (hbounded.within j).trans (Set.Ioc_subset_Ioc_right hlater.le)

/-- A copied window repeats an instant, and a dropped one leaves an instant out. -/
theorem Once.not_irregular (hbefore : Once base before) (hirregular : Irregular base before after) :
    ¬ Once base after := by
  intro hafter
  cases hirregular with
  | copied i since upto hidle hbase hlater hleft heq =>
      subst heq
      have hrepeated : min upto before.cursor ∈ Set.Ioc since upto :=
        ⟨lt_min hlater hleft, min_le_left _ _⟩
      have hpassed : min upto before.cursor ∈ Set.Ioc base before.cursor :=
        ⟨hbase.trans_lt hrepeated.1, min_le_right _ _⟩
      obtain ⟨j, hj⟩ := Set.mem_iUnion.mp (hbefore.covered hpassed)
      have hne : j ≠ i := by
        rintro rfl
        rw [hidle] at hj
        exact hj
      have hdisjoint := hafter.disjoint j i hne
      rw [delivered_deliver_self, delivered_deliver_of_ne _ hne, Set.disjoint_left] at hdisjoint
      exact hdisjoint hj hrepeated
  | dropped i upto howned hpassed heq =>
      subst heq
      obtain ⟨j, hj⟩ := Set.mem_iUnion.mp (hafter.covered hpassed)
      by_cases hne : j = i
      · subst hne
        rw [delivered_deliver_self] at hj
        exact hj
      · rw [delivered_deliver_of_ne _ hne] at hj
        exact Set.disjoint_left.mp (hbefore.disjoint j i hne) hj howned

/-! ## Runs -/

variable {σ κ : Type*} {step : σ → κ → σ} {guard : σ → κ → Prop} {admissible : κ → Prop}
  {J : σ → Prop} {view : σ → Ledger ι α} {start : σ} {inputs : List κ}

/-- A system whose steps are regular when they meet the guard and irregular when
they miss it delivers everything once, all along a run, exactly if every step meets
the guard. -/
theorem once_iff_guarded (hinputs : ∀ input ∈ inputs, admissible input) (hJ : J start)
    (hstart : Bounded base (view start))
    (hkeep : ∀ state input, J state → admissible input → J (step state input))
    (hregular : ∀ state input, J state → admissible input → guard state input →
      Regular (view state) (view (step state input)))
    (hirregular : ∀ state input, J state → admissible input → ¬ guard state input →
      Irregular base (view state) (view (step state input))) :
    (∀ elapsed, elapsed <+: inputs → Once base (view (run step start elapsed))) ↔
      Guarded step guard start inputs := by
  induction inputs generalizing start with
  | nil =>
      constructor
      · intro _
        trivial
      · intro _ elapsed helapsed
        rw [List.prefix_nil.mp helapsed]
        exact hstart.toOnce
  | cons input rest ih =>
      have hadmissible := hinputs input List.mem_cons_self
      have hrest : ∀ later ∈ rest, admissible later :=
        fun later hlater => hinputs later (List.mem_cons_of_mem input hlater)
      have hnext := hkeep start input hJ hadmissible
      constructor
      · intro hall
        have hguard : guard start input := by
          by_contra hmissed
          exact hstart.toOnce.not_irregular (hirregular start input hJ hadmissible hmissed)
            (hall [input] (by simp))
        have hbounded := hstart.regular (hregular start input hJ hadmissible hguard)
        refine ⟨hguard, (ih hrest hnext hbounded).mp ?_⟩
        intro elapsed helapsed
        exact hall (input :: elapsed) (List.cons_prefix_cons.mpr ⟨rfl, helapsed⟩)
      · rintro ⟨hguard, hguarded⟩ elapsed helapsed
        cases elapsed with
        | nil => exact hstart.toOnce
        | cons first later =>
            obtain ⟨rfl, hlater⟩ := List.cons_prefix_cons.mp helapsed
            have hbounded := hstart.regular (hregular start first hJ hadmissible hguard)
            exact (ih hrest hnext hbounded).mpr hguarded later hlater

end Moves

/-- With nothing delivered, the cursor has passed nothing since its own value. -/
theorem bounded_of_idle {ledger : Ledger ι α} (hidle : ∀ i, ledger.delivered i = ∅) :
    Bounded ledger.cursor ledger := by
  refine ⟨⟨?_, ?_⟩, le_rfl, ?_⟩
  · intro i j _
    rw [hidle i]
    exact Set.empty_disjoint _
  · rw [Set.Ioc_self]
    exact Set.empty_subset _
  · intro i
    rw [hidle i]
    exact Set.empty_subset _

end Ledger

end Concurrent
