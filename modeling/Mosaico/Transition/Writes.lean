import Mathlib.Data.List.Basic

/-!
# Keyed writes

One cell of a state under a list of inputs.  Each input may write the cell or
leave it alone; when the inputs that hit the cell are all the same input and its
write is idempotent, neither their order nor their number matters.
-/

namespace Transition

universe u v

variable {ι : Type u} {α : Type v} {hits : ι → Prop} {write : ι → α → α}

/-- The cell after the inputs: what an input that hits it writes, or as before. -/
def Wrote (hits : ι → Prop) (write : ι → α → α) (inputs : List ι) (before after : α) : Prop :=
  (∀ input ∈ inputs, hits input → after = write input before) ∧
    ((∀ input ∈ inputs, ¬ hits input) → after = before)

theorem Wrote.nil (value : α) : Wrote hits write [] value value := by
  constructor
  · intro input hinput
    cases hinput
  · intro _
    rfl

/-- One input, as a conditional write. -/
theorem Wrote.single {input : ι} [Decidable (hits input)] {before after : α}
    (hafter : after = if hits input then write input before else before) :
    Wrote hits write [input] before after := by
  constructor
  · intro other hother hhits
    have heq : other = input := List.mem_singleton.mp hother
    rw [heq] at hhits ⊢
    rw [hafter, if_pos hhits]
  · intro hnone
    have hmiss : ¬ hits input := hnone input (List.mem_singleton_self input)
    rw [hafter, if_neg hmiss]

/-- Two lists of inputs, one after the other. -/
theorem Wrote.append {first second : List ι} {before middle after : α}
    (hfirst : Wrote hits write first before middle)
    (hsecond : Wrote hits write second middle after)
    (hidem : ∀ input value, write input (write input value) = write input value)
    (hsame : ∀ left ∈ first, ∀ right ∈ second, hits left → hits right → left = right) :
    Wrote hits write (first ++ second) before after := by
  constructor
  · intro input hinput hhits
    rcases List.mem_append.mp hinput with hleft | hright
    · have hmiddle : middle = write input before := hfirst.1 input hleft hhits
      by_cases hagain : ∃ other ∈ second, hits other
      · -- the second list writes the same value once more
        obtain ⟨other, hother, hotherHits⟩ := hagain
        have heq : input = other := hsame input hleft other hother hhits hotherHits
        have hafter : after = write other middle := hsecond.1 other hother hotherHits
        rw [hafter, hmiddle, ← heq, hidem]
      · have hkept : after = middle :=
          hsecond.2 (fun other hother hotherHits => hagain ⟨other, hother, hotherHits⟩)
        rw [hkept, hmiddle]
    · have hafter : after = write input middle := hsecond.1 input hright hhits
      by_cases hbefore : ∃ other ∈ first, hits other
      · obtain ⟨other, hother, hotherHits⟩ := hbefore
        have heq : other = input := hsame other hother input hright hotherHits hhits
        have hmiddle : middle = write other before := hfirst.1 other hother hotherHits
        rw [hafter, hmiddle, heq, hidem]
      · have hkept : middle = before :=
          hfirst.2 (fun other hother hotherHits => hbefore ⟨other, hother, hotherHits⟩)
        rw [hafter, hkept]
  · intro hnone
    have hkeptSecond : after = middle :=
      hsecond.2 (fun input hinput => hnone input (List.mem_append_right first hinput))
    have hkeptFirst : middle = before :=
      hfirst.2 (fun input hinput => hnone input (List.mem_append_left second hinput))
    rw [hkeptSecond, hkeptFirst]

/-- Only the inputs that hit the cell matter, and only whether they are there. -/
theorem Wrote.congr {first second : List ι} {before left right : α}
    (hfirst : Wrote hits write first before left)
    (hsecond : Wrote hits write second before right)
    (hmem : ∀ input, hits input → (input ∈ first ↔ input ∈ second)) : left = right := by
  by_cases hhit : ∃ input ∈ first, hits input
  · obtain ⟨input, hinput, hhits⟩ := hhit
    have hleft : left = write input before := hfirst.1 input hinput hhits
    have hright : right = write input before :=
      hsecond.1 input ((hmem input hhits).mp hinput) hhits
    rw [hleft, hright]
  · have hleft : left = before :=
      hfirst.2 (fun input hinput hhits => hhit ⟨input, hinput, hhits⟩)
    have hright : right = before :=
      hsecond.2 (fun input hinput hhits => hhit ⟨input, (hmem input hhits).mpr hinput, hhits⟩)
    rw [hleft, hright]

/-- A cell that has changed was hit. -/
theorem Wrote.exists_hit {inputs : List ι} {before after : α}
    (hwrote : Wrote hits write inputs before after) (hchanged : after ≠ before) :
    ∃ input ∈ inputs, hits input := by
  by_contra hnone
  apply hchanged
  apply hwrote.2
  intro input hinput hhits
  exact hnone ⟨input, hinput, hhits⟩

end Transition
