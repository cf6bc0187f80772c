import Mathlib.Data.List.Induction
import Mathlib.Order.Basic

/-!
# The foremost of a list of deliveries

A register that takes a delivery only if it is newer than its content ends with the first
delivery among those of the greatest time.  When one delivery has that time alone, the order
does not matter.
-/

namespace Register

universe u

variable {ε : Type u} {time : ε → Nat}

/-- The content of the register after a delivery. -/
def supersede (time : ε → Nat) (held : Option ε) (next : ε) : Option ε :=
  match held with
  | none => some next
  | some current => if time next ≤ time current then some current else some next

/-- The content of the register after a list of deliveries, in arrival order. -/
def foremost (time : ε → Nat) (deliveries : List ε) : Option ε :=
  deliveries.foldl (supersede time) none

@[simp] theorem foremost_nil : foremost time [] = none := rfl

theorem foremost_concat (deliveries : List ε) (next : ε) :
    foremost time (deliveries ++ [next]) = supersede time (foremost time deliveries) next := by
  simp [foremost, List.foldl_append]

theorem mem_of_foremost {deliveries : List ε} {held : ε}
    (hheld : foremost time deliveries = some held) : held ∈ deliveries := by
  induction deliveries using List.reverseRecOn with
  | nil => cases hheld
  | append_singleton earlier next ih =>
      rw [foremost_concat] at hheld
      unfold supersede at hheld
      split at hheld
      · cases hheld
        simp
      · rename_i current hcurrent
        split at hheld
        · rw [← hcurrent] at hheld
          exact List.mem_append_left _ (ih hheld)
        · cases hheld
          simp

@[simp] theorem foremost_eq_none_iff {deliveries : List ε} :
    foremost time deliveries = none ↔ deliveries = [] := by
  induction deliveries using List.reverseRecOn with
  | nil => simp
  | append_singleton earlier next ih =>
      rw [foremost_concat]
      unfold supersede
      split
      · simp
      · split <;> simp

theorem le_of_foremost {deliveries : List ε} {held : ε}
    (hheld : foremost time deliveries = some held) :
    ∀ delivery ∈ deliveries, time delivery ≤ time held := by
  induction deliveries using List.reverseRecOn generalizing held with
  | nil =>
      intro delivery hdelivery
      cases hdelivery
  | append_singleton earlier next ih =>
      intro delivery hdelivery
      rw [foremost_concat] at hheld
      unfold supersede at hheld
      rw [List.mem_append, List.mem_singleton] at hdelivery
      split at hheld
      · rename_i hnone
        rw [foremost_eq_none_iff] at hnone
        cases hheld
        rcases hdelivery with hearlier | rfl
        · rw [hnone] at hearlier
          cases hearlier
        · exact Nat.le_refl _
      · rename_i current hcurrent
        split at hheld
        · rename_i holder
          cases hheld
          rcases hdelivery with hearlier | rfl
          · exact ih hcurrent delivery hearlier
          · exact holder
        · rename_i hnewer
          cases hheld
          rcases hdelivery with hearlier | rfl
          · have hle := ih hcurrent delivery hearlier
            omega
          · exact Nat.le_refl _

/-- A delivery that alone has the greatest time is what the register ends with. -/
theorem foremost_eq_of_alone {deliveries : List ε} {held : ε} (hheld : held ∈ deliveries)
    (halone : ∀ delivery ∈ deliveries, time held ≤ time delivery → delivery = held) :
    foremost time deliveries = some held := by
  cases hforemost : foremost time deliveries with
  | none =>
      rw [foremost_eq_none_iff] at hforemost
      rw [hforemost] at hheld
      cases hheld
  | some current =>
      have hle := le_of_foremost hforemost held hheld
      rw [halone current (mem_of_foremost hforemost) hle]

/-- Of several deliveries of the greatest time the one that arrives first stays. -/
theorem foremost_cons_of_le {first : ε} {rest : List ε}
    (hle : ∀ delivery ∈ rest, time delivery ≤ time first) :
    foremost time (first :: rest) = some first := by
  induction rest using List.reverseRecOn with
  | nil => rfl
  | append_singleton earlier next ih =>
      have hearlier : ∀ delivery ∈ earlier, time delivery ≤ time first :=
        fun delivery hdelivery => hle delivery (List.mem_append_left _ hdelivery)
      rw [← List.cons_append, foremost_concat, ih hearlier]
      exact if_pos (hle next (by simp))

end Register
