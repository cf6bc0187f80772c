import Mathlib.Data.List.Nodup
import Mathlib.Logic.Function.Basic

/-!
# Tickets

Several parties share a map.  Each key is drawn once and stored with its value;
whoever removes a key redeems it.  As long as no key is drawn twice, no key is
redeemed twice, whatever else drops values from the map.
-/

namespace Concurrent

universe u v

variable {κ : Type u} {α : Type v} [DecidableEq κ]

/-- The map holds drawn keys only, and none that has been redeemed; no key has been redeemed
twice. -/
structure Tickets (live : κ → Option α) (redeemed drawn : List κ) : Prop where
  live_drawn : ∀ key value, live key = some value → key ∈ drawn
  redeemed_drawn : ∀ key ∈ redeemed, key ∈ drawn
  redeemed_dead : ∀ key ∈ redeemed, live key = none
  nodup : redeemed.Nodup

namespace Tickets

variable {live : κ → Option α} {redeemed drawn : List κ}

omit [DecidableEq κ] in
theorem empty : Tickets (fun _ : κ => (none : Option α)) [] [] where
  live_drawn := by simp
  redeemed_drawn := by simp
  redeemed_dead := by simp
  nodup := List.nodup_nil

omit [DecidableEq κ] in
theorem drawMore (htickets : Tickets live redeemed drawn) (more : List κ) :
    Tickets live redeemed (drawn ++ more) where
  live_drawn := fun key value hlive =>
    List.mem_append_left more (htickets.live_drawn key value hlive)
  redeemed_drawn := fun key hkey => List.mem_append_left more (htickets.redeemed_drawn key hkey)
  redeemed_dead := htickets.redeemed_dead
  nodup := htickets.nodup

/-- Storing a value under a key that has just been drawn. -/
theorem insert (htickets : Tickets live redeemed drawn) {key : κ} (hfresh : key ∉ drawn)
    (value : α) : Tickets (Function.update live key (some value)) redeemed (drawn ++ [key]) where
  live_drawn := by
    intro other stored hlive
    by_cases heq : other = key
    · simp [heq]
    · rw [Function.update_of_ne heq] at hlive
      exact List.mem_append_left [key] (htickets.live_drawn other stored hlive)
  redeemed_drawn := fun other hother =>
    List.mem_append_left [key] (htickets.redeemed_drawn other hother)
  redeemed_dead := by
    intro other hother
    -- A redeemed key has been drawn before, and this one has not.
    have hne : other ≠ key := by
      rintro rfl
      exact hfresh (htickets.redeemed_drawn other hother)
    rw [Function.update_of_ne hne]
    exact htickets.redeemed_dead other hother
  nodup := htickets.nodup

/-- Redeeming a key. -/
theorem take (htickets : Tickets live redeemed drawn) {key : κ} {value : α}
    (hlive : live key = some value) :
    Tickets (Function.update live key none) (redeemed ++ [key]) drawn where
  live_drawn := by
    intro other stored hother
    by_cases heq : other = key
    · rw [heq, Function.update_self] at hother
      cases hother
    · rw [Function.update_of_ne heq] at hother
      exact htickets.live_drawn other stored hother
  redeemed_drawn := by
    intro other hother
    rcases List.mem_append.mp hother with hbefore | hnow
    · exact htickets.redeemed_drawn other hbefore
    · rw [List.mem_singleton.mp hnow]
      exact htickets.live_drawn key value hlive
  redeemed_dead := by
    intro other hother
    by_cases heq : other = key
    · rw [heq, Function.update_self]
    · rw [Function.update_of_ne heq]
      refine htickets.redeemed_dead other ?_
      simpa [heq] using hother
  nodup := by
    have hnew : key ∉ redeemed := by
      intro hmem
      rw [htickets.redeemed_dead key hmem] at hlive
      cases hlive
    simpa [List.nodup_append] using ⟨htickets.nodup, fun other hother heq =>
      hnew (heq ▸ hother)⟩

omit [DecidableEq κ] in
/-- Dropping values. -/
theorem filter (htickets : Tickets live redeemed drawn) (keep : α → Bool) :
    Tickets (fun key => (live key).filter keep) redeemed drawn where
  live_drawn := by
    intro key value hlive
    exact htickets.live_drawn key value (Option.filter_eq_some_iff.mp hlive).1
  redeemed_drawn := htickets.redeemed_drawn
  redeemed_dead := by
    intro key hkey
    show (live key).filter keep = none
    rw [htickets.redeemed_dead key hkey]
    rfl
  nodup := htickets.nodup

end Tickets

end Concurrent
