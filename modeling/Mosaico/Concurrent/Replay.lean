import Mathlib.Data.List.Nodup
import Mathlib.Data.List.Range

/-!
# Following a log behind a copy of it

The entries of a growing log are handed to its followers one by one, in the order
of the log.  A follower that comes late first gets a copy of the beginning.  It
misses an entry that was handed round after the copy and before it joined, and it
gets an entry twice that was copied and handed round later.  Entries are told
apart by their place in the log.
-/

namespace Concurrent

/-- Behind a copy of the first `cut` entries, exactly those below `upto` were handed
over, each once and in order. -/
structure Follows (cut upto : Nat) (handed : List Nat) : Prop where
  cut_le : cut ≤ upto
  handed_eq : handed = List.range' cut (upto - cut)

namespace Follows

variable {cut upto : Nat} {handed : List Nat}

/-- A follower that was handed nothing yet must have a copy of all that was handed
round. -/
theorem nil_iff : Follows cut upto [] ↔ cut = upto := by
  constructor
  · rintro ⟨hle, hnil⟩
    have hempty : upto - cut = 0 := List.range'_eq_nil_iff.mp hnil.symm
    omega
  · rintro rfl
    exact ⟨Nat.le_refl cut, by rw [Nat.sub_self, List.range'_zero]⟩

/-- The next entry is handed round. -/
theorem concat (hfollows : Follows cut upto handed) :
    Follows cut (upto + 1) (handed ++ [upto]) := by
  obtain ⟨hle, rfl⟩ := hfollows
  refine ⟨by omega, ?_⟩
  rw [Nat.succ_sub hle, List.range'_1_concat, Nat.add_sub_cancel' hle]

end Follows

/-- What a follower is handed next extends its part of the log. -/
theorem slice_succ {α : Type} {log : List α} {cut upto : Nat} (hle : cut ≤ upto) {entry : α}
    (hentry : log[upto]? = some entry) :
    (log.take (upto + 1)).drop cut = (log.take upto).drop cut ++ [entry] := by
  obtain ⟨hlt, rfl⟩ := List.getElem?_eq_some_iff.mp hentry
  rw [List.take_succ_eq_append_getElem hlt, List.drop_append_of_le_length]
  rw [List.length_take]
  omega

end Concurrent
