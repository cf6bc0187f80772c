import Mathlib.Algebra.GroupWithZero.Nat
import Mosaico.Text.Tokens

/-!
# Byte positions in a text

A `str` is the UTF-8 encoding of its characters.  `&text[n..]` panics unless byte `n` is
where a character starts or the end of the text, so a text is kept here as the list of its
characters and a byte position is checked when it is used.  `str::find` answers with the
byte position of the first match, which is always such a place.
-/

namespace Rust

open Text (OccursAt)

/-- `str::len`: the number of bytes. -/
def byteLen (text : List Char) : Nat :=
  (text.map Char.utf8Size).sum

/-- `&text[position..]`, or `none` where the slice panics. -/
def sliceFrom : List Char → Nat → Option (List Char)
  | text, 0 => some text
  | [], _ + 1 => none
  | c :: rest, position + 1 =>
      if c.utf8Size ≤ position + 1 then sliceFrom rest (position + 1 - c.utf8Size) else none

/-- `str::find` for a text that is not empty. -/
def find (needle : List Char) : List Char → Option Nat
  | [] => none
  | c :: rest =>
      if needle <+: c :: rest then some 0 else (find needle rest).map (c.utf8Size + ·)

@[simp] theorem byteLen_nil : byteLen [] = 0 := rfl

@[simp] theorem byteLen_cons (c : Char) (rest : List Char) :
    byteLen (c :: rest) = c.utf8Size + byteLen rest := by
  simp [byteLen]

@[simp] theorem byteLen_append (first second : List Char) :
    byteLen (first ++ second) = byteLen first + byteLen second := by
  simp [byteLen]

theorem length_le_byteLen (text : List Char) : text.length ≤ byteLen text := by
  induction text with
  | nil => exact Nat.zero_le _
  | cons c rest ih =>
      have hsize := c.utf8Size_pos
      rw [List.length_cons, byteLen_cons]
      omega

/-! ## Slices -/

theorem sliceFrom_append (front rest : List Char) :
    sliceFrom (front ++ rest) (byteLen front) = some rest := by
  induction front with
  | nil => simp [sliceFrom]
  | cons c front ih =>
      have hsize := c.utf8Size_pos
      obtain ⟨before, hbefore⟩ : ∃ before, byteLen (c :: front) = before + 1 :=
        ⟨byteLen (c :: front) - 1, by rw [byteLen_cons]; omega⟩
      rw [hbefore, List.cons_append, sliceFrom, ← hbefore, byteLen_cons,
        if_pos (Nat.le_add_right _ _), Nat.add_sub_cancel_left, ih]

/-- Past the end of a text there is no slice. -/
theorem sliceFrom_past {text : List Char} {position : Nat} (hpast : byteLen text < position) :
    sliceFrom text position = none := by
  induction text generalizing position with
  | nil =>
      cases position with
      | zero => exact absurd hpast (Nat.not_lt_zero _)
      | succ position => rfl
  | cons c rest ih =>
      cases position with
      | zero => exact absurd hpast (Nat.not_lt_zero _)
      | succ position =>
          rw [byteLen_cons] at hpast
          rw [sliceFrom, if_pos (by omega), ih (by omega)]

/-- Inside the bytes of one character there is no slice. -/
theorem sliceFrom_inside (front : List Char) {c : Char} (rest : List Char) {inner : Nat}
    (hpos : 0 < inner) (hinside : inner < c.utf8Size) :
    sliceFrom (front ++ c :: rest) (byteLen front + inner) = none := by
  induction front with
  | nil =>
      obtain ⟨before, rfl⟩ : ∃ before, inner = before + 1 := ⟨inner - 1, by omega⟩
      rw [List.nil_append, byteLen_nil, Nat.zero_add, sliceFrom, if_neg (by omega)]
  | cons d front ih =>
      obtain ⟨before, hbefore⟩ : ∃ before, byteLen (d :: front) + inner = before + 1 :=
        ⟨byteLen (d :: front) + inner - 1, by omega⟩
      have hrest : before + 1 - d.utf8Size = byteLen front + inner := by
        rw [← hbefore, byteLen_cons]
        omega
      rw [hbefore, List.cons_append, sliceFrom, hrest, ih]
      exact ite_self _

/-! ## Searches -/

theorem find_eq_none {needle text : List Char}
    (hfree : ∀ position, ¬ OccursAt needle text position) : find needle text = none := by
  induction text with
  | nil => rfl
  | cons c rest ih =>
      have hhead : ¬ needle <+: c :: rest := hfree 0
      rw [find, if_neg hhead, ih (fun position => hfree (position + 1))]
      rfl

theorem find_eq_some {needle gap after : List Char} (hneedle : needle ≠ [])
    (hfirst : ∀ position < gap.length, ¬ OccursAt needle (gap ++ (needle ++ after)) position) :
    find needle (gap ++ (needle ++ after)) = some (byteLen gap) := by
  induction gap with
  | nil =>
      obtain ⟨c, rest, rfl⟩ := List.exists_cons_of_ne_nil hneedle
      rw [List.nil_append, List.cons_append, find, ← List.cons_append,
        if_pos (List.prefix_append _ _)]
      rfl
  | cons c gap ih =>
      have hhead : ¬ needle <+: c :: (gap ++ (needle ++ after)) := hfirst 0 (Nat.succ_pos _)
      have hrest : ∀ position < gap.length,
          ¬ OccursAt needle (gap ++ (needle ++ after)) position := by
        intro position hposition
        exact hfirst (position + 1) (Nat.succ_lt_succ hposition)
      rw [List.cons_append, find, if_neg hhead, ih hrest, byteLen_cons]
      rfl

end Rust
