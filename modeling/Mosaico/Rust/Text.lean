import Mathlib.Data.List.DropRight
import Mosaico.Rust.Core

/-!
# Trimmed text and decimal numbers

`str::trim` leaves a text alone exactly when neither end is whitespace, which is
what makes it idempotent and lets trimmed parts be joined.  `str::parse::<u64>`
reads back what `to_string` writes.
-/

namespace Rust

/-! ## Trimming -/

theorem toList_trim (text : String) :
    (trim text).toList = (text.toList.dropWhile isWhitespace).rdropWhile isWhitespace := by
  simp [trim, List.rdropWhile]

/-- A text that no trimming shortens has no whitespace at its ends. -/
theorem trim_eq_self_iff {text : String} :
    trim text = text ↔ (∀ c ∈ text.toList.head?, isWhitespace c = false) ∧
      ∀ c ∈ text.toList.getLast?, isWhitespace c = false := by
  rw [← String.toList_inj, toList_trim]
  constructor
  · intro heq
    have hlength := congrArg List.length heq
    have hprefix := (List.rdropWhile_prefix (p := isWhitespace)
      (l := text.toList.dropWhile isWhitespace)).length_le
    have hsuffix := (List.dropWhile_suffix isWhitespace (l := text.toList)).length_le
    have hdrop : text.toList.dropWhile isWhitespace = text.toList :=
      (List.dropWhile_suffix isWhitespace).eq_of_length (by omega)
    rw [hdrop] at heq
    constructor
    · intro c hc
      have hhead := List.head?_dropWhile_not isWhitespace text.toList
      rw [hdrop, hc] at hhead
      exact hhead
    · intro c hc
      have hne : text.toList ≠ [] := by
        rintro hnil
        rw [hnil] at hc
        cases hc
      have hlast := List.rdropWhile_eq_self_iff.mp heq hne
      rw [List.getLast?_eq_getLast_of_ne_nil hne, Option.mem_some_iff] at hc
      subst hc
      simpa using hlast
  · rintro ⟨hhead, hlast⟩
    have hdrop : text.toList.dropWhile isWhitespace = text.toList := by
      cases hlist : text.toList with
      | nil => rfl
      | cons c rest =>
          have hc : isWhitespace c = false := hhead c (by rw [hlist]; rfl)
          rw [List.dropWhile_cons_of_neg (by simp [hc])]
    rw [hdrop, List.rdropWhile_eq_self_iff]
    intro hne
    have := hlast _ (List.getLast?_eq_getLast_of_ne_nil hne)
    simp [this]

@[simp] theorem trim_trim (text : String) : trim (trim text) = trim text := by
  rw [trim_eq_self_iff]
  constructor
  · intro c hc
    have hprefix := List.rdropWhile_prefix (p := isWhitespace)
      (l := text.toList.dropWhile isWhitespace)
    have hhead := List.head?_dropWhile_not isWhitespace text.toList
    rw [toList_trim] at hc
    obtain ⟨rest, hrest⟩ := hprefix
    rw [← hrest, List.head?_append, hc] at hhead
    exact hhead
  · intro c hc
    rw [toList_trim] at hc
    have hne : (text.toList.dropWhile isWhitespace).rdropWhile isWhitespace ≠ [] := by
      intro hnil
      rw [hnil] at hc
      cases hc
    rw [List.getLast?_eq_getLast_of_ne_nil hne, Option.mem_some_iff] at hc
    subst hc
    simpa using List.rdropWhile_last_not isWhitespace _ hne

/-- Text that starts and ends with trimmed parts is trimmed. -/
theorem trim_append {first middle last : String} (hfirst : trim first = first)
    (hlast : trim last = last) (hstart : first ≠ "") (hend : last ≠ "") :
    trim (first ++ middle ++ last) = first ++ middle ++ last := by
  have hstart' : first.toList ≠ [] := fun hnil => hstart (String.toList_inj.mp hnil)
  have hend' : last.toList ≠ [] := fun hnil => hend (String.toList_inj.mp hnil)
  rw [trim_eq_self_iff] at hfirst hlast ⊢
  simp only [String.toList_append]
  constructor
  · intro c hc
    rw [List.append_assoc, List.head?_append_of_ne_nil _ hstart'] at hc
    exact hfirst.1 c hc
  · intro c hc
    rw [List.getLast?_append_of_ne_nil _ hend'] at hc
    exact hlast.2 c hc

/-! ## Decimal numbers -/

/-- `str::parse::<u64>`: an optional sign, then digits that fit. -/
def parseU64 (text : String) : Option UInt64 :=
  let digits := match text.toList with
    | '+' :: rest => rest
    | chars => chars
  let number := Nat.ofDigitChars 10 digits 0
  if digits ≠ [] ∧ digits.all Char.isDigit = true ∧ number ≤ u64Max then
    some (UInt64.ofNat number)
  else none

/-- `u64::to_string`. -/
def u64ToString (number : UInt64) : String := number.toNat.repr

@[simp] theorem parseU64_u64ToString (number : UInt64) :
    parseU64 (u64ToString number) = some number := by
  have hlist : (u64ToString number).toList = Nat.toDigits 10 number.toNat := by
    rw [u64ToString, Nat.repr_eq_ofList_toDigits, String.toList_ofList]
  have hdigits : ∀ c ∈ Nat.toDigits 10 number.toNat, c.isDigit = true :=
    fun c hc => Nat.isDigit_of_mem_toDigits (by decide) (by decide) hc
  have hne : Nat.toDigits 10 number.toNat ≠ [] := Nat.toDigits_ne_nil
  have hsign : (match Nat.toDigits 10 number.toNat with
      | '+' :: rest => rest
      | chars => chars) = Nat.toDigits 10 number.toNat := by
    split
    · rename_i rest hrest
      have hplus := hdigits '+' (by rw [hrest]; exact List.mem_cons_self)
      exact absurd hplus (by decide)
    · rfl
  have hfits : number.toNat ≤ u64Max := by
    have := number.toNat_lt
    simp only [u64Max]
    omega
  rw [parseU64, hlist, hsign]
  simp only [Nat.ofDigitChars_ten_toDigits]
  rw [if_pos ⟨hne, List.all_eq_true.mpr hdigits, hfits⟩, UInt64.ofNat_toNat]

/-! ## Characters -/

/-- `char::is_control`: the Unicode category `Cc`. -/
def isControl (c : Char) : Bool :=
  c.toNat < 0x20 || (0x7F ≤ c.toNat && c.toNat ≤ 0x9F)

end Rust
