import Mosaico.Markup.Pieces

/-!
# The two escapings of the fabric document

`text` escapes for the content between tags, `attr` for an attribute value.  Both are chains of
`str::replace`; the ampersand goes first, so no entity is escaped again and a chain is one
substitution character by character.  `unescape` reads the five predefined entities back.
-/

namespace Mosaico.View

/-- `str::replace` of a character. -/
def replaceChar (c : Char) (entity input : String) : String :=
  String.ofList (input.toList.flatMap fun x => if x = c then entity.toList else [x])

def text (input : String) : String :=
  replaceChar '>' "&gt;" (replaceChar '<' "&lt;" (replaceChar '&' "&amp;" input))

def attr (input : String) : String :=
  replaceChar '\'' "&apos;" (replaceChar '"' "&quot;" (text input))

/-- What an XML reader makes of character data. -/
def unescapeChars : List Char → List Char
  | '&' :: 'a' :: 'm' :: 'p' :: ';' :: rest => '&' :: unescapeChars rest
  | '&' :: 'l' :: 't' :: ';' :: rest => '<' :: unescapeChars rest
  | '&' :: 'g' :: 't' :: ';' :: rest => '>' :: unescapeChars rest
  | '&' :: 'q' :: 'u' :: 'o' :: 't' :: ';' :: rest => '"' :: unescapeChars rest
  | '&' :: 'a' :: 'p' :: 'o' :: 's' :: ';' :: rest => '\'' :: unescapeChars rest
  | c :: rest => c :: unescapeChars rest
  | [] => []

def unescape (input : String) : String :=
  String.ofList (unescapeChars input.toList)

/-! ## One substitution a character -/

def textChar (c : Char) : List Char :=
  if c = '&' then ['&', 'a', 'm', 'p', ';']
  else if c = '<' then ['&', 'l', 't', ';']
  else if c = '>' then ['&', 'g', 't', ';']
  else [c]

def attrChar (c : Char) : List Char :=
  if c = '"' then ['&', 'q', 'u', 'o', 't', ';']
  else if c = '\'' then ['&', 'a', 'p', 'o', 's', ';']
  else textChar c

/-- The characters that one of the two escapings replaces. -/
def special : List Char := ['&', '<', '>', '"', '\'']

theorem special_cases {c : Char} (hc : c ∈ special) :
    c = '&' ∨ c = '<' ∨ c = '>' ∨ c = '"' ∨ c = '\'' := by
  simpa [special] using hc

theorem ne_of_plain {c : Char} (hc : c ∉ special) :
    c ≠ '&' ∧ c ≠ '<' ∧ c ≠ '>' ∧ c ≠ '"' ∧ c ≠ '\'' := by
  simpa [special] using hc

theorem textChar_of_plain {c : Char} (hc : c ∉ special) : textChar c = [c] := by
  obtain ⟨hamp, hlt, hgt, -, -⟩ := ne_of_plain hc
  rw [textChar, if_neg hamp, if_neg hlt, if_neg hgt]

theorem attrChar_of_plain {c : Char} (hc : c ∉ special) : attrChar c = [c] := by
  obtain ⟨-, -, -, hquot, hapos⟩ := ne_of_plain hc
  rw [attrChar, if_neg hquot, if_neg hapos, textChar_of_plain hc]

theorem toList_text (input : String) : (text input).toList = input.toList.flatMap textChar := by
  simp only [text, replaceChar, String.toList_ofList, List.flatMap_assoc]
  congr 1
  funext c
  by_cases hc : c ∈ special
  · rcases special_cases hc with rfl | rfl | rfl | rfl | rfl <;> decide
  · obtain ⟨hamp, hlt, hgt, -, -⟩ := ne_of_plain hc
    simp only [textChar_of_plain hc, if_neg hamp, if_neg hlt, if_neg hgt, List.flatMap_singleton]

theorem toList_attr (input : String) : (attr input).toList = input.toList.flatMap attrChar := by
  simp only [attr, replaceChar, String.toList_ofList, toList_text, List.flatMap_assoc]
  congr 1
  funext c
  by_cases hc : c ∈ special
  · rcases special_cases hc with rfl | rfl | rfl | rfl | rfl <;> decide
  · obtain ⟨-, -, -, hquot, hapos⟩ := ne_of_plain hc
    simp only [textChar_of_plain hc, attrChar_of_plain hc, if_neg hquot, if_neg hapos,
      List.flatMap_singleton]

/-! ## Clean and read back -/

theorem textChar_clean {c : Char} : ∀ x ∈ textChar c, x ≠ '<' ∧ x ≠ '>' := by
  by_cases hc : c ∈ special
  · rcases special_cases hc with rfl | rfl | rfl | rfl | rfl <;> simp [textChar]
  · rw [textChar_of_plain hc]
    obtain ⟨-, hlt, hgt, -, -⟩ := ne_of_plain hc
    intro x hx
    obtain rfl := List.mem_singleton.mp hx
    exact ⟨hlt, hgt⟩

theorem attrChar_clean {c : Char} : ∀ x ∈ attrChar c, x ≠ '<' ∧ x ≠ '>' ∧ x ≠ '"' := by
  by_cases hc : c ∈ special
  · rcases special_cases hc with rfl | rfl | rfl | rfl | rfl <;> simp [attrChar, textChar]
  · rw [attrChar_of_plain hc]
    obtain ⟨-, hlt, hgt, hquot, -⟩ := ne_of_plain hc
    intro x hx
    obtain rfl := List.mem_singleton.mp hx
    exact ⟨hlt, hgt, hquot⟩

theorem unescapeChars_cons {c : Char} (hc : c ≠ '&') (rest : List Char) :
    unescapeChars (c :: rest) = c :: unescapeChars rest := by
  rw [unescapeChars] <;> exact fun _ hamp => absurd hamp hc

theorem unescapeChars_textChar (c : Char) (rest : List Char) :
    unescapeChars (textChar c ++ rest) = c :: unescapeChars rest := by
  by_cases hc : c ∈ special
  · rcases special_cases hc with rfl | rfl | rfl | rfl | rfl <;> rfl
  · rw [textChar_of_plain hc]
    exact unescapeChars_cons (ne_of_plain hc).1 rest

theorem unescapeChars_attrChar (c : Char) (rest : List Char) :
    unescapeChars (attrChar c ++ rest) = c :: unescapeChars rest := by
  by_cases hc : c ∈ special
  · rcases special_cases hc with rfl | rfl | rfl | rfl | rfl <;> rfl
  · rw [attrChar_of_plain hc]
    exact unescapeChars_cons (ne_of_plain hc).1 rest

/-- A substitution whose single characters are read back is read back. -/
theorem unescapeChars_flatMap {escapeChar : Char → List Char}
    (hchar : ∀ c rest, unescapeChars (escapeChar c ++ rest) = c :: unescapeChars rest)
    (chars : List Char) : unescapeChars (chars.flatMap escapeChar) = chars := by
  induction chars with
  | nil => rfl
  | cons c rest ih => rw [List.flatMap_cons, hchar, ih]

/-- The escapings of the document. -/
def xml : Markup.Escaping where
  attr := attr
  text := text
  unescape := unescape
  attr_clean := by
    intro field x hx
    rw [toList_attr] at hx
    obtain ⟨c, -, hx⟩ := List.mem_flatMap.mp hx
    exact attrChar_clean x hx
  text_clean := by
    intro field x hx
    rw [toList_text] at hx
    obtain ⟨c, -, hx⟩ := List.mem_flatMap.mp hx
    exact textChar_clean x hx
  unescape_attr := by
    intro field
    rw [unescape, toList_attr, unescapeChars_flatMap unescapeChars_attrChar, String.ofList_toList]
  unescape_text := by
    intro field
    rw [unescape, toList_text, unescapeChars_flatMap unescapeChars_textChar, String.ofList_toList]

end Mosaico.View
