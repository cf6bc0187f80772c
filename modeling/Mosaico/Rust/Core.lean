import Mathlib.Data.String.Basic

/-!
# The Rust and SQLite primitives the model rests on

Machine integers are natural numbers.  The two places where their width shows
are kept: `saturating_add` on `u64`, and the binding of a `u64` parameter to an
SQLite statement, which goes through `i64` and fails above `i64::MAX`.

Strings are Lean strings; `trim` removes the Unicode `White_Space` characters,
as Rust's `str::trim` does.
-/

namespace Rust

/-- `u64::MAX`. -/
def u64Max : Nat := 2 ^ 64 - 1

/-- `i64::MAX`, the largest integer an SQLite parameter can carry. -/
def i64Max : Nat := 2 ^ 63 - 1

/-- `u64::saturating_add`. -/
def saturatingAdd (left right : Nat) : Nat :=
  min (left + right) u64Max

theorem saturatingAdd_le_i64Max {left right : Nat}
    (hbound : saturatingAdd left right ≤ i64Max) : saturatingAdd left right = left + right := by
  simp only [saturatingAdd, i64Max, u64Max] at *
  omega

/-- The characters with the Unicode property `White_Space`. -/
def isWhitespace (c : Char) : Bool :=
  (0x9 ≤ c.toNat && c.toNat ≤ 0xD) || c.toNat == 0x20 || c.toNat == 0x85 ||
    c.toNat == 0xA0 || c.toNat == 0x1680 || (0x2000 ≤ c.toNat && c.toNat ≤ 0x200A) ||
    c.toNat == 0x2028 || c.toNat == 0x2029 || c.toNat == 0x202F || c.toNat == 0x205F ||
    c.toNat == 0x3000

/-- `str::trim`. -/
def trim (text : String) : String :=
  String.ofList
    (((text.toList.dropWhile isWhitespace).reverse.dropWhile isWhitespace).reverse)

/-- `str::ends_with`. -/
def endsWith (text ending : String) : Bool :=
  ending.toList.isSuffixOf text.toList

/-- `str::trim().is_empty()`. -/
def isBlank (text : String) : Bool :=
  trim text == ""

end Rust
