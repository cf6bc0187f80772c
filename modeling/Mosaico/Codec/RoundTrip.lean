import Mathlib.Logic.Basic

/-!
# Round trips up to a normal form

An encoder that drops what its format does not carry comes back as a normal form of
what went in.  The format is sound when every value of its domain comes back so,
every other value is refused, and the normal form comes back as it is.
-/

namespace Codec

variable {α β κ : Type*}

/-- Decoding an encoded value yields its normal form, on the domain and nowhere else. -/
structure RoundTrip (encode : α → β) (decode : β → Option α) (Domain : α → Prop)
    (normal : α → α) : Prop where
  returns : ∀ value, Domain value → decode (encode value) = some (normal value)
  refuses : ∀ value, ¬ Domain value → decode (encode value) = none
  closed : ∀ value, Domain value → Domain (normal value)
  idempotent : ∀ value, normal (normal value) = normal value

namespace RoundTrip

variable {encode : α → β} {decode : β → Option α} {Domain : α → Prop} {normal : α → α}

/-- The normal form is a fixed point of the round trip. -/
theorem fixed (htrip : RoundTrip encode decode Domain normal) {value : α}
    (hvalue : Domain value) : decode (encode (normal value)) = some (normal value) := by
  rw [htrip.returns _ (htrip.closed value hvalue), htrip.idempotent]

/-- Whatever comes back is the normal form of a value of the domain. -/
theorem eq_some_iff (htrip : RoundTrip encode decode Domain normal) {value decoded : α} :
    decode (encode value) = some decoded ↔ Domain value ∧ normal value = decoded := by
  by_cases hvalue : Domain value
  · rw [htrip.returns value hvalue, Option.some.injEq]
    exact (and_iff_right hvalue).symm
  · rw [htrip.refuses value hvalue]
    simp [hvalue]

/-- A property of values that the normal form keeps survives the round trip. -/
theorem keeps (htrip : RoundTrip encode decode Domain normal) {property : α → κ}
    (hnormal : ∀ value, property (normal value) = property value) {value decoded : α}
    (hdecoded : decode (encode value) = some decoded) : property decoded = property value := by
  rw [← (htrip.eq_some_iff.mp hdecoded).2, hnormal]

end RoundTrip

end Codec
