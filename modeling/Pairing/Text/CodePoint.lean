/-
**Code points of a text.**

* `Text.codePoints` — a leading and a trailing surrogate next to each other are one code point, and
  every other unit is one of its own.
* `Text.ofCodePoints` — the units of a list of code points.
* `Text.ofCodePoints_codePoints` — decoding loses nothing.
* `Text.IsWellFormed` — no surrogate is left unpaired.
-/

import Pairing.Text.Basic

namespace Pairing.Text

/-- Whether a unit opens a surrogate pair. -/
def isLeading (unit : UInt16) : Bool :=
  0xD800 ≤ unit && unit ≤ 0xDBFF

/-- Whether a unit closes a surrogate pair. -/
def isTrailing (unit : UInt16) : Bool :=
  0xDC00 ≤ unit && unit ≤ 0xDFFF

/-- Whether a code point is a surrogate, which no scalar value is. -/
def isSurrogate (point : Nat) : Bool :=
  0xD800 ≤ point && point ≤ 0xDFFF

/-- The code point of a surrogate pair. -/
def pairPoint (leading trailing : UInt16) : Nat :=
  0x10000 + (leading.toNat - 0xD800) * 0x400 + (trailing.toNat - 0xDC00)

/-- The code points of a text, unpaired surrogates included. -/
def codePoints : Text → List Nat
  | [] => []
  | [unit] => [unit.toNat]
  | first :: second :: rest =>
    if isLeading first && isTrailing second then pairPoint first second :: codePoints rest
    else first.toNat :: codePoints (second :: rest)

/-- The text of a list of code points. -/
def ofCodePoints (points : List Nat) : Text :=
  points.flatMap ofCodePoint

/-- How many units a code point takes. -/
def pointLength (point : Nat) : Nat :=
  if point < 0x10000 then 1 else 2

/-- No surrogate of the text is unpaired. -/
def IsWellFormed (t : Text) : Prop :=
  ∀ point ∈ t.codePoints, isSurrogate point = false

instance (t : Text) : Decidable t.IsWellFormed :=
  inferInstanceAs (Decidable (∀ point ∈ t.codePoints, isSurrogate point = false))

/-! ### Decoding loses nothing -/

theorem ofCodePoint_toNat (unit : UInt16) : ofCodePoint unit.toNat = [unit] := by
  simp [ofCodePoint, unit.toNat_lt]

theorem ofCodePoint_pairPoint {leading trailing : UInt16} (opens : isLeading leading = true)
    (closes : isTrailing trailing = true) :
    ofCodePoint (pairPoint leading trailing) = [leading, trailing] := by
  simp only [isLeading, isTrailing, Bool.and_eq_true, decide_eq_true_eq, UInt16.le_iff_toNat_le,
    UInt16.reduceToNat] at opens closes
  unfold ofCodePoint pairPoint
  rw [if_neg (by omega)]
  have leadingValue : 0xD800 + (0x10000 + (leading.toNat - 0xD800) * 0x400 +
      (trailing.toNat - 0xDC00) - 0x10000) / 0x400 = leading.toNat := by omega
  have trailingValue : 0xDC00 + (0x10000 + (leading.toNat - 0xD800) * 0x400 +
      (trailing.toNat - 0xDC00) - 0x10000) % 0x400 = trailing.toNat := by omega
  rw [leadingValue, trailingValue]
  simp

theorem ofCodePoints_codePoints (t : Text) : ofCodePoints t.codePoints = t := by
  fun_induction codePoints t with
  | case1 => rfl
  | case2 unit => simp [ofCodePoints, ofCodePoint_toNat]
  | case3 first second rest pair ih =>
    rw [Bool.and_eq_true] at pair
    simp only [ofCodePoints, List.flatMap_cons, ofCodePoint_pairPoint pair.1 pair.2] at ih ⊢
    simp [ih]
  | case4 first second rest _ ih =>
    simp only [ofCodePoints, List.flatMap_cons, ofCodePoint_toNat] at ih ⊢
    simp [ih]

end Pairing.Text
