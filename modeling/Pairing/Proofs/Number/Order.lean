/-
**The order of numbers.**

Rules are ranked by the bits of their priorities. That is the order of the values, and the priority that a
rule has by the lengths of its delimiters is a number that can be ranked:

* `Number.spread`: the value of the bits below the sign, in units of the least number above zero;
* `Number.spread_strictMono`: more bits mean a greater value, also from one exponent to the next;
* `Number.orderKey_lt_iff`: the order of the bits is the order of the values;
* `Number.IsUnsigned`: a number without a sign that is not NaN, with `Number.isUnsigned_ofNat` and
  `Number.IsUnsigned.add`.
-/

import Mathlib.Order.Monotone.Basic
import Pairing.Number.Sum

namespace Pairing.Number

/-! ### Bits and values -/

theorem twoTo_fiftyTwo : twoTo 52 = 4503599627370496 := rfl

/-- The value of bits below the sign, in units of 2⁻¹⁰⁷⁴. Infinity comes after all numbers. -/
def spread (magnitude : Nat) : Nat :=
  if magnitude / twoTo 52 = 0 then magnitude % twoTo 52
  else (magnitude % twoTo 52 + twoTo 52) * twoTo (magnitude / twoTo 52 - 1)

theorem scaled_eq (n : Number) :
    n.scaled = if n.isNegative then -(spread n.magnitude : Int) else spread n.magnitude := by
  have value : n.significand * twoTo (n.place + 1074).toNat = spread n.magnitude := by
    unfold significand place spread exponentField significandField
    split
    · simp [twoTo]
    · next normal =>
      congr 2
      omega
  rw [scaled, value]

/-- More bits mean a greater value: within an exponent the significand grows, and from one exponent to
the next its unit doubles. -/
theorem spread_strictMono : StrictMono spread := by
  refine strictMono_nat_of_lt_succ fun m => ?_
  have whole := Nat.div_add_mod m (twoTo 52)
  by_cases within : m % twoTo 52 + 1 < twoTo 52
  · have exponent : (m + 1) / twoTo 52 = m / twoTo 52 := by
      rw [twoTo_fiftyTwo] at *
      omega
    have significand : (m + 1) % twoTo 52 = m % twoTo 52 + 1 := by
      rw [twoTo_fiftyTwo] at *
      omega
    unfold spread
    rw [exponent, significand]
    split
    · exact Nat.lt_succ_self _
    · exact Nat.mul_lt_mul_of_pos_right (by omega) (twoTo_pos _)
  · have exponent : (m + 1) / twoTo 52 = m / twoTo 52 + 1 := by
      rw [twoTo_fiftyTwo] at *
      omega
    have significand : (m + 1) % twoTo 52 = 0 ∧ m % twoTo 52 < twoTo 52 := by
      rw [twoTo_fiftyTwo] at *
      omega
    unfold spread
    rw [exponent, significand.1, if_neg (Nat.succ_ne_zero _), Nat.add_sub_cancel, Nat.zero_add]
    split
    · next subnormal =>
      rw [subnormal]
      simpa [twoTo] using significand.2
    · next normal =>
      obtain ⟨e, isNormal⟩ := Nat.exists_eq_add_one_of_ne_zero normal
      rw [isNormal, Nat.add_sub_cancel]
      calc (m % twoTo 52 + twoTo 52) * twoTo e
          < (twoTo 52 + twoTo 52) * twoTo e :=
            Nat.mul_lt_mul_of_pos_right (by omega) (twoTo_pos _)
        _ = twoTo 52 * (twoTo e * twoTo 1) := by
            rw [← Nat.mul_two, Nat.mul_assoc, Nat.mul_comm 2]
            rfl
        _ = twoTo 52 * twoTo (e + 1) := by rw [twoTo_add]

/-- Numbers are ordered by their bits as by their values. -/
theorem orderKey_lt_iff (a b : Number) : a.orderKey < b.orderKey ↔ a.scaled < b.scaled := by
  have zero : spread 0 = 0 := by simp [spread]
  have order := spread_strictMono.lt_iff_lt (a := a.magnitude) (b := b.magnitude)
  have reversed := spread_strictMono.lt_iff_lt (a := b.magnitude) (b := a.magnitude)
  have left := spread_strictMono.lt_iff_lt (a := 0) (b := a.magnitude)
  have right := spread_strictMono.lt_iff_lt (a := 0) (b := b.magnitude)
  rw [zero] at left right
  rw [scaled_eq, scaled_eq, orderKey, orderKey]
  split <;> split <;> omega

theorem orderKey_eq_iff (a b : Number) : a.orderKey = b.orderKey ↔ a.scaled = b.scaled := by
  have order := orderKey_lt_iff a b
  have reversed := orderKey_lt_iff b a
  omega

/-! ### Numbers without a sign -/

/-- A number without a sign that is not NaN. -/
structure IsUnsigned (n : Number) : Prop where
  /-- It is a number, perhaps infinite. -/
  isNumber : n.isNaN = false
  /-- It has no sign. -/
  noSign : n.isNegative = false

theorem isUnsigned_ofSignMagnitude {magnitude : Nat} (inside : magnitude ≤ 0x7FF * twoTo 52) :
    (ofSignMagnitude false magnitude).IsUnsigned := by
  rw [twoTo_fiftyTwo] at inside
  have bits : (ofSignMagnitude false magnitude).bits.toNat = magnitude := by
    show magnitude.toUInt64.toNat = magnitude
    rw [Nat.toUInt64_eq, UInt64.toNat_ofNat']
    omega
  have half : twoTo 63 = 9223372036854775808 := rfl
  constructor
  · rw [isNaN, exponentField, significandField, Number.magnitude, bits, half, twoTo_fiftyTwo,
      Bool.and_eq_false_iff, beq_eq_false_iff_ne, bne_eq_false_iff_eq]
    omega
  · rw [isNegative, bits, half, decide_eq_false_iff_not]
    omega

theorem isUnsigned_ofBounded (magnitude : Nat) :
    (if 0x7FF * twoTo 52 ≤ magnitude then infinity false
      else ofSignMagnitude false magnitude).IsUnsigned := by
  split
  · exact isUnsigned_ofSignMagnitude (Nat.le_refl _)
  · next finite => exact isUnsigned_ofSignMagnitude (Nat.le_of_not_le finite)

theorem isUnsigned_ofRatio (numerator denominator : Nat) :
    (ofRatio false numerator denominator).IsUnsigned := by
  unfold ofRatio
  split
  · exact isUnsigned_ofSignMagnitude (Nat.zero_le _)
  · exact isUnsigned_ofBounded _

theorem isUnsigned_ofNat (n : Nat) : (ofNat n).IsUnsigned :=
  isUnsigned_ofRatio n 1

/-- The sum of two numbers without signs is one. -/
theorem IsUnsigned.add {a b : Number} (left : a.IsUnsigned) (right : b.IsUnsigned) :
    (a.add b).IsUnsigned := by
  have nonneg : 0 ≤ a.scaled + b.scaled := by
    rw [scaled_eq, scaled_eq, left.noSign, right.noSign]
    simp only [Bool.false_eq_true, if_false]
    omega
  unfold Number.add
  rw [left.isNumber, right.isNumber, left.noSign, right.noSign, if_neg Bool.false_ne_true,
    if_neg Bool.false_ne_true]
  split
  · unfold addFinite
    dsimp only
    split
    · rw [left.noSign]
      exact isUnsigned_ofSignMagnitude (Nat.zero_le _)
    · rw [decide_eq_false (by omega)]
      exact isUnsigned_ofRatio _ _
  split
  · exact left
  split
  · exact right
  · next impossible => simp at impossible

end Pairing.Number
