/-
**Rounding a number gives it back.**

A sum of numbers is the number nearest to it. Where the sum is a number already, nothing is rounded:

* `Number.lastPlace_twoTo`: the last place of the numbers near a multiple of a power of two;
* `Number.ofRatio_subnormal`, `Number.ofRatio_normal`: below the least normal number, and for each exponent,
  nothing is rounded;
* `Number.ofRatio_spread`: so the value of some bits is rounded to these bits;
* `Number.IsUnsigned.add_zero`: nothing changes where zero is added to a number without a sign.
-/

import Pairing.Proofs.Number.Order

namespace Pairing.Number

/-- The last place of the numbers near a fraction whose denominator is a power of two, which hangs on the
powers of two between which the numerator lies. -/
theorem lastPlace_twoTo {numerator power : Nat} (above : twoTo power ≤ numerator)
    (below : numerator < twoTo (power + 1)) (scale : Nat) :
    lastPlace numerator (twoTo scale) = max ((power : Int) - scale - 52) (-1074) := by
  have nonzero : numerator ≠ 0 := Nat.ne_of_gt (Nat.lt_of_lt_of_le (twoTo_pos power) above)
  have numeratorLog : numerator.log2 = power := (Nat.log2_eq_iff nonzero).mpr ⟨above, below⟩
  have denominatorLog : (twoTo scale).log2 = scale := Nat.log2_two_pow
  unfold lastPlace
  simp only [numeratorLog, denominatorLog]
  -- The estimate of the exponent is never one too high.
  split
  · next whole =>
    have exact : ¬ numerator < twoTo scale * twoTo ((power : Int) - scale).toNat := by
      rw [← twoTo_add, show scale + ((power : Int) - scale).toNat = power by omega]
      omega
    rw [if_neg exact]
  · next fraction =>
    have exact : ¬ numerator * twoTo (-((power : Int) - scale)).toNat < twoTo scale := by
      have scaled := Nat.mul_le_mul_right (twoTo (-((power : Int) - scale)).toNat) above
      rw [← twoTo_add, show power + (-((power : Int) - scale)).toNat = scale by omega] at scaled
      omega
    rw [if_neg exact]

theorem roundedQuotient_mul (n : Nat) {denominator : Nat} (positive : 0 < denominator) :
    roundedQuotient (n * denominator) denominator = n := by
  unfold roundedQuotient
  rw [Nat.mul_div_cancel n positive, Nat.mul_mod_left, if_pos positive]

/-- A subnormal number is a multiple of the least one, and nothing of it is rounded. -/
theorem ofRatio_subnormal (negative : Bool) {significand : Nat} (nonzero : significand ≠ 0)
    (below : significand < twoTo 52) :
    ofRatio negative significand (twoTo 1074) = ofSignMagnitude negative significand := by
  have short : significand.log2 < 52 := (Nat.log2_lt nonzero).mpr below
  have place : lastPlace significand (twoTo 1074) = -1074 := by
    rw [lastPlace_twoTo (Nat.log2_self_le nonzero) Nat.lt_log2_self]
    omega
  have rounded : roundedQuotient (significand * twoTo 1074) (twoTo 1074) = significand :=
    roundedQuotient_mul significand (twoTo_pos 1074)
  unfold ofRatio
  rw [if_neg nonzero]
  simp only [place, show ¬ (0 : Int) ≤ -1074 by omega, if_false, Int.neg_neg,
    show (1074 : Int).toNat = 1074 from rfl, rounded, if_pos below]
  rw [if_neg (by omega)]

/-- A normal number has a leading one, and its other 52 digits come up to its last place. -/
theorem lastPlace_normal {digits : Nat} (below : digits < twoTo 52) (exponent : Nat) :
    lastPlace ((digits + twoTo 52) * twoTo exponent) (twoTo 1074) = (exponent : Int) - 1074 := by
  have leading : twoTo (52 + exponent) ≤ (digits + twoTo 52) * twoTo exponent := by
    rw [twoTo_add]
    exact Nat.mul_le_mul_right _ (by omega)
  have short : (digits + twoTo 52) * twoTo exponent < twoTo (52 + exponent + 1) := by
    rw [show 52 + exponent + 1 = 53 + exponent by omega, twoTo_add]
    refine Nat.mul_lt_mul_of_pos_right ?_ (twoTo_pos exponent)
    rw [twoTo_add 52 1, show twoTo 1 = 2 from rfl]
    omega
  rw [lastPlace_twoTo leading short]
  omega

/-- So nothing of it is rounded either. -/
theorem ofRatio_normal (negative : Bool) {digits exponent : Nat} (below : digits < twoTo 52)
    (finite : (exponent + 1) * twoTo 52 + digits < 0x7FF * twoTo 52) :
    ofRatio negative ((digits + twoTo 52) * twoTo exponent) (twoTo 1074) =
      ofSignMagnitude negative ((exponent + 1) * twoTo 52 + digits) := by
  have nonzero : (digits + twoTo 52) * twoTo exponent ≠ 0 :=
    Nat.ne_of_gt (Nat.mul_pos (by omega) (twoTo_pos exponent))
  have rounded : (if 0 ≤ (exponent : Int) - 1074 then
        roundedQuotient ((digits + twoTo 52) * twoTo exponent)
          (twoTo 1074 * twoTo ((exponent : Int) - 1074).toNat)
      else roundedQuotient ((digits + twoTo 52) * twoTo exponent * twoTo (-((exponent : Int) - 1074)).toNat)
        (twoTo 1074)) = digits + twoTo 52 := by
    split
    · rw [← twoTo_add, show 1074 + ((exponent : Int) - 1074).toNat = exponent by omega]
      exact roundedQuotient_mul _ (twoTo_pos exponent)
    · rw [Nat.mul_assoc, ← twoTo_add,
        show exponent + (-((exponent : Int) - 1074)).toNat = 1074 by omega]
      exact roundedQuotient_mul _ (twoTo_pos 1074)
  unfold ofRatio
  rw [if_neg nonzero]
  simp only [lastPlace_normal below exponent, rounded,
    if_neg (show ¬ digits + twoTo 52 < twoTo 52 by omega),
    show ((exponent : Int) - 1074 + 1075).toNat = exponent + 1 by omega, Nat.add_sub_cancel]
  rw [if_neg (by omega)]

/-- The value of the bits of a finite number is rounded to these bits. -/
theorem ofRatio_spread (negative : Bool) {magnitude : Nat} (nonzero : magnitude ≠ 0)
    (finite : magnitude < 0x7FF * twoTo 52) :
    ofRatio negative (spread magnitude) (twoTo 1074) = ofSignMagnitude negative magnitude := by
  have whole := Nat.div_add_mod' magnitude (twoTo 52)
  have below : magnitude % twoTo 52 < twoTo 52 := Nat.mod_lt _ (twoTo_pos 52)
  unfold spread
  split
  · next subnormal =>
    rw [subnormal, Nat.zero_mul, Nat.zero_add] at whole
    rw [whole] at below ⊢
    exact ofRatio_subnormal negative nonzero below
  · next normal =>
    obtain ⟨exponent, isNormal⟩ := Nat.exists_eq_add_one_of_ne_zero normal
    rw [isNormal] at whole ⊢
    rw [Nat.add_sub_cancel, ofRatio_normal negative below (by rwa [whole]), whole]

/-! ### Adding zero -/

/-- A number without a sign is its bits below the sign. -/
theorem IsUnsigned.eq_ofSignMagnitude {n : Number} (unsigned : n.IsUnsigned) :
    ofSignMagnitude false n.magnitude = n := by
  have bits : n.magnitude = n.bits.toNat := by
    have noSign := unsigned.noSign
    rw [isNegative, decide_eq_false_iff_not, Nat.not_le] at noSign
    exact Nat.mod_eq_of_lt noSign
  rw [bits]
  show Number.mk (n.bits.toNat.toUInt64) = n
  rw [Nat.toUInt64_eq, UInt64.ofNat_toNat]

theorem magnitude_lt_of_isFinite {n : Number} (finite : n.isFinite = true) :
    n.magnitude < 0x7FF * twoTo 52 := by
  have below : n.magnitude < twoTo 63 := Nat.mod_lt _ (twoTo_pos 63)
  have half : twoTo 63 = 9223372036854775808 := rfl
  rw [isFinite, bne_iff_ne, exponentField, twoTo_fiftyTwo] at finite
  rw [twoTo_fiftyTwo]
  omega

/-- Nothing changes where zero is added to a number without a sign. -/
theorem IsUnsigned.add_zero {n : Number} (unsigned : n.IsUnsigned) : n.add (ofNat 0) = n := by
  have isZero : (ofNat 0).isNaN = false ∧ (ofNat 0).isFinite = true ∧ (ofNat 0).scaled = 0 := by
    decide +kernel
  unfold Number.add
  rw [unsigned.isNumber, isZero.1, isZero.2.1, if_neg Bool.false_ne_true, if_neg Bool.false_ne_true,
    Bool.and_true]
  split
  · next finite =>
    have value : n.scaled = spread n.magnitude := by
      rw [scaled_eq, unsigned.noSign, if_neg Bool.false_ne_true]
    have spreadZero : spread 0 = 0 := by
      decide +kernel
    rw [addFinite, isZero.2.2, Int.add_zero, value]
    split
    · next none =>
      have least : n.magnitude = 0 :=
        spread_strictMono.injective ((Int.natCast_eq_zero.mp none).trans spreadZero.symm)
      rw [unsigned.noSign, Bool.false_and, zero, ← least, unsigned.eq_ofSignMagnitude]
    · next some =>
      have nonzero : n.magnitude ≠ 0 := by
        intro least
        exact some (by rw [least, spreadZero]; rfl)
      rw [Int.natAbs_natCast, decide_eq_false (by omega),
        ofRatio_spread false nonzero (magnitude_lt_of_isFinite finite), unsigned.eq_ofSignMagnitude]
  · rfl

end Pairing.Number
