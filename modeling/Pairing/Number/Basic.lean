/-
**Numbers of configuration data.**

A number is a binary64 value, held as its bits: a sign, an exponent and a significand.

* `twoTo`, `tenTo` — powers of two and of ten.
* `Number.orderKey` — an integer that orders the numbers other than NaN as their values, with both
  zeros equal.
* `Number.equals` — equality of values, under which NaN equals nothing.
* `Number.ofRatio` — the number nearest to a quotient, a tie going to the even significand.
* `Number.ofNat`, `Number.ofInt`, `Number.toInt?` — whole numbers in and out.
-/

namespace Pairing

/-- A power of two. -/
def twoTo (exponent : Nat) : Nat :=
  Nat.pow 2 exponent

/-- A power of ten. -/
def tenTo (exponent : Nat) : Nat :=
  Nat.pow 10 exponent

theorem twoTo_pos (exponent : Nat) : 0 < twoTo exponent :=
  Nat.pow_pos (by decide)

theorem twoTo_add (a b : Nat) : twoTo (a + b) = twoTo a * twoTo b :=
  Nat.pow_add 2 a b

/-- A binary64 number. -/
structure Number where
  /-- The sign in the highest bit, then eleven bits of exponent, then the significand. -/
  bits : UInt64
  deriving DecidableEq, Repr, Inhabited

namespace Number

/-- The bits without the sign. They order the magnitudes. -/
def magnitude (n : Number) : Nat :=
  n.bits.toNat % twoTo 63

/-- Whether the sign bit is set. -/
def isNegative (n : Number) : Bool :=
  twoTo 63 ≤ n.bits.toNat

/-- The exponent field. -/
def exponentField (n : Number) : Nat :=
  n.magnitude / twoTo 52

/-- The significand field, without the implicit leading one. -/
def significandField (n : Number) : Nat :=
  n.magnitude % twoTo 52

/-- Whether the number is neither infinite nor NaN. -/
def isFinite (n : Number) : Bool :=
  n.exponentField != 0x7FF

/-- Whether this is not a number. -/
def isNaN (n : Number) : Bool :=
  n.exponentField == 0x7FF && n.significandField != 0

/-- An integer that orders numbers as their values. -/
def orderKey (n : Number) : Int :=
  if n.isNegative then -(n.magnitude : Int) else n.magnitude

/-- Whether two numbers have the same value. -/
def equals (a b : Number) : Bool :=
  !a.isNaN && !b.isNaN && a.orderKey == b.orderKey

/-- The number with a sign and the bits below it. -/
def ofSignMagnitude (negative : Bool) (magnitude : Nat) : Number :=
  ⟨(if negative then twoTo 63 + magnitude else magnitude).toUInt64⟩

/-- Zero, with a sign. -/
def zero (negative : Bool) : Number :=
  ofSignMagnitude negative 0

/-- Infinity, with a sign. -/
def infinity (negative : Bool) : Number :=
  ofSignMagnitude negative (0x7FF * twoTo 52)

/-- Not a number. -/
def nan : Number :=
  ofSignMagnitude false (0x7FF * twoTo 52 + twoTo 51)

/-- A quotient rounded to a natural number, a tie going to the even one. -/
def roundedQuotient (numerator denominator : Nat) : Nat :=
  let floor := numerator / denominator
  let rest := numerator % denominator
  if 2 * rest < denominator then floor
  else if 2 * rest = denominator ∧ floor % 2 = 0 then floor
  else floor + 1

/-- The power of two of the last place of the numbers near a quotient. No last place is below
2⁻¹⁰⁷⁴. -/
def lastPlace (numerator denominator : Nat) : Int :=
  let estimate : Int := numerator.log2 - denominator.log2
  let exponent : Int :=
    if 0 ≤ estimate then
      if numerator < denominator * twoTo estimate.toNat then estimate - 1 else estimate
    else if numerator * twoTo (-estimate).toNat < denominator then estimate - 1
    else estimate
  max (exponent - 52) (-1074)

/-- The number nearest to a quotient of natural numbers, the denominator being positive. -/
def ofRatio (negative : Bool) (numerator denominator : Nat) : Number :=
  if numerator = 0 then zero negative
  else
    let place := lastPlace numerator denominator
    let significand :=
      if 0 ≤ place then roundedQuotient numerator (denominator * twoTo place.toNat)
      else roundedQuotient (numerator * twoTo (-place).toNat) denominator
    let magnitude :=
      if significand < twoTo 52 then significand
      else (place + 1075).toNat * twoTo 52 + (significand - twoTo 52)
    if 0x7FF * twoTo 52 ≤ magnitude then infinity negative else ofSignMagnitude negative magnitude

/-- The number nearest to a natural number. -/
def ofNat (n : Nat) : Number :=
  ofRatio false n 1

/-- The number nearest to an integer. -/
def ofInt (i : Int) : Number :=
  ofRatio (i < 0) i.natAbs 1

/-- The significand of a finite number, with the leading one that normal numbers have. -/
def significand (n : Number) : Nat :=
  if n.exponentField = 0 then n.significandField else n.significandField + twoTo 52

/-- The power of two of the last place of a finite number. -/
def place (n : Number) : Int :=
  if n.exponentField = 0 then -1074 else (n.exponentField : Int) - 1075

/-- The value of a whole number. -/
def toInt? (n : Number) : Option Int :=
  if !n.isFinite then none
  else
    let magnitude :=
      if 0 ≤ n.place then some (n.significand * twoTo n.place.toNat)
      else
        let unit := twoTo (-n.place).toNat
        if n.significand % unit = 0 then some (n.significand / unit) else none
    magnitude.map fun m => if n.isNegative then -(m : Int) else m

end Number

end Pairing
