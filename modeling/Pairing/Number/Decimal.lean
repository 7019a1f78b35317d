/-
**Numbers as decimal and hexadecimal digits.**

* `Number.ofDecimal` — the number nearest to digits times a power of ten.
* `Number.shortest` — the fewest decimal digits that read back, and of those the nearest.
* `Number.text` — the number as configuration data writes it: positional from 10⁻⁶ up to 10²¹, and
  with an exponent beyond.
-/

import Pairing.Number.Basic
import Pairing.Text.Basic

namespace Pairing.Number

/-- How many decimal digits a natural number has; zero has none. -/
def decimalLength (n : Nat) : Nat :=
  if n = 0 then 0 else (Nat.toDigits 10 n).length

/-- The number nearest to `digits · 10 ^ exponent`. Beyond every finite number it is infinite, and
below half of the least one it is zero; those are told by the count of digits, so that no large
power is computed. -/
def ofDecimal (negative : Bool) (digits : Nat) (exponent : Int) : Number :=
  let order : Int := decimalLength digits + exponent
  if digits = 0 ∨ order < -330 then zero negative
  else if 310 < order then infinity negative
  else if 0 ≤ exponent then ofRatio negative (digits * tenTo exponent.toNat) 1
  else ofRatio negative digits (tenTo (-exponent).toNat)

/-! ### The fewest digits that read back -/

/-- The quotient of a positive finite number, and those of the two neighbouring numbers' midpoints
with it, over one common denominator. -/
structure Rounding where
  /-- The denominator. -/
  denominator : Nat
  /-- The number. -/
  value : Nat
  /-- The midpoint with the number below. -/
  low : Nat
  /-- The midpoint with the number above. -/
  high : Nat
  /-- Whether the midpoints themselves read back as the number. -/
  closed : Bool

/-- What reads back as a positive finite number. -/
def rounding (n : Number) : Rounding :=
  let s := n.significand
  let scale := n.place - 2
  let up := if 0 ≤ scale then twoTo scale.toNat else 1
  let below := if s = twoTo 52 ∧ 1 < n.exponentField then 1 else 2
  { denominator := if 0 ≤ scale then 1 else twoTo (-scale).toNat
    value := 4 * s * up
    low := (4 * s - below) * up
    high := (4 * s + 2) * up
    closed := s % 2 == 0 }

/-- Whether `digits · 10 ^ exponent` reads back as the number. -/
def Rounding.admits (r : Rounding) (digits : Nat) (exponent : Int) : Bool :=
  let scaled := if 0 ≤ exponent then digits * tenTo exponent.toNat * r.denominator else digits * r.denominator
  let unit := if 0 ≤ exponent then 1 else tenTo (-exponent).toNat
  if r.closed then r.low * unit ≤ scaled && scaled ≤ r.high * unit
  else r.low * unit < scaled && scaled < r.high * unit

/-- The greatest multiple of `10 ^ exponent` not above the number, and whether the next multiple is
nearer than it. -/
def Rounding.onGrid (r : Rounding) (exponent : Int) : Nat × Bool :=
  let value := if 0 ≤ exponent then r.value else r.value * tenTo (-exponent).toNat
  let unit := if 0 ≤ exponent then r.denominator * tenTo exponent.toNat else r.denominator
  let digits := value / unit
  let rest := value % unit
  (digits, unit < 2 * rest || (unit == 2 * rest && digits % 2 == 1))

/-- The least power of ten above the number, searched downwards from `bound`. -/
def Rounding.order (r : Rounding) : Nat → Int → Int
  | 0, bound => bound
  | steps + 1, bound =>
    let lower := bound - 1
    let above :=
      if 0 ≤ lower then r.value < tenTo lower.toNat * r.denominator
      else r.value * tenTo (-lower).toNat < r.denominator
    if above then r.order steps lower else bound

/-- The digits found on the finest grid tried, trying coarse grids first. -/
def Rounding.search (r : Rounding) : Nat → Int → Nat × Int
  | 0, exponent => ((r.onGrid exponent).1, exponent)
  | tries + 1, exponent =>
    let (digits, roundsUp) := r.onGrid exponent
    let nearer := if roundsUp then digits + 1 else digits
    let farther := if roundsUp then digits else digits + 1
    if r.admits nearer exponent then (nearer, exponent)
    else if r.admits farther exponent then (farther, exponent)
    else r.search tries (exponent - 1)

/-- A number of digits without the zeros at its end, with the exponent that makes up for them. -/
def withoutTrailingZeros : Nat → Nat → Int → Nat × Int
  | 0, digits, exponent => (digits, exponent)
  | steps + 1, digits, exponent =>
    if digits ≠ 0 ∧ digits % 10 = 0 then withoutTrailingZeros steps (digits / 10) (exponent + 1)
    else (digits, exponent)

/-- The fewest digits that read back as a positive finite number, with their power of ten. -/
def shortest (n : Number) : Nat × Int :=
  let r := n.rounding
  let order := r.order 640 310
  let (digits, exponent) := r.search 17 (order - 1)
  withoutTrailingZeros 20 digits exponent

/-! ### Printing -/

/-- Digits and a power of ten, positional from 10⁻⁶ up to 10²¹ and with an exponent beyond. -/
def decimalText (digits : Nat) (exponent : Int) : Text :=
  let shown := Text.ofNat digits
  let count : Int := shown.length
  let order := count + exponent
  if 0 ≤ exponent ∧ order ≤ 21 then shown ++ List.replicate exponent.toNat 0x30
  else if 0 < order ∧ order ≤ 21 then
    shown.take order.toNat ++ Text.ofString "." ++ shown.drop order.toNat
  else if -6 < order ∧ order ≤ 0 then
    Text.ofString "0." ++ List.replicate (-order).toNat 0x30 ++ shown
  else
    let power := order - 1
    let fraction := if shown.length = 1 then [] else Text.ofString "." ++ shown.drop 1
    let sign := if power < 0 then Text.ofString "e-" else Text.ofString "e+"
    shown.take 1 ++ fraction ++ sign ++ Text.ofNat power.natAbs

/-- The number as configuration data writes it. Both zeros are written `0`. -/
def text (n : Number) : Text :=
  if n.isNaN then "NaN"
  else
    let magnitude : Text :=
      if !n.isFinite then "Infinity"
      else if n.magnitude = 0 then "0"
      else let (digits, exponent) := n.shortest; decimalText digits exponent
    if n.isNegative && n.magnitude != 0 then Text.ofString "-" ++ magnitude else magnitude

end Pairing.Number
