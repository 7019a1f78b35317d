/-
**Sums of numbers.**

* `Number.add`, `Number.subtract` — the number nearest to a sum or a difference. What is not a number
  stays as it is.
* `Number.truncated` — the whole part of a number, as an offset.
-/

import Pairing.Number.Basic

namespace Pairing.Number

/-- What infinities of different signs come to. It is not a number, and has a sign. -/
def indefinite : Number :=
  ofSignMagnitude true (0x7FF * twoTo 52 + twoTo 51)

/-- A finite number in units of 2⁻¹⁰⁷⁴. -/
def scaled (n : Number) : Int :=
  let magnitude := n.significand * twoTo (n.place + 1074).toNat
  if n.isNegative then -(magnitude : Int) else magnitude

/-- The number nearest to the sum of two finite numbers. A sum of zeros is negative if both are. -/
def addFinite (a b : Number) : Number :=
  let sum := a.scaled + b.scaled
  if sum = 0 then zero (a.isNegative && b.isNegative)
  else ofRatio (sum < 0) sum.natAbs (twoTo 1074)

/-- The sum of two numbers. -/
def add (a b : Number) : Number :=
  if a.isNaN then a
  else if b.isNaN then b
  else if a.isFinite && b.isFinite then addFinite a b
  else if b.isFinite then a
  else if a.isFinite || a.isNegative == b.isNegative then b
  else indefinite

/-- The number with the other sign. -/
def negated (n : Number) : Number :=
  ofSignMagnitude (!n.isNegative) n.magnitude

/-- The difference of two numbers. -/
def subtract (a b : Number) : Number :=
  if b.isNaN && !a.isNaN then b else a.add b.negated

/-- An offset beyond every text. -/
def farOffset : Int := twoTo 62

/-- The whole part of a number as an offset. Infinities are beyond every text, and what is not a number
is no offset at all. -/
def truncated (n : Number) : Int :=
  if n.isNaN then 0
  else if !n.isFinite then if n.isNegative then -farOffset else farOffset
  else
    let magnitude : Nat :=
      if 0 ≤ n.place then n.significand * twoTo n.place.toNat
      else n.significand / twoTo (-n.place).toNat
    let offset : Int := min (magnitude : Int) farOffset
    if n.isNegative then -offset else offset

end Pairing.Number
