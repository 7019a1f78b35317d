/-
**Texts that denote numbers.**

* `Text.digitsValue?` — the number that some digits denote in a base.
* `Text.number` — the number that a text denotes between blanks: a decimal number that may have a sign,
  a point and an exponent, or digits of base two, eight or sixteen after a prefix. No text at all is
  zero, and a text that denotes no number is none.
-/

import Pairing.Number.Decimal
import Pairing.Text.Blank

namespace Pairing.Text

/-- The value of a unit as a digit, letters standing for the digits from ten on. -/
def digitValue (unit : UInt16) : Nat :=
  if 0x30 ≤ unit && unit ≤ 0x39 then unit.toNat - 0x30
  else if 0x41 ≤ unit && unit ≤ 0x5A then unit.toNat - 0x37
  else if 0x61 ≤ unit && unit ≤ 0x7A then unit.toNat - 0x57
  else 36

/-- The number that some digits denote in a base. -/
def digitsValue? (base : Nat) (digits : Text) : Option Nat :=
  if digits.isEmpty || digits.any fun unit => base ≤ digitValue unit then none
  else some (digits.foldl (fun value unit => base * value + digitValue unit) 0)

/-- A text cut after the decimal digits that it starts with. -/
def spanDigits (t : Text) : Text × Text :=
  t.span fun unit => digitValue unit < 10

/-- A text after the sign that it may start with, and whether that is a minus sign. -/
def signed (t : Text) : Bool × Text :=
  match t with
  | 0x2D :: rest => (true, rest)
  | 0x2B :: rest => (false, rest)
  | _ => (false, t)

/-- The exponent that follows the digits of a number, zero if nothing follows them. -/
def exponent? : Text → Option Int
  | [] => some 0
  | unit :: rest =>
    if unit = 0x65 ∨ unit = 0x45 then
      let (negative, digits) := signed rest
      (digitsValue? 10 digits).map fun value => if negative then -(value : Int) else value
    else none

/-- The number that a decimal number without a sign denotes. -/
def decimal? (negative : Bool) (t : Text) : Option Number :=
  let (whole, afterWhole) := spanDigits t
  let (fraction, rest) : Text × Text :=
    match afterWhole with
    | 0x2E :: afterPoint => spanDigits afterPoint
    | _ => ([], afterWhole)
  match digitsValue? 10 (whole ++ fraction), exponent? rest with
  | some digits, some exponent => some (.ofDecimal negative digits (exponent - fraction.length))
  | _, _ => none

/-- The number that digits after a prefix denote. -/
def prefixed? (t : Text) : Option Number :=
  match t with
  | 0x30 :: letter :: digits =>
    let base :=
      if letter = 0x78 ∨ letter = 0x58 then 16
      else if letter = 0x6F ∨ letter = 0x4F then 8
      else if letter = 0x62 ∨ letter = 0x42 then 2
      else 0
    (digitsValue? base digits).map .ofNat
  | _ => none

/-- The number that a text denotes. -/
def number (t : Text) : Number :=
  let content := t.trim
  if content.isEmpty then .zero false
  else
    match prefixed? content with
    | some value => value
    | none =>
      let (negative, magnitude) := signed content
      if magnitude = ofString "Infinity" then .infinity negative
      else (decimal? negative magnitude).getD .nan

end Pairing.Text
