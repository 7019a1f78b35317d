/-
**Times in a log.**

A time is a number of milliseconds since the start of 1970, in Universal Time.

* `Timestamp.dateOfDay` — the date of a day in the Gregorian calendar, carried back before its
  introduction.
* `Timestamp.text?` — a time in the format of ISO 8601. Years beyond four digits have a sign and six
  digits, and times more than a hundred million days from 1970 have no text.
-/

import Pairing.Text.Basic

namespace Pairing.Timestamp

/-- A date of the Gregorian calendar. -/
structure Date where
  /-- The year; year 0 precedes year 1. -/
  year : Int
  /-- The month, from 1 to 12. -/
  month : Nat
  /-- The day of the month, from 1. -/
  day : Nat
  deriving DecidableEq, Repr

/-- The milliseconds of a day. -/
def millisecondsPerDay : Int := 86400000

/-- How far from 1970 a time may lie. -/
def range : Int := 100000000 * millisecondsPerDay

/-- The date of a day counted from the first of January 1970. Years are counted from March, so that
the day a leap year adds comes last, and the calendar repeats every 146097 days. -/
def dateOfDay (day : Int) : Date :=
  let shifted := day + 719468
  let era := Int.fdiv shifted 146097
  let dayOfEra := (Int.fmod shifted 146097).toNat
  let yearOfEra :=
    (dayOfEra - dayOfEra / 1460 + dayOfEra / 36524 - dayOfEra / 146096) / 365
  let dayOfYear := dayOfEra - (365 * yearOfEra + yearOfEra / 4 - yearOfEra / 100)
  let monthFromMarch := (5 * dayOfYear + 2) / 153
  let month := if monthFromMarch < 10 then monthFromMarch + 3 else monthFromMarch - 9
  { year := era * 400 + yearOfEra + if month ≤ 2 then 1 else 0
    month := month
    day := dayOfYear - (153 * monthFromMarch + 2) / 5 + 1 }

/-- A number with zeros before it up to a width. -/
def padded (width n : Nat) : Text :=
  let digits := Text.ofNat n
  List.replicate (width - digits.length) 0x30 ++ digits

/-- A year: four digits, or a sign and six. -/
def yearText (year : Int) : Text :=
  if 0 ≤ year ∧ year ≤ 9999 then padded 4 year.toNat
  else if year < 0 then Text.ofString "-" ++ padded 6 year.natAbs
  else Text.ofString "+" ++ padded 6 year.natAbs

/-- A time in the format of ISO 8601, if it is within range. -/
def text? (time : Int) : Option Text :=
  if time < -range ∨ range < time then none
  else
    let date := dateOfDay (Int.fdiv time millisecondsPerDay)
    let rest := (Int.fmod time millisecondsPerDay).toNat
    some <| yearText date.year ++ Text.ofString "-" ++ padded 2 date.month ++ Text.ofString "-" ++
      padded 2 date.day ++ Text.ofString "T" ++ padded 2 (rest / 3600000) ++ Text.ofString ":" ++
      padded 2 (rest / 60000 % 60) ++ Text.ofString ":" ++ padded 2 (rest / 1000 % 60) ++
      Text.ofString "." ++ padded 3 (rest % 1000) ++ Text.ofString "Z"

end Pairing.Timestamp
