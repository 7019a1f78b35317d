/-
**The composed form of a text.**

Canonically equivalent texts, such as a letter with an accent and the same letter followed by a
combining accent, have one composed form (normalization form C).

* `Text.orderMarks` — combining marks in the order of their classes.
* `Text.composePoints` — each starter composed with the marks that nothing blocks.
* `Text.composed`, `Text.decomposed` — the composed form, and the form with nothing composed.
-/

import Pairing.Text.CodePoint
import Pairing.Unicode.CombiningClass
import Pairing.Unicode.Decomposition

namespace Pairing.Text

open Unicode

/-- Puts a code point after the ones before it, which come last first: a mark moves before marks of
a higher class. -/
def placeMark (point : Nat) : List Nat → List Nat
  | [] => [point]
  | last :: earlier =>
    if combiningClass point ≠ 0 ∧ combiningClass point < combiningClass last then
      last :: placeMark point earlier
    else point :: last :: earlier

/-- The code points with the marks after each starter in the order of their classes. -/
def orderMarks (points : List Nat) : List Nat :=
  (points.foldl (fun earlier point => placeMark point earlier) []).reverse

/-- Whether nothing between a starter and a code point keeps them from composing. The marks between
them come last first. -/
def isUnblocked (marks : List Nat) (point : Nat) : Bool :=
  match marks with
  | [] => true
  | last :: _ => combiningClass last < combiningClass point

/-- Composes a starter, the marks kept after it and the code points that follow. -/
def composeFrom (starter : Nat) (marks : List Nat) : List Nat → List Nat
  | [] => starter :: marks.reverse
  | point :: rest =>
    match if isUnblocked marks point then compose? starter point else none with
    | some composite => composeFrom composite marks rest
    | none =>
      if combiningClass point = 0 then starter :: marks.reverse ++ composeFrom point [] rest
      else composeFrom starter (point :: marks) rest

/-- Composes ordered code points. Marks before the first starter stay as they are. -/
def composePoints : List Nat → List Nat
  | [] => []
  | point :: rest =>
    if combiningClass point = 0 then composeFrom point [] rest else point :: composePoints rest

/-- The decomposed form of a text. -/
def decomposed (t : Text) : Text :=
  ofCodePoints (orderMarks (t.codePoints.flatMap decompose))

/-- The composed form of a text. -/
def composed (t : Text) : Text :=
  ofCodePoints (composePoints (orderMarks (t.codePoints.flatMap decompose)))

end Pairing.Text
