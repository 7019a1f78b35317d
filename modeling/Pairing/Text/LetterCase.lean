/-
**Texts in upper and lower case.**

* `Text.upperCased`, `Text.lowerCased` — a text in upper or lower case. At the end of a word the capital
  sigma has a form of its own in lower case.
-/

import Pairing.Text.CodePoint
import Pairing.Unicode.LetterCase

namespace Pairing.Text

open Unicode

/-- The capital sigma. -/
def capitalSigma : Nat := 0x3A3

/-- Whether the first code point that separates letters is one with case. -/
def meetsCased (points : List Nat) : Bool :=
  match points.dropWhile isCaseIgnorable with
  | [] => false
  | point :: _ => isCased point

/-- Code points in lower case, after some that come last first. -/
def lowerCasedPoints (earlier : List Nat) : List Nat → List Nat
  | [] => []
  | point :: rest =>
    let endsWord := point == capitalSigma && meetsCased earlier && !meetsCased rest
    (if endsWord then [0x3C2] else lowerCase point) ++ lowerCasedPoints (point :: earlier) rest

/-- The text in lower case. -/
def lowerCased (t : Text) : Text :=
  ofCodePoints (lowerCasedPoints [] t.codePoints)

/-- The text in upper case. -/
def upperCased (t : Text) : Text :=
  ofCodePoints (t.codePoints.flatMap upperCase)

end Pairing.Text
