/-
**What is wrong with a configuration text.**

* `Json5.Fault` — the three faults of a text, each with the line and the column where it was found.
* `Json5.Fault.message` — the wording.
* `Json5.shownPoint` — how a code point is shown in it: control characters, quotation marks and line
  separators are escaped.
-/

import Pairing.Text.Quoted

namespace Pairing.Json5

/-- A place in a configuration text: lines count from one, columns in units from zero. -/
structure Mark where
  /-- The line. -/
  line : Nat
  /-- The units of the line up to and with the code point last read. -/
  column : Nat
  deriving DecidableEq, Repr

/-- What is wrong with a configuration text. -/
inductive Fault where
  /-- A code point that may not stand where it stands. -/
  | character (point : Nat) (mark : Mark)
  /-- The text ends before its value is complete. -/
  | endOfText (mark : Mark)
  /-- An escape in a name denotes a code point that may not stand there. -/
  | nameEscape (mark : Mark)
  deriving DecidableEq, Repr

/-- A mark as `line:column`. -/
def Mark.text (mark : Mark) : Text :=
  Text.ofNat mark.line ++ Text.ofString ":" ++ Text.ofNat mark.column

/-- A code point as a message shows it. -/
def shownPoint (point : Nat) : Text :=
  if point = 0x27 then "\\'"
  else if point = 0x22 then "\\\""
  else if point = 0x5C then "\\\\"
  else if point = 0x08 then "\\b"
  else if point = 0x0C then "\\f"
  else if point = 0x0A then "\\n"
  else if point = 0x0D then "\\r"
  else if point = 0x09 then "\\t"
  else if point = 0x0B then "\\v"
  else if point = 0 then "\\0"
  else if point = 0x2028 then "\\u2028"
  else if point = 0x2029 then "\\u2029"
  else if point < 0x20 then
    Text.ofString "\\x" ++ [Text.hexDigit (point / 16), Text.hexDigit (point % 16)]
  else Text.ofCodePoint point

/-- The wording of a fault. -/
def Fault.message : Fault → Text
  | .character point mark =>
    Text.ofString "invalid character '" ++ shownPoint point ++ Text.ofString "' at " ++ mark.text
  | .endOfText mark => Text.ofString "invalid end of input at " ++ mark.text
  | .nameEscape mark => Text.ofString "invalid identifier character at " ++ mark.text

end Pairing.Json5
