/-
**Quoted texts.**

* `Text.quoted` — a text between quotation marks: quotation marks, backslashes and control
  characters are escaped, and so is a surrogate without its partner. Everything else stands as it is.
-/

import Pairing.Text.CodePoint

namespace Pairing.Text

/-- A hexadecimal digit in lower case. -/
def hexDigit (n : Nat) : UInt16 :=
  if n < 10 then (0x30 + n).toUInt16 else (0x57 + n).toUInt16

/-- The four hexadecimal digits of a unit. -/
def hexDigits4 (unit : UInt16) : Text :=
  [hexDigit (unit.toNat / 0x1000), hexDigit (unit.toNat / 0x100 % 16),
    hexDigit (unit.toNat / 0x10 % 16), hexDigit (unit.toNat % 16)]

/-- How a unit that is not half of a surrogate pair is written between quotation marks. -/
def escapeUnit (unit : UInt16) : Text :=
  if unit = quote then [backslash, quote]
  else if unit = backslash then [backslash, backslash]
  else if unit = 0x08 then "\\b"
  else if unit = 0x09 then "\\t"
  else if unit = 0x0A then "\\n"
  else if unit = 0x0C then "\\f"
  else if unit = 0x0D then "\\r"
  else if unit < 0x20 || isLeading unit || isTrailing unit then ofString "\\u" ++ hexDigits4 unit
  else [unit]

/-- The text between the quotation marks. -/
def escaped : Text → Text
  | [] => []
  | [unit] => escapeUnit unit
  | first :: second :: rest =>
    if isLeading first && isTrailing second then first :: second :: escaped rest
    else escapeUnit first ++ escaped (second :: rest)

/-- The text between quotation marks. -/
def quoted (t : Text) : Text :=
  quote :: escaped t ++ [quote]

end Pairing.Text
