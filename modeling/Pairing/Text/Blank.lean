/-
**Blank units.**

* `Text.isBlank` — the white space and line ends of the Unicode standard, and the byte order mark.
* `Text.trim` — a text without the blanks at its two ends.
-/

import Pairing.Text.Basic

namespace Pairing.Text

/-- Whether a unit is white space or ends a line. -/
def isBlank (unit : UInt16) : Bool :=
  (0x09 ≤ unit && unit ≤ 0x0D) || unit == 0x20 || unit == 0xA0 || unit == 0x1680 ||
    (0x2000 ≤ unit && unit ≤ 0x200A) || unit == 0x2028 || unit == 0x2029 || unit == 0x202F ||
    unit == 0x205F || unit == 0x3000 || unit == 0xFEFF

/-- The text without the blanks it starts with. -/
def trimStart (t : Text) : Text :=
  t.dropWhile isBlank

/-- The text without the blanks it ends with. -/
def trimEnd (t : Text) : Text :=
  (t.reverse.dropWhile isBlank).reverse

/-- The text without the blanks at its two ends. -/
def trim (t : Text) : Text :=
  t.trimStart.trimEnd

end Pairing.Text
