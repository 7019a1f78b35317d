/-
**Texts as literals.**

* `Text.literalMark` — the mark that a literal stands between: an apostrophe, unless the text holds one and
  does not hold another mark.
* `Text.literal` — a text between two marks. The apostrophe that is its mark, backslashes, controls and
  surrogates without a partner are escaped.
-/

import Pairing.Text.Quoted

namespace Pairing.Text

/-- The apostrophe. -/
def apostrophe : UInt16 := 0x27

/-- The grave accent. -/
def graveAccent : UInt16 := 0x60

/-- The mark that a literal stands between. A grave accent is no mark for a text that holds what would
open a placeholder in it. -/
def literalMark (t : Text) : UInt16 :=
  if !List.elem apostrophe t then apostrophe
  else if !List.elem quote t then quote
  else if !List.elem graveAccent t && !t.contains [0x24, 0x7B] then graveAccent
  else apostrophe

/-- Whether a unit is a control. -/
def isControl (unit : UInt16) : Bool :=
  unit < 0x20 || (0x7F ≤ unit && unit ≤ 0x9F)

/-- A hexadecimal digit in upper case. -/
def upperHexDigit (n : Nat) : UInt16 :=
  if n < 10 then (0x30 + n).toUInt16 else (0x37 + n).toUInt16

/-- How a control is written in a literal. -/
def controlEscape (unit : UInt16) : Text :=
  if unit = 0x08 then "\\b"
  else if unit = 0x09 then "\\t"
  else if unit = 0x0A then "\\n"
  else if unit = 0x0C then "\\f"
  else if unit = 0x0D then "\\r"
  else ofString "\\x" ++ [upperHexDigit (unit.toNat / 0x10), upperHexDigit (unit.toNat % 0x10)]

/-- How a unit that is not half of a surrogate pair is written in a literal with a mark. -/
def literalEscape (mark unit : UInt16) : Text :=
  if unit = mark ∨ unit = backslash then [backslash, unit]
  else if isControl unit then controlEscape unit
  else if isLeading unit || isTrailing unit then ofString "\\u" ++ hexDigits4 unit
  else [unit]

/-- The text between the marks of a literal. -/
def literalBody (mark : UInt16) : Text → Text
  | [] => []
  | [unit] => literalEscape mark unit
  | first :: second :: rest =>
    if isLeading first && isTrailing second then first :: second :: literalBody mark rest
    else literalEscape mark first ++ literalBody mark (second :: rest)

/-- A text as a literal. -/
def literal (t : Text) : Text :=
  let mark := t.literalMark
  mark :: literalBody mark t ++ [mark]

end Pairing.Text
