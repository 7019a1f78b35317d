/-
**Positions and offsets.**

A position names a line and a column, an offset counts the units before it. A line table holds the
offsets at which the lines of a text start and turns one into the other.

* `LineTable.offsetAt` — the offset of a position, kept inside the table's lines and inside the line.
* `LineTable.positionAt` — the position of an offset, found by halving the table.
* `Text.offsetAt`, `Text.positionAt`, `Text.lineAt` — the same for the lines of a text.
-/

import Pairing.Text.Basic

namespace Pairing

/-- A line and a column, both counted from zero. Hosts may name places outside the text. -/
structure Position where
  /-- The line, counted from zero. -/
  line : Int
  /-- The units of the line before the position. -/
  column : Int
  deriving DecidableEq, Repr, Inhabited

/-- Where the lines of a text of some length start. -/
structure LineTable where
  /-- The offset of the first unit of each line. -/
  starts : List Int
  /-- The length of the text. -/
  length : Int
  deriving DecidableEq, Repr

namespace LineTable

/-- The offsets just past the newlines of a text that stands at an offset. -/
def startsAfter (offset : Nat) : Text → List Int
  | [] => []
  | unit :: rest =>
    if unit = Text.newline then (offset + 1 : Nat) :: startsAfter (offset + 1) rest
    else startsAfter (offset + 1) rest

/-- The line table of a text. Line 0 starts at 0 whatever the text. -/
def ofText (t : Text) : LineTable :=
  ⟨0 :: startsAfter 0 t, t.length⟩

/-- Where a line starts, when there is one. -/
def start? (table : LineTable) (line : Int) : Option Int :=
  if line < 0 then none else table.starts[line.toNat]?

/-- The offset at which a line starts, the start of the text when there is no such line. -/
def start (table : LineTable) (line : Int) : Int :=
  (table.start? line).getD 0

/-- The offset at which a line ends: before the newline, or where the text ends. -/
def stop (table : LineTable) (line : Int) : Int :=
  match table.start? (line + 1) with
  | some next => next - 1
  | none => table.length

/-- The line that answers for a line number: a number past either end names the nearest line. -/
def nearestLine (table : LineTable) (line : Int) : Int :=
  min (max 0 line) ((table.starts.length : Int) - 1)

/-- The offset of a position, never beyond the end of its line. -/
def offsetAt (table : LineTable) (position : Position) : Int :=
  let line := table.nearestLine position.line
  min (table.start line + max 0 position.column) (table.stop line)

/-- The last line among `low` to `high` that starts at or before `target`, found by halving. -/
def lineBefore (table : LineTable) (target : Int) (low high : Nat) : Nat :=
  if low < high then
    let middle := (low + high + 1) / 2
    if table.start middle ≤ target then lineBefore table target middle high
    else lineBefore table target low (middle - 1)
  else low
termination_by high - low

/-- The position of an offset, kept inside the text. -/
def positionAt (table : LineTable) (offset : Int) : Position :=
  let target := min (max 0 offset) table.length
  let line := table.lineBefore target 0 (table.starts.length - 1)
  ⟨line, target - table.start line⟩

end LineTable

namespace Text

/-- The offset of a position in a text. -/
def offsetAt (t : Text) (position : Position) : Int :=
  (LineTable.ofText t).offsetAt position

/-- The position of an offset in a text. -/
def positionAt (t : Text) (offset : Int) : Position :=
  (LineTable.ofText t).positionAt offset

/-- The line that holds a position, empty when there is no such line. -/
def lineAt (t : Text) (position : Position) : Text :=
  if position.line < 0 then [] else t.lines[position.line.toNat]?.getD []

end Text

end Pairing
