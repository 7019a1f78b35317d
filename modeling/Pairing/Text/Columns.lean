/-
**Texts in columns.**

Many short texts are easier to read side by side than below each other.

* `Text.columns` — how many columns of a typeface of fixed width a text takes.
* `Grid` — texts to be put side by side, with how wide each one is.
* `Grid.columnCount` — how many go into a row: as many as make about a square, of those that fit into a
  line.
* `Grid.lines?` — the rows, if the texts are alike enough and short enough to be put side by side.
-/

import Pairing.Text.Composed
import Pairing.Unicode.ColumnWidth

namespace Pairing

/-- How many columns a text takes in a typeface of fixed width. -/
def Text.columns (t : Text) : Nat :=
  t.composed.codePoints.foldl (fun sum point => sum + Unicode.columnWidth point) 0

/-- A number of spaces. -/
def Text.spaces (count : Nat) : Text :=
  List.replicate count Text.space

/-- The columns of a line. -/
def Text.lineWidth : Nat := 80

/-- Texts to be put side by side. -/
structure Grid where
  /-- The texts, each with its width. -/
  cells : List (Text × Nat)
  /-- How far the rows are indented. -/
  indent : Nat
  /-- How many lines the texts would take below each other. -/
  lineCount : Nat
  /-- Whether the texts are moved to the ends of their columns. -/
  alignsEnds : Bool

namespace Grid

/-- What stands between the texts of a row. -/
def separator : Text := ", "

/-- The texts of a grid. -/
def ofTexts (texts : List Text) (indent lineCount : Nat) (alignsEnds : Bool) : Grid :=
  ⟨texts.map fun t => (t, t.columns), indent, lineCount, alignsEnds⟩

/-- The width of the widest text. -/
def widest (grid : Grid) : Nat :=
  grid.cells.foldl (fun width (_, w) => max width w) 0

/-- The width of the widest text with its separator. -/
def pitch (grid : Grid) : Nat :=
  grid.widest + separator.length

/-- The widths of all texts with their separators. -/
def total (grid : Grid) : Nat :=
  grid.cells.foldl (fun sum (_, w) => sum + (w + separator.length)) 0

/-- Whether the texts are short enough and alike enough: three of the widest fit into a line, and the
widest one takes no more than a fifth of all or is very short. -/
def isEven (grid : Grid) : Bool :=
  3 * grid.pitch + grid.indent < Text.lineWidth && (5 * grid.pitch < grid.total || grid.widest ≤ 6)

/-- Whether rows of so many texts are no wider than a square, rounded to the nearest number. A row is
two and a half times as high as a character is wide, and what a text takes is counted three columns and
the root of what it leaves free on average short of the widest one, but as one column at least:
`columns − 1/2 ≤ √(5/2 · n / b)` with `b = max 1 (p − 3 − √(p − t / l))`. -/
def isWithinSquare (grid : Grid) (columns : Nat) : Bool :=
  let odd := 2 * columns - 1
  let square := odd * odd
  let area := 10 * grid.cells.length
  let excess := square * (grid.pitch - 3) - area
  square ≤ area &&
    excess * excess * grid.lineCount ≤ square * square * (grid.pitch * grid.lineCount - grid.total)

/-- The most texts in a row. -/
def mostColumns : Nat := 12

/-- How many texts go into a row. -/
def columnCount (grid : Grid) : Nat :=
  min ((Text.lineWidth - grid.indent) / grid.pitch)
    ((List.range mostColumns).filter fun i => grid.isWithinSquare (i + 1)).length

/-- The rows of so many texts each. -/
def rows (grid : Grid) (columns : Nat) : List (List (Text × Nat)) :=
  (List.range ((grid.cells.length + columns - 1) / columns)).map fun row =>
    (grid.cells.drop (row * columns)).take columns

/-- The widths of the columns of some rows. -/
def columnWidths (rows : List (List (Text × Nat))) (columns : Nat) : List Nat :=
  (List.range columns).map fun column =>
    rows.foldl (fun width row => max width ((row[column]?.map (·.2)).getD 0)) 0

/-- A row, given the widths of its columns. Blanks fill the columns up. -/
def rowText (alignsEnds : Bool) : List ((Text × Nat) × Nat) → Text
  | [] => []
  | [((t, width), column)] => if alignsEnds then Text.spaces (column - width) ++ t else t
  | ((t, width), column) :: rest =>
    let blanks := Text.spaces (column - width)
    (if alignsEnds then blanks ++ t ++ separator else t ++ separator ++ blanks) ++
      rowText alignsEnds rest

/-- The rows as text, if the texts are to be put side by side. -/
def lines? (grid : Grid) : Option (List Text) :=
  let columns := grid.columnCount
  if grid.isEven && 1 < columns then
    let rows := grid.rows columns
    let widths := columnWidths rows columns
    some (rows.map fun row => rowText grid.alignsEnds (row.zip widths))
  else none

end Grid

end Pairing
