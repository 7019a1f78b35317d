/-
**The editor at the moment of a keystroke.**

* `Snapshot` — what the host hands over for a keystroke.
* `Context` — the same with the line cut in two at the cursor, so that no column can be out of range.
* `Context.textBefore`, `Context.textAfter`, `Context.textAround` — the text next to the cursor.
* `Context.isBefore`, `Context.isAfter` — whether a text stands there; the empty text is refused.
* `Context.isEscaped` — whether an odd run of backslashes ends at the cursor.
-/

import Pairing.Oracle
import Pairing.Text.Blank

namespace Pairing

/-- The mode of an editor. -/
inductive Mode where
  /-- Text is inserted. -/
  | insert
  /-- A command line is edited. -/
  | command
  /-- Text is overwritten. -/
  | replace
  /-- Another mode, by its name. -/
  | other (name : Text)
  deriving DecidableEq, Repr

/-- The name of a mode. -/
def Mode.name : Mode → Text
  | .insert => "insert"
  | .command => "command"
  | .replace => "replace"
  | .other name => name

/-- The mode of a name. -/
def Mode.ofName (name : Text) : Mode :=
  ([Mode.insert, .command, .replace].find? fun mode => mode.name == name).getD (.other name)

/-- The editor state that a host hands over for a keystroke. -/
structure Snapshot where
  /-- The line with the cursor. -/
  lineText : Text
  /-- The cursor, its column counting units of the line. -/
  cursor : Position
  /-- The filetype of the buffer. -/
  filetype : Text
  /-- The mode of the editor. -/
  mode : Mode
  /-- The indentation of a line opened between a pair. -/
  indentUnit : Option Text
  deriving DecidableEq, Repr

/-- What the rules see of the editor during one keystroke. -/
structure Context where
  /-- The line up to the cursor. -/
  before : Text
  /-- The line from the cursor on. -/
  after : Text
  /-- The line number of the cursor. -/
  line : Int
  /-- The filetype of the buffer. -/
  filetype : Text
  /-- The mode of the editor. -/
  mode : Mode
  /-- The indentation of a line opened between a pair. -/
  indentUnit : Text
  /-- The host's knowledge of the buffer. -/
  oracle : Oracle

/-- The indentation of an opened line where nothing names one. -/
def defaultIndentUnit : Text := [Text.tab]

namespace Context

/-- The context of a snapshot. A cursor beside the line is moved to the nearer end of it. -/
def ofSnapshot (snapshot : Snapshot) (oracle : Oracle) : Context :=
  let column := snapshot.cursor.column.toNat
  { before := snapshot.lineText.take column
    after := snapshot.lineText.drop column
    line := snapshot.cursor.line
    filetype := snapshot.filetype
    mode := snapshot.mode
    indentUnit := snapshot.indentUnit.getD defaultIndentUnit
    oracle := oracle }

/-- The line with the cursor. -/
def lineText (ctx : Context) : Text :=
  ctx.before ++ ctx.after

/-- The column of the cursor. -/
def column (ctx : Context) : Nat :=
  ctx.before.length

/-- The cursor. -/
def cursor (ctx : Context) : Position :=
  ⟨ctx.line, ctx.column⟩

/-- A place on the line of the cursor. -/
def place (ctx : Context) (column : Nat) : Position :=
  ⟨ctx.line, column⟩

@[simp]
theorem lineText_ofSnapshot (snapshot : Snapshot) (oracle : Oracle) :
    (ofSnapshot snapshot oracle).lineText = snapshot.lineText := by
  simp [lineText, ofSnapshot]

/-! ### The text next to the cursor -/

/-- The unit before the cursor, on which a block cursor sits, or nothing at the start of the line. -/
def charUnderCursor (ctx : Context) : Text :=
  ctx.before.getLast?.toList

/-- The column after the last unit before the cursor that is not blank, zero if there is none. -/
def contentColumn (ctx : Context) : Nat :=
  ctx.before.trimEnd.length

/-- Up to `count` units before the cursor. -/
def textBefore (ctx : Context) (count : Int) : Text :=
  ctx.before.drop (ctx.column - count).toNat

/-- Up to `count` units after the cursor. -/
def textAfter (ctx : Context) (count : Int) : Text :=
  ctx.lineText.slice ctx.column (ctx.column + count)

/-- The text between two offsets from the cursor. -/
def textAround (ctx : Context) (start stop : Int) : Text :=
  ctx.lineText.slice (max 0 (ctx.column + start)) (max 0 (ctx.column + stop))

/-- The spaces and tabs that the line starts with. -/
def baseIndent (ctx : Context) : Text :=
  ctx.lineText.takeWhile fun unit => unit == Text.space || unit == Text.tab

/-- Whether an odd run of backslashes ends at the cursor. -/
def isEscaped (ctx : Context) : Bool :=
  (ctx.before.reverse.takeWhile (· == Text.backslash)).length % 2 == 1

/-- Whether a text stands at the cursor. -/
def startsAfter (ctx : Context) (t : Text) : Bool :=
  t.isPrefixOf ctx.after

/-- Whether a text ends at the cursor. -/
def endsBefore (ctx : Context) (t : Text) : Bool :=
  t.isSuffixOf ctx.before

/-- The text after the cursor, without a space that is to be passed over. -/
def afterSpace (ctx : Context) : Text :=
  if ctx.after.head? = some Text.space then ctx.after.tail else ctx.after

/-- The text before the cursor, without a space that is to be passed over. -/
def beforeSpace (ctx : Context) : Text :=
  if ctx.before.getLast? = some Text.space then ctx.before.dropLast else ctx.before

/-- Whether a text stands at the cursor, or after one space if that is to be passed over. -/
def isAfter (ctx : Context) (t : Text) (passSpace : Bool) : Except Fault Bool :=
  if t.isEmpty then .error (.emptyComparison .after)
  else .ok (t.isPrefixOf (if passSpace then ctx.afterSpace else ctx.after))

/-- Whether a text ends at the cursor, or before one space if that is to be passed over. -/
def isBefore (ctx : Context) (t : Text) (passSpace : Bool) : Except Fault Bool :=
  if t.isEmpty then .error (.emptyComparison .before)
  else .ok (t.isSuffixOf (if passSpace then ctx.beforeSpace else ctx.before))

end Context

end Pairing
