/-
**Edits by values of any kind.**

A rule that nobody checked may have delimiters of any kind, and an edit is made of what they are: its
text and its numbers may be of any kind too. Where a number is missing, the cursor is lost.

* `LooseEdit` — such an edit.
* `LooseBuffer` — a text with a cursor that may be lost.
* `LooseBuffer.apply` — a buffer after an edit, or what is thrown because the edit cannot be made.
-/

import Pairing.Data.Simple
import Pairing.Edit
import Pairing.HostFunction

namespace Pairing

/-- An edit whose parts may be of any kind. -/
inductive LooseEdit where
  /-- What the host does with the key on its own. -/
  | passThrough (key : Text)
  /-- The cursor moves. -/
  | move (offset : Data HostFunction)
  /-- Units on both sides of the cursor are replaced by a text, and the cursor is put into it. -/
  | replace (deleteBefore deleteAfter text cursorOffset : Data HostFunction)

namespace LooseEdit

/-- The kind of an edit. -/
def kind : LooseEdit → EditKind
  | .passThrough _ => .passThrough
  | .move _ => .move
  | .replace .. => .replace

/-- A whole number as a part of an edit. -/
def whole (i : Int) : Data HostFunction :=
  .number (.ofInt i)

/-- A simple value as a part of an edit. -/
def part (value : Data Unit) : Data HostFunction :=
  value.map fun _ => .constant .missing

/-- Inserts a value and puts the cursor before its end, by the length of the closing. -/
def insertPair (text closingLength : Data HostFunction) : Except Fault LooseEdit := do
  let length ← text.extent
  let offset ← (length.difference closingLength).mapError .thrown
  return .replace (whole 0) (whole 0) text (part offset)

/-- Inserts a value and puts the cursor after it. -/
def insertText (text : Data HostFunction) : Except Fault LooseEdit := do
  return .replace (whole 0) (whole 0) text (← text.extent)

end LooseEdit

/-- A text with a cursor that may be lost. -/
structure LooseBuffer where
  /-- The text. -/
  text : Text
  /-- The line of the cursor. -/
  line : Int
  /-- The column of the cursor. It is not a number where the cursor is lost. -/
  column : Number
  deriving DecidableEq, Repr

namespace LooseBuffer

/-- A buffer with a cursor. -/
def ofBuffer (buffer : Buffer) : LooseBuffer :=
  ⟨buffer.text, buffer.cursor.line, .ofInt buffer.cursor.column⟩

/-- Whether the cursor is lost. -/
def isLost (buffer : LooseBuffer) : Bool :=
  buffer.column.isNaN

/-- The buffer with its cursor at a whole column. A lost cursor counts as one at the start. -/
def settled (buffer : LooseBuffer) : Buffer :=
  ⟨buffer.text, ⟨buffer.line, buffer.column.truncated⟩⟩

/-- The offset of the cursor. -/
def offset (buffer : LooseBuffer) : Number :=
  if buffer.isLost then .nan else .ofInt buffer.settled.offset

/-- A number kept between two others. What is not a number stays as it is. -/
def kept (low high n : Number) : Number :=
  if n.isNaN then n
  else if n.orderKey < low.orderKey then low
  else if high.orderKey < n.orderKey then high
  else n

/-- A text with the cursor at an offset. -/
def ofOffset (text : Text) (offset : Number) : LooseBuffer :=
  let target := kept (.zero false) (.ofNat text.length) offset
  if target.isNaN then ⟨text, 0, target⟩
  else
    let position := text.positionAt target.truncated
    let start := target.truncated - position.column
    ⟨text, position.line, target.subtract (.ofInt start)⟩

/-- What the host does with a key on its own where the cursor is lost. -/
def applyLostKey (text key : Text) : LooseBuffer :=
  if key = backspaceKey then ofOffset text .nan
  else if key = enterKey then ofOffset (Text.newline :: text) .nan
  else ofOffset (key ++ text) .nan

/-- A buffer after units on both sides of its cursor are replaced by a value. -/
def replace (buffer : LooseBuffer) (deleteBefore deleteAfter inserted cursorOffset : Data HostFunction) :
    Except Thrown LooseBuffer := do
  let cursor : Data HostFunction := .number buffer.offset
  let length := Number.ofNat buffer.text.length
  let start := kept (.zero false) (.infinity false) (← (LooseEdit.part (← cursor.difference deleteBefore)).amount)
  let stop := kept (.infinity true) length (← (LooseEdit.part (← cursor.sum deleteAfter)).amount)
  let opened ← (Data.text (buffer.text.slice 0 start.truncated)).sum inserted
  let text ← (LooseEdit.part opened).plain
  let whole := text ++ buffer.text.sliceFrom stop.truncated
  let offset ← ((Data.number start).sum cursorOffset)
  return ofOffset whole (← offset.amount)

/-- A buffer after an edit at its cursor. -/
def apply (buffer : LooseBuffer) (edit : LooseEdit) : Except Thrown LooseBuffer :=
  match edit with
  | .passThrough key =>
    .ok (if buffer.isLost then applyLostKey buffer.text key
      else ofBuffer (buffer.settled.apply (.passThrough key)))
  | .move distance => do
    let target ← (Data.number buffer.offset).sum distance
    return ofOffset buffer.text (← target.amount)
  | .replace deleteBefore deleteAfter inserted cursorOffset =>
    buffer.replace deleteBefore deleteAfter inserted cursorOffset

end LooseBuffer

end Pairing
