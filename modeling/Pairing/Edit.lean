/-
**Edits and buffers.**

A decision about a keystroke is one edit at the cursor, which a host carries out as a whole.

* `Edit` — let the key through, move the cursor, or replace the text around it.
* `Buffer` — a text with a cursor.
* `Buffer.apply` — a buffer after an edit. Edits that reach beyond the text stop at its ends.
-/

import Pairing.Position

namespace Pairing

/-- What a keystroke does to a buffer. -/
inductive Edit where
  /-- What the host does with the key on its own. -/
  | passThrough (key : Text)
  /-- The cursor moves. -/
  | move (offset : Int)
  /-- Units on both sides of the cursor are replaced by a text, and the cursor is put into it. -/
  | replace (deleteBefore deleteAfter : Int) (text : Text) (cursorOffset : Int)
  deriving DecidableEq, Repr

/-- The kinds of edits. -/
inductive EditKind where
  /-- The key goes to the host. -/
  | passThrough
  /-- The cursor moves. -/
  | move
  /-- Text is replaced. -/
  | replace
  deriving DecidableEq, Repr

/-- The name of a kind. -/
def EditKind.name : EditKind → Text
  | .passThrough => "passthrough"
  | .move => "move"
  | .replace => "replace"

namespace Edit

/-- The kind of an edit. -/
def kind : Edit → EditKind
  | .passThrough _ => .passThrough
  | .move _ => .move
  | .replace .. => .replace

/-- Inserts a text and puts the cursor before its last `closingLength` units. -/
def insertPair (text : Text) (closingLength : Nat) : Edit :=
  .replace 0 0 text (text.length - closingLength)

/-- Inserts a text and puts the cursor after it. -/
def insertText (text : Text) : Edit :=
  .replace 0 0 text text.length

end Edit

/-- The name of the key that erases. -/
def backspaceKey : Text := "Backspace"

/-- The name of the key that opens a line. -/
def enterKey : Text := "Enter"

/-- The name of the space bar. -/
def spaceKey : Text := " "

/-- A text with a cursor. -/
structure Buffer where
  /-- The text. -/
  text : Text
  /-- The cursor. -/
  cursor : Position
  deriving DecidableEq, Repr

namespace Buffer

/-- The offset of the cursor. -/
def offset (buffer : Buffer) : Int :=
  buffer.text.offsetAt buffer.cursor

/-- The line with the cursor. -/
def line (buffer : Buffer) : Text :=
  buffer.text.lineAt buffer.cursor

/-- A text with the cursor at an offset. -/
def ofOffset (text : Text) (offset : Int) : Buffer :=
  ⟨text, text.positionAt offset⟩

/-- What the host does with a key on its own. -/
def applyKey (text : Text) (offset : Int) (key : Text) : Buffer :=
  if key = backspaceKey then
    if offset = 0 then ofOffset text offset
    else ofOffset (text.slice 0 (offset - 1) ++ text.sliceFrom offset) (offset - 1)
  else if key = enterKey then
    ofOffset (text.slice 0 offset ++ [Text.newline] ++ text.sliceFrom offset) (offset + 1)
  else ofOffset (text.slice 0 offset ++ key ++ text.sliceFrom offset) (offset + key.length)

/-- A buffer after an edit at its cursor. -/
def apply (buffer : Buffer) (edit : Edit) : Buffer :=
  let offset := buffer.offset
  match edit with
  | .passThrough key => applyKey buffer.text offset key
  | .move distance =>
    ofOffset buffer.text (min (max 0 (offset + distance)) buffer.text.length)
  | .replace deleteBefore deleteAfter inserted cursorOffset =>
    let start := max 0 (offset - deleteBefore)
    let stop := min (buffer.text.length : Int) (offset + deleteAfter)
    ofOffset (buffer.text.slice 0 start ++ inserted ++ buffer.text.sliceFrom stop)
      (start + cursorOffset)

end Buffer

end Pairing
