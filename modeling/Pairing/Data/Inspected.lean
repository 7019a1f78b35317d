/-
**Values laid out for a reader.**

A value that is shown to a developer stands on one line where it fits, and on several indented lines
where it does not.

* `Inspection` — what is remembered while a value is laid out.
* `Data.inspected` — a value laid out. Long lists and texts are cut, and what lies deep inside is only
  named.
-/

import Pairing.Data
import Pairing.Number.Decimal
import Pairing.Text.Columns
import Pairing.Text.Literal

namespace Pairing

/-- What is remembered while a value is laid out. -/
structure Inspection where
  /-- The depth of the record or the list that was opened last. -/
  depth : Nat := 0
  /-- How many records that contain themselves were met. -/
  loops : Nat := 0

namespace Inspection

/-- The depth of the records and lists that are still opened. -/
def deepest : Nat := 2

/-- How many items of a list are shown. -/
def mostItems : Nat := 100

/-- How many units of a text are shown. -/
def mostUnits : Nat := 10000

/-- How many items make a list worth putting side by side. -/
def manyItems : Nat := 6

/-- How many levels of records and lists may share a line. -/
def sharedLevels : Nat := 3

/-- What is left out, by how much it is. -/
def leftOut (count : Nat) (one : String) : Text :=
  Text.ofString "... " ++ Text.ofNat count ++ Text.ofString " more " ++ Text.ofString one ++
    if 1 < count then Text.ofString "s" else []

/-- The parts of a text that end after its newlines. -/
def newlineParts : Text → List Text
  | [] => []
  | unit :: rest =>
    if unit = Text.newline then [unit] :: newlineParts rest
    else
      match newlineParts rest with
      | [] => [[unit]]
      | part :: parts => (unit :: part) :: parts

/-- The start of a line. -/
def lineStart (indent : Nat) : Text :=
  Text.newline :: Text.spaces indent

/-- A text laid out. One that is too long for a line is cut after its newlines. -/
def textShown (indent : Nat) (t : Text) : Text :=
  let shown := t.take mostUnits
  let rest := if mostUnits < t.length then leftOut (t.length - mostUnits) "character" else []
  let isLong := 16 < shown.length && Text.lineWidth < shown.length + indent + 4
  (if isLong then
    Text.join (Text.ofString " +" ++ lineStart (indent + 2)) ((newlineParts shown).map Text.literal)
  else Text.literal shown) ++ rest

/-- A number laid out, with the sign of a zero. -/
def numberShown (n : Number) : Text :=
  if n.isNegative && n.magnitude == 0 then "-0" else n.text

/-- Whether a unit can stand in a key without marks. -/
def isKeyUnit (unit : UInt16) : Bool :=
  (0x30 ≤ unit && unit ≤ 0x39) || (0x41 ≤ unit && unit ≤ 0x5A) || (0x61 ≤ unit && unit ≤ 0x7A) ||
    unit == 0x5F

/-- A key laid out. Only one that reads like a name stands without marks. -/
def keyShown (key : Text) : Text :=
  let startsWithDigit := key.head?.any fun unit => 0x30 ≤ unit && unit ≤ 0x39
  if key = Text.ofString "__proto__" then "['__proto__']"
  else if !key.isEmpty && !startsWithDigit && key.all isKeyUnit then key
  else key.literal

/-- What encloses the parts of a record or a list. -/
structure Frame where
  /-- What names the record, if anything does. -/
  label : Text
  /-- What opens it. -/
  opener : Text
  /-- What closes it. -/
  closer : Text

/-- The frame of a list. -/
def listFrame : Frame := ⟨[], "[", "]"⟩

/-- The frame of a record. -/
def recordFrame (label : Text) : Frame := ⟨label, "\x7b", "\x7d"⟩

namespace Frame

/-- How a frame starts. -/
def start (frame : Frame) : Text :=
  if frame.label.isEmpty then frame.opener else frame.label ++ [Text.space] ++ frame.opener

/-- Whether some parts fit into a line together, with some room left. -/
def fits (frame : Frame) (indent : Nat) (parts : List Text) : Bool :=
  let room := 2 * parts.length + indent + frame.opener.length + frame.label.length + 10
  room + parts.length ≤ Text.lineWidth &&
    parts.foldl (fun sum part => sum + part.length) room ≤ Text.lineWidth &&
    !parts.any fun part => List.elem Text.newline part

/-- Parts on one line. -/
def onLine (frame : Frame) (parts : List Text) : Text :=
  frame.start ++ [Text.space] ++ Text.join ", " parts ++ [Text.space] ++ frame.closer

/-- Parts below each other. -/
def onLines (frame : Frame) (indent : Nat) (parts : List Text) : Text :=
  frame.start ++ lineStart (indent + 2) ++ Text.join (Text.ofString "," ++ lineStart (indent + 2)) parts ++
    lineStart indent ++ frame.closer

/-- Parts on one line where they may share one and fit into it, and below each other elsewhere. -/
def around (frame : Frame) (indent : Nat) (mayShare : Bool) (parts : List Text) : Text :=
  if mayShare && frame.fits indent parts then frame.onLine parts else frame.onLines indent parts

end Frame

/-- Whether a level may share a line with what was opened last inside of it. -/
def mayShare (level : Nat) (inspection : Inspection) : Bool :=
  inspection.depth < level + sharedLevels

/-- A list laid out, given its items laid out and how many it has beyond them. -/
def listShown (indent : Nat) (mayShare alignsEnds : Bool) (items : List Text) (beyond : Nat) : Text :=
  let more := if beyond = 0 then [] else [leftOut beyond "item"]
  let lineCount := items.length + more.length
  let grid := Grid.ofTexts items indent lineCount alignsEnds
  match if manyItems < lineCount then grid.lines? else none with
  | some lines => listFrame.onLines indent (lines ++ more)
  | none => listFrame.around indent mayShare (items ++ more)

/-- Opens a record or a list at a level. -/
def openLevel (level : Nat) : StateM Inspection Unit :=
  modify fun inspection => { inspection with depth := level }

/-- A record that contains itself, laid out. -/
def loopShown (indent level : Nat) : StateM Inspection Text := do
  openLevel level
  modify fun inspection => { inspection with loops := inspection.loops + 1 }
  let reference := Text.ofString "*" ++ Text.ofNat (← get).loops
  let frame := recordFrame (Text.ofString "<ref " ++ reference ++ Text.ofString ">")
  return frame.around indent true
    [Text.ofString "self: [Circular " ++ reference ++ Text.ofString "]"]

end Inspection

namespace Data

open Inspection

variable {φ : Type}

/-- Whether a value is a number of any kind. -/
def isNumeric : Data φ → Bool
  | .number _ | .integer _ => true
  | _ => false

mutual

/-- A value laid out, at an indentation and inside of so many records and lists. -/
def inspectedAt (indent level : Nat) : Data φ → StateM Inspection Text
  | .missing => return "undefined"
  | .null => return "null"
  | .bool true => return "true"
  | .bool false => return "false"
  | .number value => return numberShown value
  | .text value => return textShown indent value
  | .integer digits => return digits ++ Text.ofString "n"
  | .function _ => return "[Function (anonymous)]"
  | .list [] => return "[]"
  | .list items =>
    if deepest < level then return "[Array]"
    else do
      openLevel (level + 1)
      let parts ← inspectedItems (indent + 2) (level + 1) mostItems items
      let inspection ← get
      return listShown indent (inspection.mayShare (level + 1))
        ((items.take (mostItems + 1)).all isNumeric) parts (items.length - mostItems)
  | .record [] => return "\x7b\x7d"
  | .record fields =>
    if deepest < level then return "[Object]"
    else do
      openLevel (level + 1)
      let parts ← inspectedFields (indent + 2) (level + 1) fields
      let inspection ← get
      return (recordFrame []).around indent (inspection.mayShare (level + 1)) parts
  | .circular => if deepest < level then return "[Object]" else loopShown indent (level + 1)
  | .error name message =>
    if deepest < level then return "[Error]"
    else return Text.ofString "[" ++ name ++ Text.ofString ": " ++ message ++ Text.ofString "]"

/-- The items of a list laid out, up to a number of them. -/
def inspectedItems (indent level : Nat) : Nat → List (Data φ) → StateM Inspection (List Text)
  | _, [] => return []
  | 0, _ => return []
  | count + 1, item :: rest => do
    let shown ← inspectedAt indent level item
    let more ← inspectedItems indent level count rest
    return shown :: more

/-- The fields of a record laid out. -/
def inspectedFields (indent level : Nat) : List (Text × Data φ) → StateM Inspection (List Text)
  | [] => return []
  | (key, value) :: rest => do
    let shown ← inspectedAt indent level value
    let more ← inspectedFields indent level rest
    return (keyShown key ++ Text.ofString ": " ++ shown) :: more

end

/-- A value laid out for a reader. -/
def inspected (value : Data φ) : Text :=
  ((inspectedAt 0 0 value).run {}).1

end Data

end Pairing
