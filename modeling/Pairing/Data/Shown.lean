/-
**Values as text.**

* `Data.written` — a value as configuration text. Missing values and functions are left out of records
  and are null in lists; integers of any size and records that contain themselves have no such text. A
  record with a function under `toJSON` is written as what that function gives for the key that the
  record stands under.
* `Data.shown` — a value as a log line shows it: a text as it is, an error by its name and message,
  and any other value as configuration text where it has one.
-/

import Pairing.Data.Simple
import Pairing.Text.Quoted

namespace Pairing.Data

variable {φ : Type}

/-- How a value is written as configuration text. -/
inductive Written where
  /-- With this text. -/
  | as (text : Text)
  /-- Not at all: it is left out. -/
  | absent
  /-- It cannot be written, for a cause that is thrown. -/
  | refused (cause : Thrown)

/-- What is thrown when an integer of any size is to be written. -/
def unwritableInteger : Thrown :=
  .error "TypeError" "Do not know how to serialize a BigInt"

/-- What is thrown when a record that contains itself is to be written. -/
def unwritableLoop : Thrown :=
  .error "TypeError" "Converting circular structure to JSON"

/-- Texts with commas between them, enclosed by two units. -/
def enclosed (opener closer : UInt16) (parts : List Text) : Text :=
  opener :: Text.join (Text.ofString ",") parts ++ [closer]

/-- How a list or a record is written, given its parts. -/
def writtenParts (opener closer : UInt16) : Except Thrown (List Text) → Written
  | .ok parts => .as (enclosed opener closer parts)
  | .error cause => .refused cause

mutual

/-- A value under a key as configuration text, given how what a function gives for a key is written. -/
def writtenBy (ofCall : φ → Text → Written) (key : Text) : Data φ → Written
  | .missing | .function _ => .absent
  | .null => .as "null"
  | .bool true => .as "true"
  | .bool false => .as "false"
  | .number value => .as (if value.isFinite then value.text else "null")
  | .text value => .as value.quoted
  | .list items => writtenParts 0x5B 0x5D (writtenItems ofCall 0 items)
  | .record fields =>
    match ownFunction? "toJSON" fields with
    | some body => ofCall body key
    | none => writtenParts 0x7B 0x7D (writtenFields ofCall fields)
  | .error name _ => .as (enclosed 0x7B 0x7D [Text.ofString "\"name\":" ++ name.quoted])
  | .integer _ => .refused unwritableInteger
  | .circular => .refused unwritableLoop

/-- The items of a list from an index on, null where one is left out. -/
def writtenItems (ofCall : φ → Text → Written) (index : Nat) :
    List (Data φ) → Except Thrown (List Text)
  | [] => .ok []
  | item :: rest =>
    match writtenBy ofCall (Text.ofNat index) item with
    | .as form => (writtenItems ofCall (index + 1) rest).map (form :: ·)
    | .absent => (writtenItems ofCall (index + 1) rest).map ("null" :: ·)
    | .refused cause => .error cause

/-- The fields of a record without those that are left out. -/
def writtenFields (ofCall : φ → Text → Written) :
    List (Text × Data φ) → Except Thrown (List Text)
  | [] => .ok []
  | (key, value) :: rest =>
    match writtenBy ofCall key value with
    | .as form =>
      (writtenFields ofCall rest).map fun parts => (key.quoted ++ Text.ofString ":" ++ form) :: parts
    | .absent => writtenFields ofCall rest
    | .refused cause => .error cause

end

/-- How what a function gives for a key is written. Functions in it are not called any more. -/
def writtenCall [Callable φ] (body : φ) (key : Text) : Written :=
  match Callable.call body (.text key) with
  | .ok value => writtenBy (fun _ _ => .absent) key value
  | .error cause => .refused cause

/-- A value as configuration text. -/
def written [Callable φ] (value : Data φ) : Written :=
  writtenBy writtenCall [] value

/-- A value as a log line shows it, or what is thrown because it cannot be shown. -/
def shown [Callable φ] (value : Data φ) : Except Thrown Text :=
  match value with
  | .text content => .ok content
  | _ =>
    match value.described with
    | some form => .ok form
    | none =>
      match value.written with
      | .as form => .ok form
      | .absent => .ok []
      | .refused _ => value.plain

end Pairing.Data
