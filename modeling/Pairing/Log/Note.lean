/-
**Notes.**

* `Note` — something worth a line of the log: a topic and the parts of the line.
* `Note.filled` — the parts with the marks of the first one filled in: `%O` takes a part and lays it out,
  `%o` does so on one line, and `%%` is a percent sign.
* `Noted` — what comes of a note.
* `Log.output` — adds an entry for some parts and prints them. The entry stays if that fails.
* `Log.note` — puts out a note whose topic is kept.
-/

import Pairing.Data.Inspected
import Pairing.Log
import Pairing.Log.Printing
import Pairing.Log.Topic

namespace Pairing

/-- Something worth a line of the log. -/
structure Note (φ : Type) where
  /-- What it is about. -/
  topic : Text
  /-- The parts of the line. -/
  parts : List (Data φ)

/-- The topic of a part of the library. -/
def topicOf (part : String) : Text :=
  Text.ofString "autopair:" ++ Text.ofString part

variable {φ : Type}

/-- A note of a part of the library. -/
def Note.of (part : String) (message : Text) (details : List (Data φ)) : Note φ :=
  ⟨topicOf part, .text message :: details⟩

namespace Note

/-- Whether a unit is a letter that can stand after a percent sign. -/
def isMarkLetter (unit : UInt16) : Bool :=
  (0x41 ≤ unit && unit ≤ 0x5A) || (0x61 ≤ unit && unit ≤ 0x7A)

/-- A value laid out on one line. -/
def oneLine (value : Data φ) : Text :=
  Text.join [Text.space] (value.inspected.lines.map Text.trim)

/-- A value as the mark with a letter shows it, if the mark takes one. -/
def markFor? (letter : UInt16) : Option (Data φ → Text) :=
  if letter = 0x4F then some Data.inspected
  else if letter = 0x6F then some oneLine
  else none

/-- Fills in the marks of a text. Every mark but `%%` counts as one part, and only `%o` and `%O` take
the part that they count to. -/
def fillMarks (counted : Nat) (details : List (Data φ)) : Text → Text × List (Data φ)
  | [] => ([], details)
  | [unit] => ([unit], details)
  | first :: second :: rest =>
    if first = 0x25 ∧ second = 0x25 then
      let (filled, left) := fillMarks counted details rest
      (0x25 :: filled, left)
    else if first = 0x25 ∧ isMarkLetter second then
      match markFor? second with
      | some shown =>
        let (filled, left) := fillMarks counted (details.eraseIdx counted) rest
        (shown ((details[counted]?).getD .missing) ++ filled, left)
      | none =>
        let (filled, left) := fillMarks (counted + 1) details rest
        (first :: second :: filled, left)
    else
      let (filled, left) := fillMarks counted details (second :: rest)
      (first :: filled, left)

/-- The parts of a note with the marks of the first one filled in, after the topic. A first part that
is no text is shown as a mark shows it. -/
def filled (note : Note φ) : List (Data φ) :=
  let (pattern, details) : Text × List (Data φ) :=
    match note.parts with
    | .text pattern :: details => (pattern, details)
    | [] => ("%O", [])
    | parts => ("%O", parts)
  let (message, left) := fillMarks 0 details pattern
  .text (note.topic ++ [Text.space] ++ message) :: left

end Note

/-- What comes of a note. -/
structure Noted where
  /-- The log. -/
  log : Log
  /-- What listeners are told. -/
  deliveries : List Delivery
  /-- What is thrown in the end, if anything is. -/
  failure : Option Thrown

/-- Adds an entry for some parts, if they can be put into words, and prints them. -/
def Log.output [Callable φ] (log : Log) (time : Int) (topic : Text) (parts : List (Data φ)) : Noted :=
  match log.record time topic parts with
  | .ok (log, deliveries) => ⟨log, deliveries, Printing.cause? parts⟩
  | .error cause => ⟨log, [], some cause⟩

/-- Puts out a note, if its topic is kept. -/
def Log.note [Callable φ] (log : Log) (filter : TopicFilter) (time : Int) (note : Note φ) : Noted :=
  if filter.accepts note.topic then log.output time note.topic note.filled else ⟨log, [], none⟩

end Pairing
