/-
**Printing a note.**

What is recorded in the log is also printed for a developer. Nothing reads what is printed, but a note
that cannot be printed fails.

* `Printing.causeOfMark?` — what is thrown when a mark in the first part takes a value: `%s` takes a
  text, `%d`, `%i` and `%f` a number, `%j` configuration text, and the others take anything.
* `Printing.cause?` — what is thrown when the parts of a note are printed. Nothing is thrown for the
  values that no mark takes.
* `Printing.cause?_single` — a text by itself is printed as it is.
-/

import Pairing.Data.Shown

namespace Pairing.Printing

variable {φ : Type}

/-- What came out of the way of a value, if that failed. -/
def causeOf? {α : Type} : Except Thrown α → Option Thrown
  | .ok _ => none
  | .error cause => some cause

/-- The part of a text before its first newline. -/
def firstLine (t : Text) : Text :=
  t.takeWhile (· != Text.newline)

/-- The first line of what is thrown when a record that contains itself is to be written. -/
def loopLine : Text :=
  firstLine Data.unwritableLoop.errorMessage

/-- What is thrown when a value that was thrown has no text to look at. -/
def unreadableCause : Thrown :=
  .error "TypeError" "This has no text to look at"

/-- What is passed on of a value that was thrown while a value was written. A record that contains
itself is printed all the same, and is told by the first line of what it says. -/
def passedOn? (cause : Thrown) : Option Thrown :=
  if cause.isNullish then some unreadableCause
  else if (cause.field "name").text? != some (Text.ofString "TypeError") then some cause
  else if (cause.field "message").isNullish then some unreadableCause
  else
    match (cause.field "message").plain with
    | .error other => some other
    | .ok message => if firstLine message = loopLine then none else some cause

section Marks

variable [Callable φ]

/-- What is thrown when a value is printed as a text. A record is asked for one only if it has a function
of its own that gives it. -/
def causeAsText? (value : Data φ) : Option Thrown :=
  match value with
  | .record fields =>
    if (Data.ownFunction? "toString" fields).isSome then causeOf? value.plain else none
  | _ => none

/-- What is thrown when a value is printed as configuration text. -/
def causeAsWritten? (value : Data φ) : Option Thrown :=
  match value.written with
  | .refused cause => passedOn? cause
  | _ => none

/-- What is thrown when a mark with a letter takes a value, or nothing if there is no such mark. -/
def causeOfMark? (letter : UInt16) : Option (Data φ → Option Thrown) :=
  if letter = 0x73 then some causeAsText?
  else if letter = 0x6A then some causeAsWritten?
  else if letter = 0x64 then some fun value => causeOf? (value.simple .any)
  else if letter = 0x69 ∨ letter = 0x66 then some fun value => causeOf? value.plain
  else if letter = 0x4F ∨ letter = 0x6F ∨ letter = 0x63 then some fun _ => none
  else none

/-- What is thrown first when the marks of a text take values. -/
def causeOfMarks? (details : List (Data φ)) : Text → Option Thrown
  | [] | [_] => none
  | first :: second :: rest =>
    if first = 0x25 then
      match details, causeOfMark? second with
      | value :: others, some cause? =>
        match cause? value with
        | some cause => some cause
        | none => causeOfMarks? others rest
      | _, _ => causeOfMarks? details rest
    else causeOfMarks? details (second :: rest)

/-- What is thrown when the parts of a note are printed. -/
def cause? (parts : List (Data φ)) : Option Thrown :=
  match parts with
  | .text pattern :: details => causeOfMarks? details pattern
  | _ => none

theorem causeOfMarks?_nil : ∀ pattern : Text, causeOfMarks? ([] : List (Data φ)) pattern = none
  | [] => by simp [causeOfMarks?]
  | [_] => by simp [causeOfMarks?]
  | first :: second :: rest => by
    simp [causeOfMarks?, causeOfMarks?_nil rest, causeOfMarks?_nil (second :: rest)]

theorem cause?_single (pattern : Text) : cause? [(.text pattern : Data φ)] = none := by
  simp [cause?, causeOfMarks?_nil]

end Marks

end Pairing.Printing
