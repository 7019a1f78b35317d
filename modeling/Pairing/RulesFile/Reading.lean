/-
**Reading a file of rules.**

A file that is being written may be missing for a moment, so a failed attempt to read it is repeated
after a delay that grows.

* `FileRead` — a file that is being read, and the attempt that comes next.
* `FileRead.proceed` — what an attempt comes to: another one after a delay, or the end.
* `FileText.error?`, `FileText.definitions` — what is told of a file that was read.
-/

import Pairing.Definition.RulesText
import Pairing.RulesFile.Extract

namespace Pairing

/-- A file that is being read. -/
structure FileRead where
  /-- Where the file is. -/
  path : Text
  /-- How many attempts are made. -/
  limit : Int
  /-- The number of the attempt that comes next, from 1. -/
  attempt : Nat
  deriving DecidableEq, Repr

/-- The text of a file, or why there is none. -/
abbrev FileText := Except Text RulesText

/-- What an attempt to read a file comes to. -/
inductive ReadProgress where
  /-- It failed, and there is another one after a delay in milliseconds. -/
  | waits (delay : Nat) (next : FileRead)
  /-- The file was read, or no further attempt is made. -/
  | finished (text : FileText)

namespace FileRead

/-- How many attempts are made unless a number is given. -/
def defaultLimit : Int := 3

/-- A file that is about to be read. -/
def start (path : Text) (limit : Int) : FileRead :=
  ⟨path, limit, 1⟩

/-- Whether there is an attempt left to make. -/
def hasAttempt (read : FileRead) : Bool :=
  (read.attempt : Int) ≤ read.limit

/-- How many attempts are left. -/
def attemptsLeft (read : FileRead) : Nat :=
  (read.limit + 1 - read.attempt).toNat

/-- Why a file was not read. -/
def givenUp (limit : Int) (reason : Text) : Text :=
  Text.ofString "Failed to read rules file after " ++ Text.ofInt limit ++ Text.ofString " attempts: " ++
    reason

/-- What the next attempt comes to, given what the host answers to it. -/
def proceed (read : FileRead) (answer : Except Text Text) : ReadProgress :=
  if !read.hasAttempt then .finished (.error (givenUp read.limit "Unknown error"))
  else
    match answer with
    | .ok content => .finished (.ok (RulesText.ofText (RulesFile.extractRules content)))
    | .error reason =>
      if (read.attempt : Int) < read.limit then
        .waits (100 * read.attempt) { read with attempt := read.attempt + 1 }
      else .finished (.error (givenUp read.limit reason))

theorem attemptsLeft_lt_of_waits {read next : FileRead} {answer : Except Text Text} {delay : Nat}
    (waits : read.proceed answer = .waits delay next) : next.attemptsLeft < read.attemptsLeft := by
  unfold proceed at waits
  split at waits
  · cases waits
  · split at waits
    · cases waits
    · split at waits
      · next less =>
        cases waits
        simp only [attemptsLeft]
        omega
      · cases waits

end FileRead

namespace FileText

/-- What is wrong with a file. -/
def error? : FileText → Option Text
  | .error reason => some reason
  | .ok text =>
    match text.outcome with
    | .ok _ => none
    | .error reason => some reason

/-- The definitions of a file, none of them where anything is wrong with it. -/
def definitions : FileText → CheckedDefinitions
  | .error _ => []
  | .ok text =>
    match text.outcome with
    | .ok checked => checked
    | .error _ => []

end FileText

end Pairing
