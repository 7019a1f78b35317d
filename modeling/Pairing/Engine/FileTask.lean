/-
**Requests for files of rules.**

A host asks for a file and is told later what came of it. A file that changed is read again without
being asked for.

* `FileRequest` — what a host asks for.
* `FileTask` — a file that is being read, for a request or after a change.
* `FileReport` — what a request came to. What is wrong with the rules is told before what is wrong with
  watching them.
-/

import Pairing.Engine

namespace Pairing

/-- A request for a file. -/
structure FileRequest where
  /-- The number of the request. -/
  number : Nat
  /-- Where the file is. -/
  path : Text
  /-- Whether the file is to be watched. -/
  watches : Bool
  deriving DecidableEq, Repr

/-- A file that an engine is reading. -/
structure FileTask where
  /-- The number of the file in the engine. -/
  file : Nat
  /-- The request that is answered, or none where the file is read again after a change. -/
  request : Option Nat
  /-- Whether the file is to be watched when it was read. -/
  watches : Bool
  /-- The read. -/
  read : FileRead
  deriving DecidableEq, Repr

namespace FileTask

/-- The task of a request for a file, which has a number in the engine. -/
def ofRequest (file : Nat) (request : FileRequest) : FileTask where
  file := file
  request := some request.number
  watches := request.watches
  read := .start request.path FileRead.defaultLimit

/-- The task of reading a file again after a change. -/
def ofChange (number : Nat) (file : RulesFile) : FileTask where
  file := number
  request := none
  watches := false
  read := .start file.path FileRead.defaultLimit

end FileTask

/-- What is told of a file that was asked for. -/
structure FileReport where
  /-- What came of the file. -/
  outcome : FileOutcome
  /-- Why it cannot be watched. -/
  watchFailure : Option Text

/-- What is wrong with a file that was asked for, if anything is. -/
def FileReport.error? (report : FileReport) : Option Text :=
  report.outcome.error?.or report.watchFailure

/-- The answer to a request for a file. -/
structure FileAnswer where
  /-- The request. -/
  request : Nat
  /-- The answer. -/
  report : FileReport

end Pairing
