/-
**An oracle that answers from a table.**

A host that indexes a document ahead of time can hand over its index as a table of stretches of lines
and of delimiters without a partner.

* `Stretch` — a part of a line with a name.
* `OracleTable` — the index, with the questions that fail.
* `Oracle.ofTable` — the first row that fits answers.
-/

import Pairing.Oracle

namespace Pairing

/-- A part of a line with a name: from one column up to but not including another. -/
structure Stretch where
  /-- The line. -/
  line : Int
  /-- The first column. -/
  first : Int
  /-- The column after the last. -/
  stop : Int
  /-- The name. -/
  name : Text
  deriving DecidableEq, Repr

/-- Whether a place lies in a stretch. -/
def Stretch.covers (stretch : Stretch) (place : Position) : Bool :=
  stretch.line == place.line && stretch.first ≤ place.column && place.column < stretch.stop

/-- The kinds of questions. -/
inductive OracleQuestion where
  /-- The nearest opening without a closing. -/
  | unmatchedOpening
  /-- The nearest closing without an opening. -/
  | unmatchedClosing
  /-- The kind of the span. -/
  | spanKind
  /-- The syntax scope. -/
  | scope
  /-- The language. -/
  | language
  deriving DecidableEq, Repr

/-- An index of a document. -/
structure OracleTable where
  /-- The kinds of spans. -/
  spans : List Stretch
  /-- The syntax scopes. -/
  scopes : List Stretch
  /-- The languages, when the host knows them. -/
  languages : Option (List Stretch)
  /-- The openings without a closing. -/
  openings : List Unmatched
  /-- The closings without an opening. -/
  closings : List Unmatched
  /-- The questions that fail, with what they throw. -/
  failures : List (OracleQuestion × Thrown)

/-- The answer to a question that may fail. -/
def OracleTable.answer {α : Type} (table : OracleTable) (question : OracleQuestion) (value : α) :
    Except Fault α :=
  match table.failures.find? (·.1 == question) with
  | some (_, thrown) => .error (.thrown thrown)
  | none => .ok value

/-- The name of the first stretch that covers a place. -/
def nameAt (stretches : List Stretch) (place : Position) : Option Text :=
  (stretches.find? (·.covers place)).map (·.name)

/-- The oracle that answers from an index. -/
def Oracle.ofTable (table : OracleTable) : Oracle where
  unmatchedOpening _ delimiters _ :=
    table.answer .unmatchedOpening (table.openings.find? (·.delimiters == delimiters))
  unmatchedClosing _ delimiters _ :=
    table.answer .unmatchedClosing (table.closings.find? (·.delimiters == delimiters))
  spanKind _ place := table.answer .spanKind (nameAt table.spans place)
  scope _ place := table.answer .scope (nameAt table.scopes place)
  language := table.languages.map fun languages _ place =>
    table.answer .language (nameAt languages place)

end Pairing
