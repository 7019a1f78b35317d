/-
**Reading definitions from data.**

Configuration data cannot hold functions. Everything wrong with it is collected, and what can be read
is kept.

* `Entry.ofData` — the definition that a value is, with all its problems.
* `Reading` — the definitions that were read, the issues found while reading, and those found when the
  result was checked.
* `Reading.cause?` — what is thrown instead of the issues, where one of them has no wording.
* `Definitions.read` — the definitions of configuration data.
-/

import Pairing.Definition.Validation

namespace Pairing

variable {φ : Type}

/-- A value that was read, with its problems. -/
abbrev Found (α : Type) := Option α × List Problem

/-- Reads a field that may be left out. -/
def readField {α : Type} (value : Data φ) (read : Data φ → Except Problem α) : Found α :=
  if value.isMissing then (none, [])
  else
    match read value with
    | .ok found => (some found, [])
    | .error problem => (none, [problem])

/-- A value that is there, or the problem that it is not. -/
def orProblem {α : Type} (problem : Problem) : Option α → Except Problem α
  | some value => .ok value
  | none => .error problem

/-- Reads what a definition says about an action. -/
def Flag.ofData [Callable φ] (action : Action) (value : Data φ) : Except Problem Flag :=
  match value with
  | .bool allowed => .ok (.fixed allowed)
  | _ => ((ConditionSource.ofData value).map .given).mapError (.flag action)

/-- The names of the fields of a definition. -/
def Definition.fieldNames : List Text :=
  ["closing", "opening", "priority", "languages", "cmdline", "when"].map Text.ofString ++
    Action.all.map Action.name

/-- The definition that a value is, with all its problems. Without a closing there is none. -/
def Entry.ofData [Callable φ] (value : Data φ) : Found Entry :=
  match value with
  | .text delimiter => (some (.closing delimiter), [])
  | _ =>
    if !value.isRecord then (none, [.notDefinition])
    else
      let unknown := (value.keys.filter fun key => !Definition.fieldNames.contains key).map
        Problem.unknownField
      match value.field "closing" with
      | .text delimiter =>
        let opening := readField (value.field "opening") fun v => orProblem .openingKind v.text?
        let priority := readField (value.field "priority") fun v => orProblem .priorityKind v.number?
        let languages := readField (value.field "languages") fun v =>
          orProblem .languagesKind v.texts?
        let cmdline := readField (value.field "cmdline") fun v => orProblem .cmdlineKind v.bool?
        let condition := readField (value.field "when") fun v =>
          (ConditionSource.ofData v).mapError .condition
        let flag := fun action : Action =>
          readField (value.field action.name) (Flag.ofData action)
        (some (.full
            { closing := delimiter
              opening := opening.1
              priority := priority.1
              languages := languages.1
              cmdline := cmdline.1
              condition := condition.1
              flags := fun action => (flag action).1 }),
          unknown ++ opening.2 ++ priority.2 ++ languages.2 ++ cmdline.2 ++ condition.2 ++
            Action.all.flatMap fun action => (flag action).2)
      | _ => (none, unknown ++ [.noClosing])

/-- What was read from configuration data. -/
structure Reading where
  /-- The definitions. -/
  definitions : CheckedDefinitions
  /-- The issues found while reading. -/
  readingIssues : List Issue
  /-- The issues found when the definitions were checked. -/
  checkingIssues : List Issue

namespace Reading

/-- All issues. -/
def issues (reading : Reading) : List Issue :=
  reading.readingIssues ++ reading.checkingIssues

/-- What is thrown instead, where an issue found while reading has no wording. -/
def cause? (reading : Reading) : Option Thrown :=
  reading.readingIssues.findSome? fun issue => issue.problem.cause?

end Reading

/-- The key under which a record keeps what it inherits. Setting it declares nothing. -/
def inheritanceKey : Text := "__proto__"

namespace Definitions

/-- The issues that checked definitions have. -/
def checkingIssuesOf (checked : CheckedDefinitions) : List Issue :=
  (ofChecked checked).flatMap fun (key, value) => issuesUnder key value

variable [Callable φ]

/-- The entries under a key. -/
def entriesUnder (value : Data φ) : List Entry :=
  value.asList.filterMap fun candidate => (Entry.ofData candidate).1

/-- The issues found while reading the entries under a key. -/
def readingIssuesUnder (key : Text) (value : Data φ) : List Issue :=
  (value.asList.mapIdx fun index candidate =>
    (Entry.ofData candidate).2.map (⟨key, index, ·⟩)).flatten

/-- The definitions of the fields of a record. -/
def checkedOf (fields : Fields (Data φ)) : CheckedDefinitions :=
  (fields.filter fun (key, _) => key != inheritanceKey).map fun (key, value) =>
    (key, entriesUnder value)

/-- What the fields of a record declare. -/
def readFields (fields : Fields (Data φ)) : Reading :=
  let checked := checkedOf fields
  { definitions := checked
    readingIssues := fields.flatMap fun (key, value) => readingIssuesUnder key value
    checkingIssues := checkingIssuesOf checked }

/-- The definitions of configuration data. -/
def read (value : Data φ) : Reading :=
  match value.fields? with
  | some fields => readFields fields
  | none => ⟨[], [⟨[], 0, .notKeyed⟩], []⟩

end Definitions

end Pairing
