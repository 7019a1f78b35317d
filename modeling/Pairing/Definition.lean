/-
**Rule definitions.**

A configuration declares its rules under the keys that trigger them: one definition, or a list of them,
for each key. A definition is a bare closing delimiter or a record.

* `Definition` — a definition as a record, checked.
* `Entry` — a definition in either form.
* `Definitions` — definitions by key, as a host hands them over, unchecked.
* `Definitions.ofEntries` — checked definitions as a host would hand them over.
* `Definitions.merge` — definitions that replace those of the keys they name.
-/

import Pairing.Condition.Checked
import Pairing.HostFunction
import Pairing.RuleIndex

namespace Pairing

/-- What a definition says about one action. -/
inductive Flag where
  /-- The action is always allowed, or never. -/
  | fixed (allowed : Bool)
  /-- The action is allowed under a condition. -/
  | given (source : ConditionSource)

/-- A definition as a record. -/
structure Definition where
  /-- The closing delimiter. -/
  closing : Text
  /-- The opening delimiter, where it is not the key. -/
  opening : Option Text
  /-- The priority, where it is not the usual one. -/
  priority : Option Number
  /-- The languages and filetypes that the rule is for. -/
  languages : Option (List Text)
  /-- Whether the rule is for the command line too. -/
  cmdline : Option Bool
  /-- Where the rule applies. -/
  condition : Option ConditionSource
  /-- What it says about the actions. -/
  flags : Action → Option Flag

/-- A definition in either form. -/
inductive Entry where
  /-- A bare closing delimiter. -/
  | closing (t : Text)
  /-- A record. -/
  | full (definition : Definition)

variable {φ : Type}

/-- A flag as configuration data. -/
def Flag.toData : Flag → Data φ
  | .fixed allowed => .bool allowed
  | .given source => source.toData

/-- A field that may be left out. -/
def optionalField {α : Type} (name : Text) (value : Option α) (toData : α → Data φ) :
    List (Text × Data φ) :=
  (value.map fun v => (name, toData v)).toList

/-- A definition as configuration data. -/
def Definition.toData (definition : Definition) : Data φ :=
  .record <|
    (Text.ofString "closing", .text definition.closing) ::
      (optionalField "opening" definition.opening .text ++
        optionalField "priority" definition.priority .number ++
        optionalField "languages" definition.languages Condition.textsData ++
        optionalField "cmdline" definition.cmdline .bool ++
        optionalField "when" definition.condition ConditionSource.toData ++
        Action.all.flatMap fun action =>
          optionalField action.name (definition.flags action) Flag.toData)

/-- An entry as configuration data. -/
def Entry.toData : Entry → Data φ
  | .closing t => .text t
  | .full definition => definition.toData

/-- Rule definitions by key, as a host hands them over. -/
abbrev Definitions := Fields (Data HostFunction)

/-- Checked definitions by key. -/
abbrev CheckedDefinitions := Fields (List Entry)

namespace Definitions

/-- The definitions that a value holds. Nothing can be read out of a missing value. -/
def ofData? (value : Data HostFunction) : Option Definitions :=
  value.entries?

/-- Checked definitions as a host would hand them over. -/
def ofChecked (checked : CheckedDefinitions) : Definitions :=
  checked.map fun (key, entries) => (key, .list (entries.map Entry.toData))

/-- Definitions with those of the keys that others name replaced. -/
def merge (defaults overrides : Definitions) : Definitions :=
  Fields.merge defaults overrides

/-- The definitions in the order of their declaration, each with the composed form of its key. -/
def entries (definitions : Definitions) : List (Text × Data HostFunction) :=
  definitions.flatMap fun (key, value) => value.asList.map fun entry => (key.composed, entry)

end Definitions

end Pairing
