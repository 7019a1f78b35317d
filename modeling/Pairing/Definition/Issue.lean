/-
**Problems of rule definitions.**

* `Problem` — what is wrong with a definition, with the field it concerns, what was expected there and
  the wording.
* `Issue` — a problem with the key and the place of the definition under its key.
* `RuleConfigFault` — why definitions give no rules: they have issues, or one of them cannot be looked
  into.
-/

import Pairing.Condition.Checked
import Pairing.Rule

namespace Pairing

/-- What is wrong with a definition. -/
inductive Problem where
  /-- The definitions are no record. -/
  | notKeyed
  /-- The definition is neither a text nor a record. -/
  | notDefinition
  /-- The definition has a field that no definition has. -/
  | unknownField (name : Text)
  /-- The definition has no closing. -/
  | noClosing
  /-- The opening is no text. -/
  | openingKind
  /-- The priority is no number. -/
  | priorityKind
  /-- The languages are no list of texts. -/
  | languagesKind
  /-- The command line flag is no truth value. -/
  | cmdlineKind
  /-- The condition cannot be read. -/
  | condition (refusal : Refusal)
  /-- The condition of an action cannot be read. -/
  | flag (action : Action) (refusal : Refusal)
  /-- The key is not one character. -/
  | longKey
  /-- The closing given alone is empty. -/
  | emptyClosing
  /-- The closing is empty or no text. -/
  | unusableClosing
  /-- The opening is empty or no text. -/
  | unusableOpening
  /-- The opening does not contain the key. -/
  | openingWithoutKey (key : Text)
  /-- The closing starts with a character that the opening does not contain. -/
  | foreignClosing (opening : Text)
  /-- The priority is no finite number. -/
  | unusablePriority
  /-- The condition is neither a function nor a condition. -/
  | conditionKind
  /-- The condition of an action is neither a truth value nor a function nor a condition. -/
  | flagKind (action : Action)

namespace Problem

/-- The field that a problem concerns. -/
def field : Problem → Text
  | .notKeyed => "pairs"
  | .notDefinition => "definition"
  | .unknownField name => name
  | .noClosing | .emptyClosing | .unusableClosing | .foreignClosing _ => "closing"
  | .openingKind | .unusableOpening | .openingWithoutKey _ => "opening"
  | .priorityKind | .unusablePriority => "priority"
  | .languagesKind => "languages"
  | .cmdlineKind => "cmdline"
  | .condition _ | .conditionKind => "when"
  | .flag action _ | .flagKind action => action.name
  | .longKey => "key"

/-- What was expected instead. -/
def expected : Problem → Text
  | .notKeyed => "object"
  | .notDefinition => "string or object"
  | .unknownField _ => "known field"
  | .noClosing | .openingKind => "string"
  | .priorityKind => "number"
  | .languagesKind => "string[]"
  | .cmdlineKind => "boolean"
  | .condition refusal => refusal.expected
  | .flag _ _ => "boolean or condition"
  | .longKey => "single character"
  | .emptyClosing | .unusableClosing | .unusableOpening => "non-empty string"
  | .openingWithoutKey key => Text.ofString "string containing \"" ++ key ++ Text.ofString "\""
  | .foreignClosing opening =>
    Text.ofString "string starting with a character of \"" ++ opening ++ Text.ofString "\""
  | .unusablePriority => "finite number"
  | .conditionKind => "function or condition"
  | .flagKind _ => "boolean, function or condition"

/-- The refusal behind a problem. -/
def refusal? : Problem → Option Refusal
  | .condition refusal | .flag _ refusal => some refusal
  | _ => none

/-- The wording of a problem. -/
def message : Problem → Text
  | .notKeyed => "Pairs must be an object keyed by trigger character"
  | .notDefinition => "must be a closing string or an object"
  | .unknownField _ => "is not a recognized field"
  | .noClosing => "is required and must be a string"
  | .openingKind => "must be a string"
  | .priorityKind => "must be a number"
  | .languagesKind => "must be an array of strings"
  | .cmdlineKind => "must be a boolean"
  | .condition refusal => refusal.message?.getD []
  | .flag _ refusal =>
    Text.ofString "must be a boolean or a condition (" ++ refusal.message?.getD [] ++
      Text.ofString ")"
  | .longKey => "must be a single character"
  | .emptyClosing => "must not be empty"
  | .unusableClosing | .unusableOpening => "must be a non-empty string"
  | .openingWithoutKey key =>
    Text.ofString "must contain the trigger key \"" ++ key ++ Text.ofString "\""
  | .foreignClosing opening =>
    Text.ofString "must start with a character that appears in the opening \"" ++ opening ++
      Text.ofString "\""
  | .unusablePriority => "must be a finite number"
  | .conditionKind => "must be a function or a condition"
  | .flagKind _ => "must be a boolean, a function or a condition"

/-- What is thrown where a problem has no wording, because the record that it shows cannot be
written. -/
def cause? (problem : Problem) : Option Thrown :=
  problem.refusal?.bind Refusal.cause?

end Problem

/-- A problem of one definition. -/
structure Issue where
  /-- The key of the definition. -/
  key : Text
  /-- The place of the definition under its key. -/
  index : Nat
  /-- What is wrong with it. -/
  problem : Problem

namespace Issue

/-- The wording of an issue: the definition, the field and the problem. -/
def message (issue : Issue) : Text :=
  match issue.problem with
  | .notKeyed => Problem.notKeyed.message
  | problem =>
    Text.ofString "Pair \"" ++ issue.key ++ Text.ofString "\" rule " ++ Text.ofNat issue.index ++
      Text.ofString ": " ++ problem.field ++ Text.ofString " " ++ problem.message

/-- The wordings of several issues. -/
def messages (issues : List Issue) : Text :=
  Text.join (Text.ofString "; ") (issues.map message)

end Issue

/-- Why definitions give no rules. -/
inductive RuleConfigFault where
  /-- They have issues. -/
  | issues (issues : List Issue)
  /-- One of them cannot be looked into. -/
  | unreadable (cause : Fault)

/-- The wording of a fault. -/
def RuleConfigFault.message : RuleConfigFault → Text
  | .issues found => Text.ofString "Invalid pair rules: " ++ Issue.messages found
  | .unreadable cause => cause.message

end Pairing
