/-
**The rules in use.**

A configuration that cannot be used never replaces one that can.

* `RuleStore` — the index in use, the configuration it was last loaded from, and what is wrong with a
  configuration that was given later.
* `LoadOutcome` — what came of a configuration.
* `RuleStore.start` — the store of a host that may have default rules of its own.
* `RuleStore.load`, `RuleStore.loadText`, `RuleStore.reject`, `RuleStore.reset` — the ways to change
  the configuration.
* `RuleStore.Status` — what a host is told about it.
-/

import Pairing.Definition.RulesText
import Pairing.DefaultRules

namespace Pairing

/-- What came of a configuration. -/
inductive LoadOutcome where
  /-- It is in use. -/
  | loaded (rules : Nat)
  /-- It has issues. -/
  | invalid (issues : List Issue)
  /-- It was refused for a reason found before its rules were looked at. -/
  | rejected (reason : Text)
  /-- There is no configuration to go back to. -/
  | noneToReset
  /-- A definition in it cannot be looked into. -/
  | unreadable (cause : Fault)

/-- What a host is told when there is no configuration to go back to. -/
def noneToResetMessage : Text :=
  "No valid rule configuration available to reset to"

/-- The wording of what is wrong with a configuration, if anything is. -/
def LoadOutcome.error? : LoadOutcome → Option Text
  | .loaded _ | .unreadable _ => none
  | .invalid issues => some (RuleConfigFault.issues issues).message
  | .rejected reason => some reason
  | .noneToReset => some noneToResetMessage

/-- The rules in use. -/
structure RuleStore where
  /-- The definitions that those of a user replace key by key. -/
  defaults : Definitions
  /-- The rules. -/
  index : RuleIndex
  /-- Whether the last configuration given is in use. -/
  isValid : Bool
  /-- What is wrong with the last configuration given. -/
  error : Option Text
  /-- The last configuration that could be used, as it was given. It is null before there is one. -/
  lastValid : Data HostFunction

namespace RuleStore

/-- A store with the default rules. -/
def ofDefaults (defaults : Definitions) : Except RuleConfigFault RuleStore :=
  (RuleIndex.compile defaults).map fun index => ⟨defaults, index, true, none, .null⟩

/-- A store with the default rules that a value holds, and those of a fresh installation where it is
missing. -/
def start (defaults : Data HostFunction) : Except RuleConfigFault RuleStore :=
  match defaults, Definitions.ofData? defaults with
  | .missing, _ => ofDefaults defaultRules
  | _, some definitions => ofDefaults definitions
  | _, none => .error (.unreadable (.missingValue true "entries"))

/-- What a host is told about a configuration that is not used. -/
def staysActive (reason : Text) : Text :=
  reason ++ Text.ofString " (previous rules stay active)"

/-- Marks the configuration as unusable. -/
def markInvalid (store : RuleStore) (reason : Text) : RuleStore :=
  { store with isValid := false, error := some (staysActive reason) }

/-- The definitions in use once those of a user are put on top of the defaults. A value that holds none
changes nothing. -/
def merged (store : RuleStore) (configuration : Data HostFunction) : Definitions :=
  Definitions.merge store.defaults ((Definitions.ofData? configuration).getD [])

/-- Uses the definitions of a user on top of the defaults. -/
def load (store : RuleStore) (configuration : Data HostFunction) : RuleStore × LoadOutcome :=
  match RuleIndex.compile (store.merged configuration) with
  | .ok index =>
    ({ store with index := index, isValid := true, error := none, lastValid := configuration },
      .loaded index.all.length)
  | .error (.issues issues) =>
    (store.markInvalid (RuleConfigFault.issues issues).message, .invalid issues)
  | .error (.unreadable cause) => (store, .unreadable cause)

/-- Refuses a configuration for a reason found before its rules were looked at. -/
def reject (store : RuleStore) (reason : Text) : RuleStore × LoadOutcome :=
  (store.markInvalid reason, .rejected reason)

/-- Uses the definitions of a text that was read. -/
def loadRead (store : RuleStore) (text : RulesText) : RuleStore × LoadOutcome :=
  match text.outcome with
  | .ok checked => store.load (.record (Definitions.ofChecked checked))
  | .error reason => store.reject reason

/-- Uses the definitions of a text. -/
def loadText (store : RuleStore) (t : Text) : RuleStore × LoadOutcome :=
  store.loadRead (RulesText.ofText t)

/-- Goes back to the last configuration that could be used. -/
def reset (store : RuleStore) : RuleStore × LoadOutcome :=
  if store.lastValid.isTruthy then store.load store.lastValid else (store, .noneToReset)

/-- Whether a configuration could be used, whatever it was. -/
def canReset (store : RuleStore) : Bool :=
  match store.lastValid with
  | .null => false
  | _ => true

/-- What a host is told about the rules. -/
structure Status where
  /-- Whether the last configuration given is in use. -/
  isValid : Bool
  /-- How many rules are in use. -/
  totalRules : Nat
  /-- What is wrong with the last configuration given. -/
  lastError : Option Text
  /-- Whether there is a configuration to go back to. -/
  canReset : Bool
  deriving DecidableEq, Repr

/-- What a host is told about the rules. -/
def status (store : RuleStore) : Status :=
  ⟨store.isValid, store.index.all.length, store.error, store.canReset⟩

end RuleStore

end Pairing
