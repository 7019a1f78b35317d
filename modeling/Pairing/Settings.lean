/-
**Settings.**

* `Settings` — what a user sets, with `Settings.initial` for a fresh installation.
* `Settings.ofData` — the settings in stored data: fields of the right kind, and initial values for
  the rest.
* `Settings.toData` — settings as stored data.
* `Settings.merge` — settings with some fields given anew.
* `SettingsState` — settings in memory beside those in a store, and the steps that keep them together.
-/

import Pairing.Data
import Pairing.Keystroke

namespace Pairing

/-- What a user sets. -/
structure Settings where
  /-- Whether keys are decided at all. -/
  enabled : Bool
  /-- The filetypes in which no key is decided. -/
  disabledFiletypes : List Text
  /-- The user's rules, as configuration text. -/
  rulesText : Text
  /-- The indentation of opened lines where the host names none. -/
  indentUnit : Text
  deriving DecidableEq, Repr

namespace Settings

/-- The settings of a fresh installation. -/
def initial : Settings :=
  ⟨true, [], [], defaultIndentUnit⟩

/-- Whether a text can indent: it consists of spaces and tabs, and is not empty. -/
def isIndent (t : Text) : Bool :=
  !t.isEmpty && t.all fun unit => unit == Text.space || unit == Text.tab

variable {φ : Type}

/-- The settings in the fields of stored data. -/
def ofFields (enabled disabledFiletypes rulesText indentUnit : Data φ) : Settings where
  enabled := match enabled with | .bool value => value | _ => initial.enabled
  disabledFiletypes := disabledFiletypes.texts?.getD initial.disabledFiletypes
  rulesText := rulesText.text?.getD initial.rulesText
  indentUnit := match indentUnit with
    | .text t => if isIndent t then t else initial.indentUnit
    | _ => initial.indentUnit

/-- The settings in stored data. -/
def ofData (data : Data φ) : Settings :=
  if data.isRecord then
    ofFields (data.field "enabled") (data.field "disabledFiletypes") (data.field "rulesJsonc")
      (data.field "indentUnit")
  else initial

/-- The fields of settings as stored data. -/
def toFields (settings : Settings) : Fields (Data φ) :=
  [("enabled", .bool settings.enabled),
    ("disabledFiletypes", .list (settings.disabledFiletypes.map .text)),
    ("rulesJsonc", .text settings.rulesText),
    ("indentUnit", .text settings.indentUnit)]

/-- Settings as stored data. -/
def toData (settings : Settings) : Data φ :=
  .record settings.toFields

/-- Settings with the fields of a change given anew. A field that is given but not of the right kind
goes back to its initial value. -/
def merge (settings : Settings) (change : Data φ) : Settings :=
  ofData (.record (Fields.merge settings.toFields (change.entries?.getD [])))

/-- What keystrokes are handled by. -/
def keystrokes (settings : Settings) : KeystrokeSettings :=
  ⟨settings.enabled, settings.disabledFiletypes, settings.indentUnit⟩

end Settings

/-- Settings in memory, beside those in a store. -/
structure SettingsState where
  /-- The settings in memory. -/
  settings : Settings
  /-- The data in the store. -/
  stored : Data Unit
  /-- How often data was put into the store. -/
  saves : Nat

namespace SettingsState

/-- The state before anything was loaded. -/
def start (stored : Data Unit) : SettingsState :=
  ⟨Settings.initial, stored, 0⟩

/-- Takes the settings from data that was in the store. -/
def take (state : SettingsState) (data : Data Unit) : SettingsState :=
  { state with settings := Settings.ofData data }

/-- Takes the settings from the store. -/
def load (state : SettingsState) : SettingsState :=
  state.take state.stored

/-- Puts the settings into the store. -/
def save (state : SettingsState) : SettingsState :=
  { state with stored := state.settings.toData, saves := state.saves + 1 }

/-- Changes settings in memory. -/
def change (state : SettingsState) (change : Data Unit) : SettingsState :=
  { state with settings := state.settings.merge change }

/-- Changes settings and puts them into the store. -/
def update (state : SettingsState) (change : Data Unit) : SettingsState :=
  (state.change change).save

end SettingsState

end Pairing
