/-
**Settings in a store.**

Settings are taken from whatever a store holds, and put into it as data of their own:

* `Settings.CanIndent`: the indentation can indent, as it does in all settings that come from data;
* `Settings.ofData_toData`: such settings come back from a store as they were put into it;
* `SettingsState.InStep`: the store holds the settings in memory;
* `SettingsState.inStep_load`, `SettingsState.inStep_update`: loading brings memory in step with the store,
  and updating brings the store in step with memory.
-/

import Pairing.Settings

namespace Pairing

variable {φ : Type}

theorem Data.mapM_text? (texts : List Text) :
    (texts.map (.text : Text → Data φ)).mapM Data.text? = some texts := by
  induction texts with
  | nil => rfl
  | cons first rest ih =>
    rw [List.map_cons, List.mapM_cons, ih]
    rfl

namespace Settings

/-- The indentation can indent. -/
def CanIndent (settings : Settings) : Prop :=
  isIndent settings.indentUnit = true

theorem canIndent_initial : initial.CanIndent := by
  show isIndent defaultIndentUnit = true
  decide

theorem canIndent_ofData (data : Data φ) : (ofData data).CanIndent := by
  unfold ofData
  split
  · unfold ofFields CanIndent
    dsimp only
    split
    · next t _ =>
      split
      · next indents => exact indents
      · exact canIndent_initial
    · exact canIndent_initial
  · exact canIndent_initial

/-- Settings come back from their data. -/
theorem ofData_toData {settings : Settings} (indents : settings.CanIndent) :
    ofData (settings.toData : Data φ) = settings := by
  obtain ⟨enabled, disabledFiletypes, rulesText, indentUnit⟩ := settings
  replace indents : isIndent indentUnit = true := indents
  have filetypes : (Data.list (disabledFiletypes.map .text) : Data φ).texts? = some disabledFiletypes :=
    Data.mapM_text? disabledFiletypes
  show ofFields (.bool enabled) (.list (disabledFiletypes.map .text)) (.text rulesText)
    (.text indentUnit : Data φ) = _
  unfold ofFields
  rw [filetypes]
  dsimp only
  rw [if_pos indents]
  rfl

end Settings

namespace SettingsState

/-- The store holds the settings in memory. -/
def InStep (state : SettingsState) : Prop :=
  Settings.ofData state.stored = state.settings

theorem inStep_load (state : SettingsState) : state.load.InStep := rfl

theorem inStep_update (state : SettingsState) (change : Data Unit) : (state.update change).InStep :=
  Settings.ofData_toData (Settings.canIndent_ofData _)

end SettingsState

end Pairing
