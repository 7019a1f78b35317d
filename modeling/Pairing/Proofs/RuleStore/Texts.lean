/-
**Rules texts in use.**

A text of rules is read, checked, put on top of the defaults and compiled, each with checks of its own.
The first of them that finds nothing to report speaks for all the others:

* `RulesText.checkingIssuesOf_outcome`: the definitions of a text without faults have no issues;
* `RulesText.cause?_of_ofText`, `RulesText.ne_nil_of_outcome`: each issue of a text has a wording, and the
  wording of faults is never empty, so a fault is never taken for none;
* `RuleStore.loadText_of_ok`, `RuleStore.loadText_of_error`: the two ways in which a text can end.

`RuleStore.loadText_usesText` collects what a host can rely on for each text.
-/

import Pairing.Proofs.Definition.Merged
import Pairing.Proofs.Definition.Wording
import Pairing.Proofs.RuleStore.Runs

namespace Pairing

/-! ### What a text turned out to be -/

theorem Definitions.checkingIssues_read {φ : Type} [Callable φ] (value : Data φ) :
    (read value).checkingIssues = checkingIssuesOf (read value).definitions := by
  unfold read
  split <;> rfl

theorem Issue.message_ne_nil (issue : Issue) : issue.message ≠ [] := by
  unfold message
  split
  · decide
  · have start : Text.ofString "Pair \"" ≠ [] := by decide
    simp [start]

theorem Issue.messages_ne_nil {issues : List Issue} (some : issues ≠ []) :
    Issue.messages issues ≠ [] := by
  obtain ⟨first, rest, rfl⟩ := List.exists_cons_of_ne_nil some
  unfold messages
  rw [List.map_cons]
  cases rest with
  | nil => exact first.message_ne_nil
  | cons second others => simp [Text.join, first.message_ne_nil]

namespace RulesText

/-- The definitions of a text without faults were checked, and nothing was found. -/
theorem checkingIssuesOf_outcome {t : Text} {checked : CheckedDefinitions}
    (given : (ofText t).outcome = .ok checked) : Definitions.checkingIssuesOf checked = [] := by
  unfold ofText at given
  split at given
  · obtain rfl := Except.ok.inj given
    rfl
  split at given
  · next json _ =>
    unfold outcome at given
    dsimp only at given
    split at given
    · next noIssues =>
      obtain rfl := Except.ok.inj given
      rw [← Definitions.checkingIssues_read]
      exact (List.append_eq_nil_iff.mp (List.isEmpty_iff.mp noIssues)).2
    · simp at given
  · simp [outcome] at given

/-- Each issue of a text has a wording. -/
theorem cause?_of_ofText {t : Text} {reading : Reading} (held : ofText t = .holds reading) :
    reading.cause? = none := by
  unfold ofText at held
  split at held
  · simp at held
  split at held
  · obtain rfl := RulesText.holds.inj held
    exact Reading.cause?_read_ofJson _
  · simp at held

/-- The wording of faults says something. -/
theorem ne_nil_of_outcome {text : RulesText} {reason : Text} (given : text.outcome = .error reason) :
    reason ≠ [] := by
  cases text with
  | blank => simp [outcome] at given
  | holds reading =>
    unfold outcome at given
    dsimp only at given
    split at given
    · simp at given
    · next issues =>
      obtain rfl := Except.error.inj given
      exact Issue.messages_ne_nil fun none => issues (List.isEmpty_iff.mpr none)
  | malformed fault =>
    obtain rfl := Except.error.inj given
    exact List.append_ne_nil_of_left_ne_nil (by decide) _

end RulesText

/-! ### Texts in a store -/

namespace RuleStore

variable {store : RuleStore} {base : RuleIndex} {t : Text}

/-- A text without faults is put in use on top of the defaults. -/
theorem loadText_of_ok (compiled : RuleIndex.compile store.defaults = .ok base)
    {checked : CheckedDefinitions} (given : (RulesText.ofText t).outcome = .ok checked) :
    ∃ index, RuleIndex.compile (Definitions.merge store.defaults (Definitions.ofChecked checked)) =
        .ok index ∧
      store.loadText t =
        (⟨store.defaults, index, true, none, .record (Definitions.ofChecked checked)⟩,
          .loaded index.all.length) := by
  obtain ⟨top, above⟩ :=
    RuleIndex.exists_compile_ofChecked (RulesText.checkingIssuesOf_outcome given)
  obtain ⟨index, together⟩ := RuleIndex.exists_compile_merge compiled above
  refine ⟨index, together, ?_⟩
  rw [loadText, loadRead, given]
  exact load_of_compile together

/-- A text with faults is refused with their wording. -/
theorem loadText_of_error {reason : Text} (given : (RulesText.ofText t).outcome = .error reason) :
    store.loadText t = (store.markInvalid reason, .rejected reason) := by
  rw [loadText, loadRead, given]
  rfl

/-- **A text of rules is used as it was read.** On top of defaults that compile, it is never cut short by
what cannot be read, and none of its issues lacks a wording. It is loaded exactly if it was read without
an error; its definitions are then in use on top of the defaults, and the store is valid. Otherwise it is
refused with exactly the error that it was read with, which is never empty; the index stays as it was,
and the store is not valid. -/
theorem loadText_usesText (compiled : RuleIndex.compile store.defaults = .ok base) (t : Text) :
    let parsed := (RulesText.ofText t).outcome
    let after := (store.loadText t).1
    let outcome := (store.loadText t).2
    (∀ cause, outcome ≠ .unreadable cause) ∧
    (∀ reading, RulesText.ofText t = .holds reading → reading.cause? = none) ∧
    ((∃ rules, outcome = .loaded rules) ↔ ∃ checked, parsed = .ok checked) ∧
    (∀ checked, parsed = .ok checked →
      RuleIndex.compile (Definitions.merge store.defaults (Definitions.ofChecked checked)) = .ok after.index ∧
        after.status.isValid = true ∧ after.status.lastError = none) ∧
    ∀ reason, parsed = .error reason →
      reason ≠ [] ∧ outcome.error? = some reason ∧ after.index = store.index ∧
        after.status.isValid = false := by
  intro parsed after outcome
  have worded (reading : Reading) (held : RulesText.ofText t = .holds reading) :=
    RulesText.cause?_of_ofText held
  cases given : (RulesText.ofText t).outcome with
  | ok checked =>
    obtain ⟨index, together, loads⟩ := loadText_of_ok compiled given
    have ends : after = _ ∧ outcome = _ := Prod.mk.inj loads
    rw [ends.1, ends.2]
    refine ⟨nofun, worded, ⟨fun _ => ⟨checked, given⟩, fun _ => ⟨_, rfl⟩⟩, ?_, ?_⟩
    · intro other same
      obtain rfl := Except.ok.inj (given.symm.trans same)
      exact ⟨together, rfl, rfl⟩
    · intro reason failed
      exact absurd (given.symm.trans failed) (by simp)
  | error reason =>
    have ends : after = _ ∧ outcome = _ := Prod.mk.inj (loadText_of_error given)
    rw [ends.1, ends.2]
    refine ⟨nofun, worded, ⟨nofun, ?_⟩, ?_, ?_⟩
    · rintro ⟨checked, succeeded⟩
      exact absurd (given.symm.trans succeeded) (by simp)
    · intro checked succeeded
      exact absurd (given.symm.trans succeeded) (by simp)
    · intro other same
      obtain rfl := Except.error.inj (given.symm.trans same)
      exact ⟨RulesText.ne_nil_of_outcome given, rfl, rfl, rfl⟩

/-- A text with a condition inside of another one is loaded on top of a default rule. -/
theorem loadText_usesText_condition :
    ∃ store, ofDefaults [("(", .text ")")] = .ok store ∧ ∃ after rules,
      store.loadText
          "\x7b\"[\": \x7bclosing: \"]\", when: \x7bnot: \x7btextBefore: \"x\"\x7d\x7d\x7d\x7d" =
          (after, .loaded rules) ∧
        after.status.isValid = true := by
  obtain ⟨store, started⟩ : ∃ store, ofDefaults [("(", .text ")")] = .ok store := ⟨_, rfl⟩
  have consistent := isConsistent_of_ofDefaults started
  have compiled : RuleIndex.compile store.defaults = .ok store.index :=
    consistent.sameDefaults ▸ consistent.compiled
  suffices loads : ∀ t, (RulesText.ofText t).outcome.toBool = true → ∃ after rules,
      store.loadText t = (after, .loaded rules) ∧ after.status.isValid = true from
    ⟨store, started, loads _ (by decide +kernel)⟩
  intro t parses
  obtain ⟨checked, parsed⟩ := exists_of_toBool parses
  have holds := loadText_usesText compiled t
  obtain ⟨rules, loaded⟩ := holds.2.2.1.mpr ⟨checked, parsed⟩
  exact ⟨_, rules, Prod.ext rfl loaded, (holds.2.2.2.1 checked parsed).2.1⟩

end RuleStore

end Pairing
