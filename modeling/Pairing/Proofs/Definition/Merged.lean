/-
**Merged definitions.**

The definitions of a user are put on top of others key by key. Nothing that was fine on its own becomes
wrong by that:

* `Rule.ofEntry_order`: the place of a definition decides nothing but the place of its rule;
* `Definitions.exists_rules_iff`: definitions have rules if each of them has one, wherever it stands;
* `Definitions.IsSound.merge`, `RuleIndex.exists_compile_merge`: definitions that compile on their own
  compile together;
* `RuleIndex.exists_compile_ofChecked`: checked definitions without issues compile.
-/

import Pairing.Proofs.Definition.Checked

namespace Pairing

/-! ### The place of a rule -/

theorem map_bind_except {α β γ ε : Type} (result : Except ε α) (next : α → Except ε β) (f : β → γ) :
    (result >>= next).map f = result >>= fun value => (next value).map f := by
  cases result <;> rfl

theorem UncheckedRule.ofEntry_order (key : Text) (entry : Data HostFunction) (order other : Nat) :
    UncheckedRule.ofEntry key entry other =
      (UncheckedRule.ofEntry key entry order).map fun rule => { rule with order := other } := by
  unfold UncheckedRule.ofEntry
  split
  · rfl
  · rfl
  · rfl
  · dsimp only
    split
    -- What is looked at before the rule is made knows nothing of its place.
    all_goals
      simp only [map_bind_except]
      iterate 8 refine bind_congr fun _ => ?_
      rfl

/-- A definition has the same rule at another place, but for the place. -/
theorem Rule.ofEntry_order (key : Text) (entry : Data HostFunction) (order other : Nat) :
    Rule.ofEntry key entry other =
      (Rule.ofEntry key entry order).map fun rule => { rule with order := other } := by
  unfold Rule.ofEntry
  rw [UncheckedRule.ofEntry_order key entry order other]
  cases UncheckedRule.ofEntry key entry order with
  | error fault => rfl
  | ok rule =>
    have moved : ({ rule with order := other } : UncheckedRule).rule? =
        rule.rule?.map fun rule => { rule with order := other } := by
      unfold UncheckedRule.rule?
      cases rule.opening.text? <;> cases rule.closing.text? <;> rfl
    simp only [Except.map, bind, Except.bind, moved]
    cases rule.rule? <;> rfl

/-! ### The rules of several definitions -/

namespace Definitions

theorem exists_map_ok {α ε : Type} {results : List (Except ε α)}
    (succeed : ∀ result ∈ results, ∃ value, result = .ok value) :
    ∃ values : List α, results = values.map .ok := by
  induction results with
  | nil => exact ⟨[], rfl⟩
  | cons result rest ih =>
    obtain ⟨value, rfl⟩ := succeed result List.mem_cons_self
    obtain ⟨values, rfl⟩ := ih fun other later => succeed other (List.mem_cons_of_mem _ later)
    exact ⟨value :: values, rfl⟩

/-- Definitions have rules exactly if each of them has one, in whatever place. -/
theorem exists_rules_iff {definitions : Definitions} :
    (∃ rules, definitions.rules = .ok rules) ↔
      ∀ key entry, (key, entry) ∈ definitions.entries →
        ∃ order rule, Rule.ofEntry key entry order = .ok rule := by
  constructor
  · rintro ⟨rules, given⟩ key entry member
    obtain ⟨rule, -, order, made⟩ := rule_of_entry given member
    exact ⟨order, rule, made⟩
  · intro each
    simp only [rules_eq_ok_iff]
    refine exists_map_ok fun result member => ?_
    obtain ⟨place, inside, rfl⟩ := List.mem_mapIdx.mp member
    obtain ⟨order, rule, made⟩ := each _ _ (List.getElem_mem inside)
    exact ⟨_, (Rule.ofEntry_order _ _ order place).trans (congrArg (Except.map _) made)⟩

variable {defaults overrides : Definitions}

/-- Nothing is wrong with definitions that were put together of definitions with which nothing is wrong. -/
theorem IsSound.merge (below : defaults.IsSound) (above : overrides.IsSound) :
    (Definitions.merge defaults overrides).IsSound := by
  refine ⟨List.all_eq_true.mpr fun field member => ?_, fun key value member => ?_,
    fun key value member => ?_⟩
  · obtain default | override := Fields.mem_of_mem_merge member
    · exact List.all_eq_true.mp below.readable field default
    · exact List.all_eq_true.mp above.readable field override
  · obtain default | override := Fields.mem_of_mem_merge member
    · exact below.singleKey key value default
    · exact above.singleKey key value override
  · obtain default | override := Fields.mem_of_mem_merge member
    · exact below.noProblems key value default
    · exact above.noProblems key value override

theorem mem_entries_merge {key : Text} {entry : Data HostFunction}
    (member : (key, entry) ∈ (merge defaults overrides).entries) :
    (key, entry) ∈ defaults.entries ∨ (key, entry) ∈ overrides.entries := by
  obtain ⟨rawKey, value, declared, inside, composed⟩ := mem_entries.mp member
  exact (Fields.mem_of_mem_merge declared).imp
    (fun default => mem_entries.mpr ⟨rawKey, value, default, inside, composed⟩)
    (fun override => mem_entries.mpr ⟨rawKey, value, override, inside, composed⟩)

theorem areReadable_ofChecked (checked : CheckedDefinitions) :
    (ofChecked checked).areReadable = true := by
  refine List.all_eq_true.mpr fun field member => ?_
  obtain ⟨⟨key, entries⟩, -, rfl⟩ := List.mem_map.mp member
  refine List.all_eq_true.mpr fun data inside => ?_
  obtain ⟨entry, -, rfl⟩ := List.mem_map.mp inside
  cases entry <;> rfl

theorem isSound_ofChecked {checked : CheckedDefinitions} (noIssues : checkingIssuesOf checked = []) :
    (ofChecked checked).IsSound := by
  refine issues?_eq_nil_iff.mp ?_
  rw [issues?, if_pos (areReadable_ofChecked checked)]
  exact congrArg some noIssues

theorem exists_entry_of_ofChecked {checked : CheckedDefinitions} {key : Text}
    {data : Data HostFunction} (member : (key, data) ∈ (ofChecked checked).entries) :
    ∃ entry : Entry, data = entry.toData := by
  obtain ⟨rawKey, value, declared, inside, -⟩ := mem_entries.mp member
  obtain ⟨⟨_, entries⟩, -, same⟩ := List.mem_map.mp declared
  obtain ⟨-, rfl⟩ := Prod.mk.inj same
  obtain ⟨entry, -, rfl⟩ := List.mem_map.mp inside
  exact ⟨entry, rfl⟩

end Definitions

namespace RuleIndex

/-- Definitions that compile can be put on top of others that compile. -/
theorem exists_compile_merge {defaults overrides : Definitions} {base top : RuleIndex}
    (below : compile defaults = .ok base) (above : compile overrides = .ok top) :
    ∃ index, compile (Definitions.merge defaults overrides) = .ok index := by
  obtain ⟨belowSound, belowRules, belowGiven, -⟩ := compile_eq_ok_iff.mp below
  obtain ⟨aboveSound, aboveRules, aboveGiven, -⟩ := compile_eq_ok_iff.mp above
  obtain ⟨rules, given⟩ : ∃ rules, (Definitions.merge defaults overrides).rules = .ok rules := by
    refine Definitions.exists_rules_iff.mpr fun key entry member => ?_
    obtain default | override := Definitions.mem_entries_merge member
    · exact Definitions.exists_rules_iff.mp ⟨belowRules, belowGiven⟩ key entry default
    · exact Definitions.exists_rules_iff.mp ⟨aboveRules, aboveGiven⟩ key entry override
  exact ⟨_, compile_eq_ok_iff.mpr ⟨belowSound.merge aboveSound, rules, given, rfl⟩⟩

/-- Checked definitions without issues compile. -/
theorem exists_compile_ofChecked {checked : CheckedDefinitions}
    (noIssues : Definitions.checkingIssuesOf checked = []) :
    ∃ index, compile (.ofChecked checked) = .ok index := by
  obtain ⟨rules, given⟩ : ∃ rules, (Definitions.ofChecked checked).rules = .ok rules := by
    refine Definitions.exists_rules_iff.mpr fun key data member => ?_
    obtain ⟨entry, rfl⟩ := Definitions.exists_entry_of_ofChecked member
    exact ⟨0, _, Rule.ofEntry_toData key entry 0⟩
  exact ⟨_, compile_eq_ok_iff.mpr ⟨Definitions.isSound_ofChecked noIssues, rules, given, rfl⟩⟩

end RuleIndex

end Pairing
