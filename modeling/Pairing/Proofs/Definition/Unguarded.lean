/-
**Definitions without conditions.**

A definition may say where its rule applies and what it allows. If it says neither, nothing limits the rule:

* `Data.IsUnguarded`, `Definitions.AreUnguarded`: definitions that say neither;
* `Rule.IsUnguarded`: rules that nothing limits, with `Rule.IsUnguarded.run'_isActive`;
* `Rule.IsUnconditional`: rules of which it is settled where they apply and what they allow;
* `RuleIndex.isUnguarded_of_compile`: the former compile to the latter;
* `RuleIndex.delimiters_ne_nil_of_compile`: whatever they say, their rules have delimiters.
-/

import Pairing.Proofs.Definition.Checked
import Pairing.Proofs.Query.Ends

namespace Pairing

/-- A definition does not say where it applies or what it allows. -/
structure Data.IsUnguarded {φ : Type} (entry : Data φ) : Prop where
  condition : entry.field "when" = .missing
  languages : entry.field "languages" = .missing
  cmdline : entry.field "cmdline" = .missing
  flags : ∀ action : Action, entry.field action.name = .missing

/-- No definition says where it applies or what it allows. -/
def Definitions.AreUnguarded (definitions : Definitions) : Prop :=
  ∀ key entry, (key, entry) ∈ definitions.entries → entry.IsUnguarded

/-- A rule applies everywhere and allows everything. -/
structure Rule.IsUnguarded (rule : Rule) : Prop where
  applies : rule.applies = .always true
  allows : ∀ action, rule.allows action = .always true

/-- Where a rule applies and what it allows is settled once and for all. -/
structure Rule.IsUnconditional (rule : Rule) : Prop where
  applies : ∃ answer, rule.applies = .always answer
  allows : ∀ action, ∃ answer, rule.allows action = .always answer

theorem Rule.IsUnguarded.isUnconditional {rule : Rule} (unguarded : rule.IsUnguarded) :
    rule.IsUnconditional :=
  ⟨⟨true, unguarded.applies⟩, fun action => ⟨true, unguarded.allows action⟩⟩

/-- An unguarded rule is always active, and nothing is asked for it. -/
theorem Rule.IsUnguarded.run'_isActive {rule : Rule} (unguarded : rule.IsUnguarded) (action : Option Action)
    (ctx : Context) (memo : Memo) : (rule.isActive action).run' ctx memo = (.ok true, memo) := by
  unfold isActive
  rw [unguarded.applies]
  cases action with
  | none => rfl
  | some action =>
    show (rule.allows action).run' ctx memo = _
    rw [unguarded.allows]
    rfl

/-! ### Rules of definitions -/

/-- Where nothing is said, a rule applies everywhere. -/
theorem UncheckedRule.applicability_none : applicability false none none = .always true := rfl

theorem UncheckedRule.applies_of_ofEntry {key : Text} {entry : Data HostFunction} {order : Nat}
    {rule : UncheckedRule} (unguarded : entry.IsUnguarded) (given : ofEntry key entry order = .ok rule) :
    rule.applies = .always true := by
  unfold ofEntry at given
  split at given
  · obtain rfl := Except.ok.inj given
    rfl
  · cases given
  · cases given
  · simp only [unguarded.condition, unguarded.languages, unguarded.cmdline] at given
    obtain ⟨_, isCondition, given⟩ := exists_of_bind_eq_ok given
    -- The usual priority and the six flags have no part in it.
    iterate 7 obtain ⟨_, -, given⟩ := exists_of_bind_eq_ok given
    obtain rfl := Except.ok.inj given
    obtain rfl := Except.ok.inj isCondition
    exact applicability_none

/-- The rule of a definition that says nothing about it is unguarded. -/
theorem Rule.isUnguarded_of_ofEntry {key : Text} {entry : Data HostFunction} {order : Nat} {rule : Rule}
    (unguarded : entry.IsUnguarded) (given : Rule.ofEntry key entry order = .ok rule) :
    rule.IsUnguarded := by
  obtain ⟨unchecked, made, ready⟩ := exists_rule?_of_ofEntry given
  obtain ⟨applies, allows⟩ := UncheckedRule.guards_of_rule? ready
  refine ⟨applies.trans (UncheckedRule.applies_of_ofEntry unguarded made), fun action => ?_⟩
  rw [allows]
  obtain ⟨closing, -, rfl⟩ | ⟨-, guarded⟩ := UncheckedRule.all_cases_of_ofEntry made
  · rfl
  · have allowed := guarded.allows_eq action
    rw [unguarded.flags action] at allowed
    exact (Except.ok.inj allowed).symm

/-- A record that names an opening and a closing and nothing else is unguarded. -/
theorem Definition.isUnguarded_ofDelimiters (opening closing : Text) :
    (Definition.toData ⟨closing, some opening, none, none, none, none, fun _ => none⟩ :
      Data HostFunction).IsUnguarded :=
  ⟨rfl, rfl, rfl, fun action => by cases action <;> rfl⟩

/-- Closings alone say nothing else. -/
theorem Definitions.areUnguarded_ofClosings (closings : List (Text × Text)) :
    (ofClosings closings).AreUnguarded := by
  intro key entry member
  rw [RuleIndex.entries_ofClosings] at member
  obtain ⟨_, -, same⟩ := List.mem_map.mp member
  obtain ⟨-, rfl⟩ := Prod.mk.inj same
  exact ⟨rfl, rfl, rfl, fun action => by cases action <;> rfl⟩

namespace RuleIndex

variable {definitions : Definitions} {index : RuleIndex} {rule : Rule}

/-- Definitions that say nothing about their rules compile to unguarded ones. -/
theorem isUnguarded_of_compile (compiled : compile definitions = .ok index)
    (unguarded : definitions.AreUnguarded) (member : rule ∈ index.all) : rule.IsUnguarded := by
  obtain ⟨-, rules, given, rfl⟩ := compile_eq_ok_iff.mp compiled
  obtain ⟨key, entry, inside, order, made⟩ := Definitions.entry_of_rule given (mem_all_ofRules.mp member)
  exact Rule.isUnguarded_of_ofEntry (unguarded key entry inside) made

/-- The rules of definitions that compile have delimiters. -/
theorem delimiters_ne_nil_of_compile (compiled : compile definitions = .ok index)
    (member : rule ∈ index.all) : rule.opening ≠ [] ∧ rule.closing ≠ [] := by
  obtain ⟨sound, rules, given, rfl⟩ := compile_eq_ok_iff.mp compiled
  obtain ⟨key, entry, -, -, -, -, opens, closes⟩ := sound.exists_entry given (mem_all_ofRules.mp member)
  exact ⟨opens, closes⟩

end RuleIndex

end Pairing
