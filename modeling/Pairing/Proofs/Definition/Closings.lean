/-
**Bare closings.**

The shortest definition is a closing delimiter alone: it opens with its key, always applies and throws
nothing.

* `Definitions.ofClosings`: definitions of closings alone;
* `Rule.ofClosing`, `RuleIndex.ofClosings`: their rules, and the index of these;
* `RuleIndex.compile_ofClosings`: they compile, if each key is one character and no closing is empty;
* `RuleIndex.mem_all_ofClosings`, `RuleIndex.mem_rulesFor_ofClosings`: all rules, and those that a key
  reaches.
-/

import Pairing.Proofs.Definition.Compiled
import Pairing.Proofs.RuleIndex.Lookup

namespace Pairing

/-- The rule of a bare closing. -/
def Rule.ofClosing (key closing : Text) (order : Nat) : Rule where
  key := key
  opening := key
  closing := closing
  priority := (Number.ofNat key.length).add (.ofNat closing.length)
  order := order
  applies := .always true
  allows _ := .always true

theorem Rule.ofEntry_text (key closing : Text) (order : Nat) :
    Rule.ofEntry key (.text closing) order = .ok (.ofClosing key closing order) := rfl

/-- Definitions of closings alone. -/
def Definitions.ofClosings (closings : List (Text × Text)) : Definitions :=
  closings.map fun (key, closing) => (key, .text closing)

/-- The index of bare closings. -/
def RuleIndex.ofClosings (closings : List (Text × Text)) : RuleIndex :=
  .ofRules (closings.mapIdx fun order (key, closing) => .ofClosing key.composed closing order)

namespace RuleIndex

variable {closings : List (Text × Text)}

theorem entries_ofClosings (closings : List (Text × Text)) :
    (Definitions.ofClosings closings).entries =
      closings.map fun (key, closing) => (key.composed, .text closing) := by
  induction closings with
  | nil => rfl
  | cons first rest ih =>
    simp only [Definitions.ofClosings, Definitions.entries, List.map_cons, List.flatMap_cons] at ih ⊢
    rw [ih]
    rfl

/-- Bare closings compile, if each key is one character and no closing is empty. -/
theorem compile_ofClosings (sound : ∀ key closing, (key, closing) ∈ closings →
      key.isSingleCluster = true ∧ closing ≠ []) :
    compile (.ofClosings closings) = .ok (ofClosings closings) := by
  have entryOf {key : Text} {value : Data HostFunction}
      (member : (key, value) ∈ Definitions.ofClosings closings) :
      ∃ closing, (key, closing) ∈ closings ∧ value = .text closing := by
    obtain ⟨⟨k, closing⟩, place, same⟩ := List.mem_map.mp member
    obtain ⟨rfl, rfl⟩ := Prod.mk.inj same
    exact ⟨closing, place, rfl⟩
  refine compile_eq_ok_iff.mpr ⟨⟨?_, ?_, ?_⟩, _, Definitions.rules_eq_ok_iff.mpr ?_, rfl⟩
  · refine List.all_eq_true.mpr fun (key, value) member => ?_
    obtain ⟨closing, _, rfl⟩ := entryOf member
    rfl
  · intro key value member
    obtain ⟨closing, place, rfl⟩ := entryOf member
    exact (sound key closing place).1
  · intro key value member entry inside
    obtain ⟨closing, place, rfl⟩ := entryOf member
    obtain rfl := List.mem_singleton.mp inside
    exact Definitions.problemIf_eq_nil.mpr
      (by simpa using (sound key closing place).2)
  · rw [entries_ofClosings]
    refine List.ext_getElem (by simp) fun order _ _ => ?_
    simp only [List.getElem_mapIdx, List.getElem_map]
    exact Rule.ofEntry_text _ _ order

theorem mem_all_ofClosings {rule : Rule} :
    rule ∈ (ofClosings closings).all ↔
      rule ∈ closings.mapIdx fun order (key, closing) => Rule.ofClosing key.composed closing order :=
  mem_all_ofRules

/-- The rules that a key reaches: it is the key of a closing, or the first character of one. -/
theorem mem_rulesFor_ofClosings {key : Text} {rule : Rule} :
    rule ∈ (ofClosings closings).rulesFor key ↔
      (∃ order, ∃ inside : order < closings.length, rule =
        .ofClosing closings[order].1.composed closings[order].2 order) ∧ key ∈ rule.reachingKeys := by
  unfold ofClosings
  rw [mem_rulesFor_ofRules, List.mem_mapIdx]
  simp only [eq_comm]

end RuleIndex

end Pairing
