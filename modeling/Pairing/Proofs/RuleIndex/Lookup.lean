/-
**What a key reaches.**

An index is filled rule by rule and key by key. Read back, it holds under each key the rules that the key
reaches, in the order in which they are tried:

* `RuleIndex.underKey`: the rules under a key while the index is filled;
* `RuleIndex.underKey_registerAll`: they are those of the rules that the key reaches;
* `RuleIndex.rulesFor_ofRules`, `RuleIndex.mem_rulesFor_ofRules`: the same of the finished index;
* `RuleIndex.mem_all_ofRules`: it holds all rules beside.
-/

import Pairing.Fields
import Pairing.RuleIndex

namespace Pairing

theorem Rule.mem_reachingKeys {rule : Rule} {key : Text} :
    key ∈ rule.reachingKeys ↔ key = rule.key ∨ key = rule.closingKey := by
  unfold reachingKeys
  split
  · next same => simp [same]
  · simp

theorem Rule.reachingKeys_nodup (rule : Rule) : rule.reachingKeys.Nodup := by
  unfold reachingKeys
  split
  · simp
  · next different => simp [Ne.symm different]

namespace RuleIndex

/-- The rules under a key while the index is filled. -/
def underKey (key : Text) (found : List (Text × List Rule)) : List Rule :=
  (Fields.get? key found).getD []

theorem underKey_register_self (rule : Rule) (key : Text) (found : List (Text × List Rule)) :
    underKey key (register rule key found) = underKey key found ++ [rule] := by
  induction found with
  | nil => simp [register, underKey, Fields.get?]
  | cons entry rest ih =>
    obtain ⟨k, rules⟩ := entry
    unfold register
    split
    · next same => simp [underKey, Fields.get?, same]
    · next different =>
      simp only [underKey, Fields.get?, if_neg different] at ih ⊢
      exact ih

theorem underKey_register_of_ne {key other : Text} (different : key ≠ other) (rule : Rule)
    (found : List (Text × List Rule)) :
    underKey other (register rule key found) = underKey other found := by
  induction found with
  | nil => simp [register, underKey, Fields.get?, different]
  | cons entry rest ih =>
    obtain ⟨k, rules⟩ := entry
    unfold register
    split
    · next same => simp [underKey, Fields.get?, same, different]
    · simp only [underKey, Fields.get?] at ih ⊢
      split
      · rfl
      · exact ih

/-- A rule stands once under each key that it is registered for. -/
theorem underKey_registerUnder {keys : List Text} (distinct : keys.Nodup) (rule : Rule) (key : Text)
    (found : List (Text × List Rule)) :
    underKey key (keys.foldl (fun found key => register rule key found) found) =
      underKey key found ++ if key ∈ keys then [rule] else [] := by
  induction keys generalizing found with
  | nil => simp
  | cons first rest ih =>
    obtain ⟨firstNew, restDistinct⟩ := List.nodup_cons.mp distinct
    rw [List.foldl_cons, ih restDistinct]
    by_cases same : first = key
    · subst same
      rw [underKey_register_self, if_neg firstNew, if_pos List.mem_cons_self, List.append_nil]
    · rw [underKey_register_of_ne same]
      simp [List.mem_cons, Ne.symm same]

/-- Under each key stand the rules that the key reaches, as they were declared. -/
theorem underKey_registerAll (rules : List Rule) (key : Text) :
    underKey key (registerAll rules) = rules.filter fun rule => key ∈ rule.reachingKeys := by
  suffices general : ∀ found, underKey key (rules.foldl (fun found rule =>
      rule.reachingKeys.foldl (fun found key => register rule key found) found) found) =
        underKey key found ++ rules.filter fun rule => key ∈ rule.reachingKeys by
    exact general []
  induction rules with
  | nil => simp
  | cons rule rest ih =>
    intro found
    rw [List.foldl_cons, ih, underKey_registerUnder rule.reachingKeys_nodup, List.append_assoc]
    by_cases reaches : key ∈ rule.reachingKeys <;> simp [reaches]

/-- The rules that a key reaches, in the order in which they are tried. -/
theorem rulesFor_ofRules (rules : List Rule) (key : Text) :
    (ofRules rules).rulesFor key = Rule.ranked (rules.filter fun rule => key ∈ rule.reachingKeys) := by
  have mapped (found : List (Text × List Rule)) :
      Fields.get? key (found.map fun entry => (entry.1, Rule.ranked entry.2)) =
        (Fields.get? key found).map Rule.ranked := by
    induction found with
    | nil => rfl
    | cons entry rest ih =>
      simp only [List.map_cons, Fields.get?]
      split
      · rfl
      · exact ih
  show (Fields.get? key ((registerAll rules).map fun entry => (entry.1, Rule.ranked entry.2))).getD [] = _
  rw [← underKey_registerAll, mapped, underKey]
  cases Fields.get? key (registerAll rules) <;> rfl

theorem mem_all_ofRules {rules : List Rule} {rule : Rule} : rule ∈ (ofRules rules).all ↔ rule ∈ rules :=
  (Rule.ranked_perm rules).mem_iff

theorem mem_rulesFor_ofRules {rules : List Rule} {key : Text} {rule : Rule} :
    rule ∈ (ofRules rules).rulesFor key ↔ rule ∈ rules ∧ key ∈ rule.reachingKeys := by
  rw [rulesFor_ofRules, (Rule.ranked_perm _).mem_iff, List.mem_filter, decide_eq_true_iff]

end RuleIndex

end Pairing
