/-
**Inserted definitions.**

Further definitions among others change the places of their rules, and what stands between them. The rules
themselves stay, and so does the order in which they are tried:

* `Definitions.Inserts`: definitions hold others in their order, with further ones among them;
* `Rule.renumbered`: a rule at its new place;
* `Definitions.Inserts.getElem?_rules`, `Definitions.Inserts.exists_entry_of_rule`: the rules of the
  definitions that were there, and where they come from;
* `Definitions.Inserts.filter_ranked`, `Definitions.Inserts.filter_rulesFor`: among all rules, and under each
  key, they stand in their order;
* `Rule.split_of_outranked`: where a rule outranks all that were inserted, nothing new stands before it.
-/

import Mathlib.Data.List.NodupEquivFin
import Pairing.Proofs.Definition.Merged
import Pairing.Proofs.RuleIndex.Representation

namespace Pairing

/-! ### Renumbered rules -/

/-- A rule at its new place. -/
def Rule.renumbered (place : Nat → Nat) (rule : Rule) : Rule :=
  { rule with order := place rule.order }

theorem Rule.ofEntry_renumbered {key : Text} {entry : Data HostFunction} {rule : Rule}
    (made : Rule.ofEntry key entry rule.order = .ok rule) (place : Nat → Nat) :
    Rule.ofEntry key entry (place rule.order) = .ok (rule.renumbered place) := by
  rw [Rule.ofEntry_order key entry rule.order, made]
  rfl

theorem Rule.Outranks.asymm {a b : Rule} (above : a.Outranks b) : ¬b.Outranks a := by
  rintro (lower | ⟨same, later⟩) <;> obtain higher | ⟨equal, earlier⟩ := above <;> omega

theorem Rule.Outranks.ne {a b : Rule} (above : a.Outranks b) : a ≠ b := by
  rintro rfl
  exact above.asymm above

theorem Rule.Outranks.renumbered {place : Nat ↪o Nat} {a b : Rule} (above : a.Outranks b) :
    (a.renumbered place).Outranks (b.renumbered place) :=
  above.imp_right fun tie => ⟨tie.1, place.lt_iff_lt.mpr tie.2⟩

/-! ### Definitions among others -/

namespace Definitions

/-- Definitions hold others in their order, at the places that are given. -/
def Inserts (definitions larger : Definitions) (place : Nat ↪o Nat) : Prop :=
  ∀ order : Nat, definitions.entries[order]? = larger.entries[place order]?

/-- The rules of definitions, place by place. -/
theorem map_getElem?_rules {definitions : Definitions} {rules : List Rule}
    (given : definitions.rules = .ok rules) (order : Nat) :
    (definitions.entries[order]?.map fun entry => Rule.ofEntry entry.1 entry.2 order) =
      rules[order]?.map Except.ok := by
  have same := congrArg (·[order]?) (rules_eq_ok_iff.mp given)
  simpa only [List.getElem?_mapIdx, List.getElem?_map] using same

/-- A rule stands in the place of its number. -/
theorem getElem?_eq_some_iff_order {definitions : Definitions} {rules : List Rule}
    (given : definitions.rules = .ok rules) {order : Nat} {rule : Rule} :
    rules[order]? = some rule ↔ rule ∈ rules ∧ rule.order = order := by
  have numbered {other : Nat} {found : Rule} (stands : rules[other]? = some found) :
      found.order = other := by
    have made := map_getElem?_rules given other
    rw [stands] at made
    obtain ⟨entry, -, made⟩ := Option.map_eq_some_iff.mp made
    exact (Rule.place_of_ofEntry made).2
  constructor
  · exact fun stands => ⟨List.mem_of_getElem? stands, numbered stands⟩
  · rintro ⟨member, rfl⟩
    obtain ⟨other, stands⟩ := List.mem_iff_getElem?.mp member
    rwa [numbered stands]

variable {definitions larger : Definitions} {rules largerRules : List Rule} {place : Nat ↪o Nat}

/-- The rules of the definitions that were there stand at their new places. -/
theorem Inserts.getElem?_rules (inserts : definitions.Inserts larger place)
    (given : definitions.rules = .ok rules) (givenLarger : larger.rules = .ok largerRules) (order : Nat) :
    largerRules[place order]? = rules[order]?.map (Rule.renumbered place) := by
  refine Option.map_injective (f := Except.ok (ε := Fault)) (fun a b => Except.ok.inj) ?_
  rw [← map_getElem?_rules givenLarger, ← inserts order]
  have made := map_getElem?_rules given order
  cases found : definitions.entries[order]? with
  | none =>
    rw [found] at made
    rw [Option.map_eq_none_iff.mp made.symm]
    rfl
  | some entry =>
    rw [found] at made
    obtain ⟨rule, stands, isRule⟩ := Option.map_eq_some_iff.mp made.symm
    obtain rfl := ((getElem?_eq_some_iff_order given).mp stands).2
    rw [stands, Option.map_some, Option.map_some, Option.map_some, Rule.ofEntry_renumbered isRule.symm]

/-- The rules at the places of the definitions that were there are the rules of these. -/
theorem Inserts.mem_rules_iff (inserts : definitions.Inserts larger place)
    (given : definitions.rules = .ok rules) (givenLarger : larger.rules = .ok largerRules) {rule : Rule} :
    (rule ∈ largerRules ∧ rule.order ∈ Set.range place) ↔ rule ∈ rules.map (Rule.renumbered place) := by
  rw [List.mem_map]
  constructor
  · rintro ⟨member, order, isPlace⟩
    have stands := (getElem?_eq_some_iff_order givenLarger).mpr ⟨member, isPlace.symm⟩
    rw [inserts.getElem?_rules given givenLarger] at stands
    obtain ⟨before, found, renumbered⟩ := Option.map_eq_some_iff.mp stands
    exact ⟨before, List.mem_of_getElem? found, renumbered⟩
  · rintro ⟨before, member, rfl⟩
    have stands := inserts.getElem?_rules given givenLarger before.order
    rw [(getElem?_eq_some_iff_order given).mpr ⟨member, rfl⟩] at stands
    exact ⟨List.mem_of_getElem? stands, before.order, rfl⟩

/-- A rule and the same rule at its new place come from one definition. -/
theorem Inserts.exists_entry_of_rule (inserts : definitions.Inserts larger place)
    (given : definitions.rules = .ok rules) {rule : Rule} (member : rule ∈ rules) :
    ∃ key entry, definitions.entries[rule.order]? = some (key, entry) ∧
      larger.entries[place rule.order]? = some (key, entry) ∧
      Rule.ofEntry key entry rule.order = .ok rule ∧
      Rule.ofEntry key entry (place rule.order) = .ok (rule.renumbered place) := by
  obtain ⟨inside, made⟩ := ofEntry_of_mem_rules given member
  have stands := List.getElem?_eq_getElem inside
  exact ⟨_, _, stands, (inserts rule.order).symm.trans stands, made, Rule.ofEntry_renumbered made place⟩

theorem nodup_order_ranked (given : definitions.rules = .ok rules) :
    ((Rule.ranked rules).map (·.order)).Nodup := by
  refine (((Rule.ranked_perm rules).map (·.order)).nodup_iff).mpr ?_
  rw [map_order_rules given]
  exact List.nodup_range

/-- All rules of definitions outrank one another strictly. -/
theorem pairwise_outranks_ranked (given : definitions.rules = .ok rules) :
    (Rule.ranked rules).Pairwise Rule.Outranks :=
  Rule.pairwise_outranks (Rule.ranked_isRanked rules) (nodup_order_ranked given)

open Classical in
/-- Among all rules, those of the definitions that were there stand in their order. -/
theorem Inserts.filter_ranked (inserts : definitions.Inserts larger place)
    (given : definitions.rules = .ok rules) (givenLarger : larger.rules = .ok largerRules) :
    ((Rule.ranked largerRules).filter fun rule => rule.order ∈ Set.range place) =
      (Rule.ranked rules).map (Rule.renumbered place) := by
  have ordered := pairwise_outranks_ranked given
  have orderedLarger := (pairwise_outranks_ranked givenLarger).filter
    fun rule => rule.order ∈ Set.range place
  have renumbered : ((Rule.ranked rules).map (Rule.renumbered place)).Pairwise Rule.Outranks :=
    List.pairwise_map.mpr (ordered.imp .renumbered)
  refine List.Perm.eq_of_pairwise (fun a b _ _ above below => absurd below above.asymm) orderedLarger
    renumbered ((List.perm_ext_iff_of_nodup ?_ ?_).mpr fun rule => ?_)
  · exact orderedLarger.imp Rule.Outranks.ne
  · exact renumbered.imp Rule.Outranks.ne
  · rw [List.mem_filter, (Rule.ranked_perm largerRules).mem_iff, decide_eq_true_iff,
      inserts.mem_rules_iff given givenLarger]
    exact ((Rule.ranked_perm rules).map _).mem_iff.symm

open Classical in
/-- So do those that a key reaches. -/
theorem Inserts.filter_rulesFor (inserts : definitions.Inserts larger place)
    (given : definitions.rules = .ok rules) (givenLarger : larger.rules = .ok largerRules) (key : Text) :
    (((RuleIndex.ofRules largerRules).rulesFor key).filter fun rule => rule.order ∈ Set.range place) =
      ((RuleIndex.ofRules rules).rulesFor key).map (Rule.renumbered place) := by
  rw [RuleIndex.rulesFor_ofRules, RuleIndex.rulesFor_ofRules, ← Rule.filter_ranked, ← Rule.filter_ranked,
    List.filter_comm, inserts.filter_ranked given givenLarger, List.filter_map]
  rfl

end Definitions

/-! ### Rules that were inserted below another one -/

/-- Where a rule outranks all rules that are new, there stand before it only those that stood there. -/
theorem Rule.split_of_outranked {isOld : Rule → Bool} {rules earlier later : List Rule} {rule : Rule}
    (ordered : rules.Pairwise Outranks) (old : rules.filter isOld = earlier ++ rule :: later)
    (outranked : ∀ other ∈ rules, isOld other = false → rule.Outranks other) :
    ∃ rest, rules = earlier ++ rule :: rest ∧ rest.filter isOld = later := by
  have member : rule ∈ rules.filter isOld := old ▸ List.mem_append_right earlier List.mem_cons_self
  obtain ⟨inRules, isKept⟩ := List.mem_filter.mp member
  obtain ⟨before, rest, rfl⟩ := List.append_of_mem inRules
  obtain ⟨-, fromRule, above⟩ := List.pairwise_append.mp ordered
  have aboveRule (other : Rule) (isBefore : other ∈ before) : other.Outranks rule :=
    above other isBefore rule List.mem_cons_self
  have allOld : before.filter isOld = before := by
    refine List.filter_eq_self.mpr fun other isBefore => ?_
    by_contra new
    exact (aboveRule other isBefore).asymm
      (outranked other (List.mem_append_left _ isBefore) (Bool.eq_false_iff.mpr new))
  have notBefore : rule ∉ before := fun isBefore => (aboveRule rule isBefore).ne rfl
  have notAfter : rule ∉ rest.filter isOld := fun isAfter =>
    ((List.pairwise_cons.mp fromRule).1 rule (List.mem_of_mem_filter isAfter)).ne rfl
  rw [List.filter_append, allOld, List.filter_cons_of_pos isKept] at old
  obtain ⟨rfl, -, rfl⟩ := (List.append_cons_inj_of_notMem notBefore notAfter).mp old
  exact ⟨rest, rfl, rfl⟩

end Pairing
