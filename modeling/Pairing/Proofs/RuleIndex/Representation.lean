/-
**What an index represents.**

An index is filled under one or two keys for each rule, and ranked key by key. All of it agrees with one
order of all rules:

* `Rule.Outranks`: the strict order in which rules are tried, by the values of their priorities;
* `Rule.filter_ranked`: ranking some of the rules is choosing them among all ranked rules;
* `RuleIndex.IsFilled`: an index under distinct keys, with a rule under each of them;
* `RuleIndex.get?_ofRules`, `RuleIndex.mem_triggerKeys_ofRules`: what stands under a key, and which keys
  something stands under;
* `Definitions.map_order_rules`, `Definitions.ofEntry_of_mem_rules`: the rules of definitions are numbered
  in the order of their declaration;
* `Rule.isNaN_priority_of_ofEntry`: each of them has a priority that can be compared.

`RuleIndex.compile_represents` collects what the index of definitions holds.
-/

import Mathlib.Algebra.Ring.Nat
import Mathlib.Data.List.Nodup
import Pairing.Proofs.Definition.Compiled
import Pairing.Proofs.Fields.Distinct
import Pairing.Proofs.Number.Order
import Pairing.Proofs.RuleIndex.Lookup

namespace Pairing

/-! ### Ranked rules -/

namespace Rule

/-- A rule is tried before another one: its priority is greater in value, or equal and the rule was
declared earlier. -/
def Outranks (a b : Rule) : Prop :=
  b.priority.scaled < a.priority.scaled ∨ a.priority.scaled = b.priority.scaled ∧ a.order < b.order

theorem outranks_of_precedes {a b : Rule} (precedes : a.precedes b = true)
    (different : a.order ≠ b.order) : a.Outranks b := by
  simp only [Rule.precedes, Bool.or_eq_true, Bool.and_eq_true, decide_eq_true_eq, beq_iff_eq,
    Number.orderKey_lt_iff, Number.orderKey_eq_iff] at precedes
  exact precedes.imp_right fun tie => ⟨tie.1, Nat.lt_of_le_of_ne tie.2 different⟩

/-- Ranked rules of different places outrank one another strictly. -/
theorem pairwise_outranks {rules : List Rule} (ordered : IsRanked rules)
    (distinct : (rules.map (·.order)).Nodup) : rules.Pairwise Outranks :=
  (ordered.and (List.pairwise_map.mp distinct)).imp fun both => outranks_of_precedes both.1 both.2

theorem insertRanked_of_precedes {rule : Rule} {rules : List Rule}
    (before : ∀ other ∈ rules, rule.precedes other = true) :
    insertRanked rule rules = rule :: rules := by
  cases rules with
  | nil => rfl
  | cons first rest => rw [insertRanked, if_pos (before first List.mem_cons_self)]

/-- A rule is put in the same place whether the rules are chosen before or after. What it passes over
stands before it either way, and it precedes whatever is left behind its place. -/
theorem filter_insertRanked (chosen : Rule → Bool) (rule : Rule) {rules : List Rule}
    (ordered : IsRanked rules) :
    (insertRanked rule rules).filter chosen =
      if chosen rule then insertRanked rule (rules.filter chosen) else rules.filter chosen := by
  induction rules with
  | nil => simp [insertRanked, List.filter_cons]
  | cons first rest ih =>
    obtain ⟨firstBefore, restOrdered⟩ := List.pairwise_cons.mp ordered
    by_cases before : rule.precedes first = true
    · have beforeAll : ∀ other ∈ first :: rest, rule.precedes other = true := by
        rintro other (_ | ⟨_, later⟩)
        · exact before
        · exact precedes_trans before (firstBefore other later)
      rw [insertRanked_of_precedes beforeAll, List.filter_cons,
        insertRanked_of_precedes fun other member => beforeAll other (List.mem_of_mem_filter member)]
    · rw [insertRanked, if_neg before, List.filter_cons, List.filter_cons, ih restOrdered]
      by_cases firstChosen : chosen first = true
      · simp only [if_pos firstChosen, insertRanked, if_neg before]
        split <;> rfl
      · simp only [if_neg firstChosen]

/-- Choosing among ranked rules is ranking the chosen ones. -/
theorem filter_ranked (chosen : Rule → Bool) (rules : List Rule) :
    (ranked rules).filter chosen = ranked (rules.filter chosen) := by
  induction rules with
  | nil => rfl
  | cons rule rest ih =>
    rw [ranked, filter_insertRanked chosen rule (ranked_isRanked rest), ih, List.filter_cons]
    split <;> rfl

theorem ranked_eq_nil_iff {rules : List Rule} : ranked rules = [] ↔ rules = [] := by
  rw [← List.length_eq_zero_iff, (ranked_perm rules).length_eq, List.length_eq_zero_iff]

end Rule

/-! ### Filled indexes -/

namespace RuleIndex

/-- Rules under distinct keys, with a rule under each key. -/
structure IsFilled (found : List (Text × List Rule)) : Prop where
  /-- No key stands twice. -/
  distinct : (Fields.keys found).Nodup
  /-- No key stands without a rule. -/
  nonempty : ∀ key rules, (key, rules) ∈ found → rules ≠ []

theorem keys_register (rule : Rule) (key : Text) (found : List (Text × List Rule)) :
    Fields.keys (register rule key found) =
      if key ∈ Fields.keys found then Fields.keys found else Fields.keys found ++ [key] := by
  induction found with
  | nil => rfl
  | cons entry rest ih =>
    obtain ⟨k, rules⟩ := entry
    simp only [Fields.keys, List.map_cons, List.mem_cons] at ih ⊢
    unfold register
    split
    · next same => simp [same]
    · next different =>
      rw [List.map_cons, ih]
      by_cases later : key ∈ rest.map (·.1) <;> simp [later, Ne.symm different]

theorem IsFilled.register {found : List (Text × List Rule)} (filled : IsFilled found) (rule : Rule)
    (key : Text) : IsFilled (register rule key found) := by
  constructor
  · rw [keys_register]
    split
    · exact filled.distinct
    · next new => exact filled.distinct.append (by simp) (by simpa using new)
  · have nonempty := filled.nonempty
    clear filled
    induction found with
    | nil => simp [RuleIndex.register]
    | cons entry rest ih =>
      obtain ⟨k, rules⟩ := entry
      intro other others member
      unfold RuleIndex.register at member
      split at member
      · obtain same | later := List.mem_cons.mp member
        · simp [(Prod.mk.inj same).2]
        · exact nonempty other others (List.mem_cons_of_mem _ later)
      · obtain same | later := List.mem_cons.mp member
        · exact nonempty other others (same ▸ List.mem_cons_self)
        · exact ih (fun k r inside => nonempty k r (List.mem_cons_of_mem _ inside)) other others later

/-- An index is filled whenever a rule has been registered under all of its keys. -/
theorem isFilled_registerAll (rules : List Rule) : IsFilled (registerAll rules) := by
  have registered (rule : Rule) (keys : List Text) : ∀ found, IsFilled found →
      IsFilled (keys.foldl (fun found key => RuleIndex.register rule key found) found) := by
    induction keys with
    | nil => exact fun _ filled => filled
    | cons key rest ih => exact fun found filled => ih _ (filled.register rule key)
  suffices general : ∀ found, IsFilled found → IsFilled (rules.foldl (fun found rule =>
      rule.reachingKeys.foldl (fun found key => RuleIndex.register rule key found) found) found) by
    exact general [] ⟨List.nodup_nil, by simp⟩
  induction rules with
  | nil => exact fun _ filled => filled
  | cons rule rest ih => exact fun found filled => ih _ (registered rule rule.reachingKeys found filled)

theorem IsFilled.ranked {found : List (Text × List Rule)} (filled : IsFilled found) :
    IsFilled (found.map fun (key, rules) => (key, Rule.ranked rules)) := by
  refine ⟨?_, fun key rules member => ?_⟩
  · simpa [Fields.keys, Function.comp_def] using filled.distinct
  · obtain ⟨⟨k, unranked⟩, inside, same⟩ := List.mem_map.mp member
    obtain ⟨rfl, rfl⟩ := Prod.mk.inj same
    exact mt Rule.ranked_eq_nil_iff.mp (filled.nonempty k unranked inside)

theorem isFilled_ofRules (rules : List Rule) : IsFilled (ofRules rules).byKey :=
  (isFilled_registerAll rules).ranked

/-- Under a key stand the rules that it reaches, as they stand among all rules. Nothing stands under a
key that reaches none. -/
theorem get?_ofRules (rules : List Rule) (key : Text) :
    Fields.get? key (ofRules rules).byKey =
      if ((ofRules rules).all.filter fun rule => key ∈ rule.reachingKeys) = [] then none
      else some ((ofRules rules).all.filter fun rule => key ∈ rule.reachingKeys) := by
  have reached : (ofRules rules).rulesFor key =
      (ofRules rules).all.filter fun rule => key ∈ rule.reachingKeys := by
    rw [rulesFor_ofRules, ← Rule.filter_ranked]
    rfl
  rw [← reached, rulesFor]
  cases found : Fields.get? key (ofRules rules).byKey with
  | none => rfl
  | some those =>
    have nonempty := (isFilled_ofRules rules).nonempty key those (Fields.mem_of_get? found)
    rw [Option.getD_some, if_neg nonempty]

theorem IsFilled.triggerKeys_eq {index : RuleIndex} (filled : IsFilled index.byKey) :
    index.triggerKeys = Fields.keys index.byKey := by
  unfold triggerKeys
  rw [List.filter_eq_self.mpr fun entry member => by
    simpa using filled.nonempty entry.1 entry.2 member]
  rfl

/-- The trigger keys are those that reach a rule. -/
theorem mem_triggerKeys_ofRules {rules : List Rule} {key : Text} :
    key ∈ (ofRules rules).triggerKeys ↔
      ((ofRules rules).all.filter fun rule => key ∈ rule.reachingKeys) ≠ [] := by
  rw [(isFilled_ofRules rules).triggerKeys_eq, Fields.mem_keys_iff, get?_ofRules]
  split
  · next none => simp [none]
  · next some => simp [some]

end RuleIndex

/-! ### Rules of definitions -/

namespace Definitions

variable {definitions : Definitions} {rules : List Rule}

theorem length_entries (definitions : Definitions) :
    definitions.entries.length = (definitions.map fun (_, value) => value.asList.length).sum := by
  simp [entries, List.length_flatMap]

/-- The rules of definitions are numbered in the order of their declaration. -/
theorem map_order_rules (given : definitions.rules = .ok rules) :
    rules.map (·.order) = List.range definitions.entries.length := by
  refine List.ext_getElem (by simp [length_rules given]) fun order inside _ => ?_
  have insideRules : order < rules.length := by simpa using inside
  have made := ofEntry_getElem given (length_rules given ▸ insideRules) insideRules
  rw [List.getElem_map, List.getElem_range, (Rule.place_of_ofEntry made).2]

/-- A rule is that of the definition in the place of its number. -/
theorem ofEntry_of_mem_rules (given : definitions.rules = .ok rules) {rule : Rule}
    (member : rule ∈ rules) :
    ∃ inside : rule.order < definitions.entries.length,
      Rule.ofEntry definitions.entries[rule.order].1 definitions.entries[rule.order].2 rule.order =
        .ok rule := by
  obtain ⟨order, insideRules, rfl⟩ := List.mem_iff_getElem.mp member
  have inside : order < definitions.entries.length := length_rules given ▸ insideRules
  have made := ofEntry_getElem given inside insideRules
  have place := (Rule.place_of_ofEntry made).2
  simp only [place]
  exact ⟨inside, made⟩

end Definitions

/-- The rule of a definition without problems has a priority that can be compared: the finite one that
the definition names, or the sum of its lengths. -/
theorem Rule.isNaN_priority_of_ofEntry {rawKey key : Text} {entry : Data HostFunction} {order : Nat}
    {rule : Rule} (sound : Definitions.problemsOf rawKey entry = [])
    (given : Rule.ofEntry key entry order = .ok rule) : rule.priority.isNaN = false := by
  obtain ⟨unchecked, made, ready⟩ := exists_unchecked_of_ofEntry given
  have lengths (opening closing : Text) :
      ((Number.ofNat opening.length).add (.ofNat closing.length)).IsUnsigned :=
    (Number.isUnsigned_ofNat _).add (Number.isUnsigned_ofNat _)
  rw [ready.priority_eq]
  obtain ⟨t, -, rfl⟩ | ofRecord := UncheckedRule.cases_of_ofEntry made
  · exact (lengths key t).isNumber
  · obtain ⟨hasCondition, usual, worth, isPriority⟩ := ofRecord.priority_eq
    rw [ready.opening_eq, ready.closing_eq, UncheckedRule.usualPriority_texts] at worth
    have usable := Definitions.usablePriority_of_noProblems ofRecord.notText sound
    rw [isPriority, ← Except.ok.inj worth]
    cases named : entry.field "priority" with
    | missing => exact ((lengths _ _).add (Number.isUnsigned_ofNat _)).isNumber
    | number value =>
      rw [named] at usable
      simp only [Definitions.isUsablePriority, Number.isFinite, bne_iff_ne] at usable
      simpa [Data.orElse, Data.isNullish, Data.number?, Number.isNaN] using fun top => absurd top usable
    | _ =>
      rw [named] at usable
      simp [Definitions.isUsablePriority] at usable

/-- **An index represents its definitions.** It holds the rule of each definition once, numbered in the
order of their declaration. All rules stand in one strict order by descending priorities, none of which
is NaN, and by ascending numbers where priorities are equal. Under each key stand those of all rules that
were declared under it or whose closing starts with it, in the same order and each once; the trigger keys
are those that reach a rule. -/
theorem RuleIndex.compile_represents {definitions : Definitions} {index : RuleIndex}
    (compiled : RuleIndex.compile definitions = .ok index) :
    let entries := definitions.entries
    (entries.length = (definitions.map fun (_, value) => value.asList.length).sum ∧
      index.all.length = entries.length ∧
      (index.all.map (·.order)).Perm (List.range entries.length) ∧
      ∀ rule ∈ index.all, ∃ inside : rule.order < entries.length,
        Rule.ofEntry entries[rule.order].1 entries[rule.order].2 rule.order = .ok rule) ∧
    ((∀ rule ∈ index.all, rule.priority.isNaN = false) ∧ index.all.Pairwise Rule.Outranks) ∧
    (∀ key,
      let reached := index.all.filter fun rule =>
        rule.key = key ∨ rule.closing.firstCluster.composed = key
      Fields.get? key index.byKey = (if reached = [] then none else some reached) ∧ reached.Nodup ∧
        (key ∈ index.triggerKeys ↔ reached ≠ [])) ∧
    index.triggerKeys.Nodup := by
  intro entries
  obtain ⟨sound, rules, given, rfl⟩ := RuleIndex.compile_eq_ok_iff.mp compiled
  have sameRules : (RuleIndex.ofRules rules).all.Perm rules := Rule.ranked_perm rules
  have orders : ((RuleIndex.ofRules rules).all.map (·.order)).Perm (List.range entries.length) :=
    Definitions.map_order_rules given ▸ sameRules.map _
  have distinct : ((RuleIndex.ofRules rules).all.map (·.order)).Nodup :=
    orders.nodup_iff.mpr List.nodup_range
  have itsEntry (rule : Rule) (member : rule ∈ (RuleIndex.ofRules rules).all) :=
    Definitions.ofEntry_of_mem_rules given (sameRules.mem_iff.mp member)
  refine ⟨⟨Definitions.length_entries definitions, ?_, orders, itsEntry⟩, ⟨fun rule member => ?_, ?_⟩,
    fun key => ?_, ?_⟩
  · rw [sameRules.length_eq, Definitions.length_rules given]
  · obtain ⟨inside, made⟩ := itsEntry rule member
    obtain ⟨rawKey, value, declared, place, -⟩ := Definitions.mem_entries.mp (List.getElem_mem inside)
    exact Rule.isNaN_priority_of_ofEntry (sound.noProblems rawKey value declared _ place) made
  · exact Rule.pairwise_outranks (Rule.ranked_isRanked rules) distinct
  · have reaches : (fun rule : Rule => decide (key ∈ rule.reachingKeys)) = fun rule =>
        decide (rule.key = key ∨ rule.closing.firstCluster.composed = key) := by
      funext rule
      rw [decide_eq_decide, Rule.mem_reachingKeys, eq_comm, eq_comm (a := key)]
      rfl
    refine ⟨reaches ▸ get?_ofRules rules key, ?_, reaches ▸ mem_triggerKeys_ofRules⟩
    exact (List.Nodup.of_map _ distinct).filter _
  · rw [(isFilled_ofRules rules).triggerKeys_eq]
    exact (isFilled_ofRules rules).distinct

/-- Two keys with one composed form: the rules of both of them stand under it, in the order of all rules. -/
theorem RuleIndex.compile_represents_sharedKey :
    ∃ index, RuleIndex.compile [([0xE9], .text ")"), ([0x65, 0x301], .list [.text ">", .text "]"])] =
        .ok index ∧
      (index.all.map (·.order)).Perm [0, 1, 2] ∧ index.all.Pairwise Rule.Outranks ∧
      Fields.get? [0xE9] index.byKey = some index.all := by
  obtain ⟨index, compiled⟩ : ∃ index, RuleIndex.compile
      [([0xE9], .text ")"), ([0x65, 0x301], .list [.text ">", .text "]"])] = .ok index :=
    exists_of_toBool (by decide +kernel)
  have holds := RuleIndex.compile_represents compiled
  have keys : ∀ entry ∈ Definitions.entries
      [([0xE9], .text ")"), ([0x65, 0x301], .list [.text ">", .text "]"])], entry.1 = [0xE9] := by
    decide +kernel
  have sameKey : ∀ rule ∈ index.all, rule.key = [0xE9] := by
    intro rule member
    obtain ⟨inside, made⟩ := holds.1.2.2.2 rule member
    exact (Rule.place_of_ofEntry made).1.trans (keys _ (List.getElem_mem inside))
  have reached : (index.all.filter fun rule =>
      rule.key = [0xE9] ∨ rule.closing.firstCluster.composed = [0xE9]) = index.all :=
    List.filter_eq_self.mpr fun rule member => by simp [sameKey rule member]
  have nonempty : index.all ≠ [] := List.ne_nil_of_length_pos (by rw [holds.1.2.1]; decide)
  refine ⟨index, compiled, holds.1.2.2.1, holds.2.1.2, ?_⟩
  rw [(holds.2.2.1 _).1, reached, if_neg nonempty]

end Pairing
