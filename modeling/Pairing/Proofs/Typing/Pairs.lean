/-
**Pairs of single units.**

The pairs that most rules are about: an opening and a closing of one unit each, declared by the closing
alone. If no unit is in two of them, each unit reaches the rule of its own pair and no other unit reaches
a rule:

* `Pairs`, `Pairs.units`: pairs and their units;
* `Pairs.ArePlain`: no unit is used twice, and none is a backslash, a newline or changed by composing;
* `Pairs.closings`, `Pairs.index`: the definitions of the pairs and their index;
* `Pairs.ArePlain.compile_closings`: the definitions compile to the index;
* `Pairs.ArePlain.rulesFor_unit`, `Pairs.ArePlain.rulesFor_other`: what each unit reaches.
-/

import Mathlib.Data.List.Nodup
import Mathlib.Data.List.Pairwise
import Pairing.Proofs.Definition.Closings
import Pairing.Proofs.Fields.Distinct

namespace Pairing

/-- Pairs of an opening and a closing unit. -/
abbrev Pairs := List (UInt16 × UInt16)

namespace Pairs

/-- The units of some pairs. -/
def units (pairs : Pairs) : List UInt16 :=
  pairs.flatMap fun (o, c) => [o, c]

/-- No unit is used twice, and each is one that can be a delimiter. -/
structure ArePlain (pairs : Pairs) : Prop where
  /-- No unit is used twice. -/
  distinct : pairs.units.Nodup
  /-- The units stand for themselves in composed form. -/
  composed : ∀ unit ∈ pairs.units, Text.composed [unit] = [unit]
  /-- No unit escapes the next one. -/
  noBackslash : Text.backslash ∉ pairs.units
  /-- No unit ends a line. -/
  noNewline : Text.newline ∉ pairs.units

/-- The closings of pairs, by their openings. -/
def closings (pairs : Pairs) : Fields Text :=
  Fields.ofList (pairs.map fun (o, c) => ([o], [c]))

/-- The index of pairs. -/
def index (pairs : Pairs) : RuleIndex :=
  .ofClosings pairs.closings

end Pairs

theorem Text.clusters_singleton (unit : UInt16) : Text.clusters [unit] = [[unit]] := by
  simp [clusters, codePoints, clusterPoints, clustersFrom, ofCodePoints, ofCodePoint_toNat]

/-- The units that reach the rule of a pair are its two units. -/
theorem Rule.mem_reachingKeys_of_composed {o c : UInt16} (composed : Text.composed [c] = [c])
    (order : Nat) {unit : UInt16} :
    [unit] ∈ (Rule.ofClosing [o] [c] order).reachingKeys ↔ unit = o ∨ unit = c := by
  have closingKey : (Rule.ofClosing [o] [c] order).closingKey = [c] := by
    simp only [Rule.closingKey, Rule.ofClosing, Text.firstCluster, Text.clusters_singleton,
      List.head?_cons, Option.getD_some]
    exact composed
  rw [Rule.mem_reachingKeys, closingKey]
  simp [Rule.ofClosing]

namespace Pairs

variable {pairs : Pairs} {o c : UInt16}

theorem mem_units {unit : UInt16} :
    unit ∈ pairs.units ↔ ∃ o c, (o, c) ∈ pairs ∧ (unit = o ∨ unit = c) := by
  simp [units, List.mem_flatMap]

theorem opening_mem (member : (o, c) ∈ pairs) : o ∈ pairs.units :=
  mem_units.mpr ⟨o, c, member, Or.inl rfl⟩

theorem closing_mem (member : (o, c) ∈ pairs) : c ∈ pairs.units :=
  mem_units.mpr ⟨o, c, member, Or.inr rfl⟩

namespace ArePlain

theorem ne (plain : pairs.ArePlain) (member : (o, c) ∈ pairs) : o ≠ c := by
  have := (List.nodup_flatMap.mp plain.distinct).1 (o, c) member
  simpa using this

/-- Two pairs with a unit in common are the same. -/
theorem eq_of_common (plain : pairs.ArePlain) {p q : UInt16 × UInt16} (left : p ∈ pairs)
    (right : q ∈ pairs) {unit : UInt16} (ofLeft : unit = p.1 ∨ unit = p.2)
    (ofRight : unit = q.1 ∨ unit = q.2) : p = q := by
  by_contra different
  have symmetric : Std.Symm (Function.onFun List.Disjoint
      fun (o, c) => [o, c] : UInt16 × UInt16 → UInt16 × UInt16 → Prop) := 
    ⟨fun _ _ apart _ inRight inLeft => apart inLeft inRight⟩
  have apart := (List.nodup_flatMap.mp plain.distinct).2.forall left right different
  exact apart (by simpa using ofLeft) (by simpa using ofRight)

theorem mem_closings (plain : pairs.ArePlain) {key closing : Text} :
    (key, closing) ∈ pairs.closings ↔ ∃ o c, (o, c) ∈ pairs ∧ key = [o] ∧ closing = [c] := by
  have pairsDistinct : pairs.Nodup := by
    refine (List.nodup_flatMap.mp plain.distinct).2.imp fun {p q} apart same => ?_
    subst same
    exact apart List.mem_cons_self List.mem_cons_self
  have keysDistinct : ((pairs.map fun (o, c) => (([o] : Text), ([c] : Text))).map (·.1)).Nodup := by
    rw [List.map_map]
    refine List.Nodup.map_on (fun p left q right same => ?_) pairsDistinct
    exact plain.eq_of_common left right (Or.inl rfl) (Or.inl (List.cons.inj same).1)
  rw [closings, Fields.mem_ofList keysDistinct, List.mem_map]
  simp [eq_comm]

/-- The definitions of plain pairs compile to their index. -/
theorem compile_closings (plain : pairs.ArePlain) :
    RuleIndex.compile (.ofClosings pairs.closings) = .ok pairs.index := by
  refine RuleIndex.compile_ofClosings fun key closing member => ?_
  obtain ⟨o, c, inPairs, rfl, rfl⟩ := plain.mem_closings.mp member
  refine ⟨?_, List.cons_ne_nil c []⟩
  simp [Text.isSingleCluster, plain.composed o (opening_mem inPairs), Text.clusters_singleton]

/-! ### What a unit reaches -/

theorem mem_reachingKeys_ofClosing (plain : pairs.ArePlain) (member : (o, c) ∈ pairs) (order : Nat)
    {unit : UInt16} :
    [unit] ∈ (Rule.ofClosing [o] [c] order).reachingKeys ↔ unit = o ∨ unit = c :=
  Rule.mem_reachingKeys_of_composed (plain.composed c (closing_mem member)) order

/-- The rules that a unit reaches are those of the pairs that it is in. -/
theorem mem_rulesFor (plain : pairs.ArePlain) {unit : UInt16} {rule : Rule}
    (reached : rule ∈ pairs.index.rulesFor [unit]) :
    ∃ o c order, (o, c) ∈ pairs ∧ rule = .ofClosing [o] [c] order ∧ (unit = o ∨ unit = c) := by
  obtain ⟨⟨order, inside, rfl⟩, reaches⟩ := RuleIndex.mem_rulesFor_ofClosings.mp reached
  have place : (pairs.closings[order].1, pairs.closings[order].2) ∈ pairs.closings :=
    List.getElem_mem inside
  obtain ⟨o, c, member, key, closing⟩ := plain.mem_closings.mp place
  rw [key, closing, plain.composed o (opening_mem member)] at reaches ⊢
  exact ⟨o, c, order, member, rfl, (plain.mem_reachingKeys_ofClosing member order).mp reaches⟩

/-- A unit of a pair reaches rules, and all of them are the rule of the pair. -/
theorem rulesFor_unit (plain : pairs.ArePlain) (member : (o, c) ∈ pairs) {unit : UInt16}
    (ofPair : unit = o ∨ unit = c) :
    pairs.index.rulesFor [unit] ≠ [] ∧
      ∀ rule ∈ pairs.index.rulesFor [unit], ∃ order, rule = .ofClosing [o] [c] order := by
  constructor
  · obtain ⟨order, inside, place⟩ := List.mem_iff_getElem.mp (plain.mem_closings.mpr ⟨o, c, member, rfl, rfl⟩)
    refine List.ne_nil_of_mem (a := .ofClosing [o] [c] order) ?_
    refine RuleIndex.mem_rulesFor_ofClosings.mpr ⟨⟨order, inside, ?_⟩,
      (plain.mem_reachingKeys_ofClosing member order).mpr ofPair⟩
    rw [place, plain.composed o (opening_mem member)]
  · intro rule reached
    obtain ⟨o', c', order, member', rfl, ofOther⟩ := plain.mem_rulesFor reached
    obtain ⟨rfl, rfl⟩ := Prod.mk.inj (plain.eq_of_common member member' ofPair ofOther)
    exact ⟨order, rfl⟩

/-- A unit of no pair reaches no rule. -/
theorem rulesFor_other (plain : pairs.ArePlain) {unit : UInt16} (ofNoPair : unit ∉ pairs.units) :
    pairs.index.rulesFor [unit] = [] := by
  refine List.eq_nil_iff_forall_not_mem.mpr fun rule reached => ?_
  obtain ⟨o, c, order, member, rfl, ofPair⟩ := plain.mem_rulesFor reached
  exact ofNoPair (mem_units.mpr ⟨o, c, member, ofPair⟩)

end ArePlain

end Pairs

end Pairing
