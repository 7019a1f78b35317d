/-
**The rules by key.**

* `Rule.precedes` — the order in which rules are tried: by descending priority, and in the order of
  their declarations where priorities are equal.
* `Rule.ranked` — rules in that order.
* `RuleIndex` — all rules, and the rules that a typed key reaches. A rule is reached from the key it
  was declared under and from the first character of its closing.
* `RuleIndex.ofRules` — the index of some rules.
* `RuleIndex.triggerKeys` — the keys that reach a rule.
-/

import Pairing.Rule
import Pairing.Text.Cluster

namespace Pairing

namespace Rule

/-- Whether a rule is tried before another one. -/
def precedes (a b : Rule) : Bool :=
  b.priority.orderKey < a.priority.orderKey ||
    (a.priority.orderKey == b.priority.orderKey && a.order ≤ b.order)

/-- Puts a rule among ranked rules. -/
def insertRanked (rule : Rule) : List Rule → List Rule
  | [] => [rule]
  | first :: rest =>
    if rule.precedes first then rule :: first :: rest else first :: insertRanked rule rest

/-- Rules in the order in which they are tried. -/
def ranked : List Rule → List Rule
  | [] => []
  | rule :: rest => insertRanked rule (ranked rest)

/-- The key of a rule's closing: the composed form of its first character. -/
def closingKey (rule : Rule) : Text :=
  rule.closing.firstCluster.composed

/-- The keys that reach a rule. -/
def reachingKeys (rule : Rule) : List Text :=
  if rule.closingKey = rule.key then [rule.key] else [rule.key, rule.closingKey]

theorem insertRanked_perm (rule : Rule) (rules : List Rule) :
    (insertRanked rule rules).Perm (rule :: rules) := by
  induction rules with
  | nil => exact List.Perm.refl _
  | cons first rest ih =>
    unfold insertRanked
    split
    · exact List.Perm.refl _
    · exact (ih.cons first).trans (List.Perm.swap rule first rest)

theorem ranked_perm (rules : List Rule) : (ranked rules).Perm rules := by
  induction rules with
  | nil => exact List.Perm.refl _
  | cons rule rest ih => exact (insertRanked_perm rule _).trans (ih.cons rule)

theorem precedes_total (a b : Rule) : a.precedes b = true ∨ b.precedes a = true := by
  simp only [precedes, Bool.or_eq_true, Bool.and_eq_true, decide_eq_true_eq, beq_iff_eq]
  omega

theorem precedes_trans {a b c : Rule} (ab : a.precedes b = true) (bc : b.precedes c = true) :
    a.precedes c = true := by
  simp only [precedes, Bool.or_eq_true, Bool.and_eq_true, decide_eq_true_eq, beq_iff_eq] at *
  omega

/-- Each rule precedes all rules after it. -/
def IsRanked (rules : List Rule) : Prop :=
  rules.Pairwise fun a b => a.precedes b = true

theorem insertRanked_isRanked {rule : Rule} {rules : List Rule} (ordered : IsRanked rules) :
    IsRanked (insertRanked rule rules) := by
  induction rules with
  | nil => simp [insertRanked, IsRanked]
  | cons first rest ih =>
    obtain ⟨firstBefore, restOrdered⟩ := List.pairwise_cons.1 ordered
    unfold insertRanked
    split
    · next before =>
      refine List.pairwise_cons.2 ⟨fun other member => ?_, ordered⟩
      rcases List.mem_cons.1 member with rfl | later
      · exact before
      · exact precedes_trans before (firstBefore other later)
    · next notBefore =>
      refine List.pairwise_cons.2 ⟨fun other member => ?_, ih restOrdered⟩
      rcases List.mem_cons.1 ((insertRanked_perm rule rest).mem_iff.1 member) with rfl | later
      · exact (precedes_total first other).resolve_right notBefore
      · exact firstBefore other later

theorem ranked_isRanked (rules : List Rule) : IsRanked (ranked rules) := by
  induction rules with
  | nil => exact List.Pairwise.nil
  | cons rule rest ih => exact insertRanked_isRanked ih

end Rule

/-- The rules that keystrokes are decided with. -/
structure RuleIndex where
  /-- The rules that each key reaches, in the order in which they are tried. -/
  byKey : List (Text × List Rule)
  /-- Every rule once, in the order in which they are tried. -/
  all : List Rule

namespace RuleIndex

/-- The rules that a key reaches. -/
def rulesFor (index : RuleIndex) (key : Text) : List Rule :=
  (Fields.get? key index.byKey).getD []

/-- The keys that reach a rule. -/
def triggerKeys (index : RuleIndex) : List Text :=
  (index.byKey.filter fun (_, rules) => !rules.isEmpty).map (·.1)

/-- Adds a rule to the rules that a key reaches. -/
def register (rule : Rule) (key : Text) : List (Text × List Rule) → List (Text × List Rule)
  | [] => [(key, [rule])]
  | (k, rules) :: rest =>
    if k = key then (k, rules ++ [rule]) :: rest else (k, rules) :: register rule key rest

/-- The rules by key, as they are declared. -/
def registerAll (rules : List Rule) : List (Text × List Rule) :=
  rules.foldl (fun found rule => rule.reachingKeys.foldl (fun found key => register rule key found) found) []

/-- The index of rules in the order of their declarations. -/
def ofRules (rules : List Rule) : RuleIndex where
  byKey := (registerAll rules).map fun (key, found) => (key, Rule.ranked found)
  all := Rule.ranked rules

end RuleIndex

end Pairing
