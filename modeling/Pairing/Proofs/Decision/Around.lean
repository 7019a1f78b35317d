/-
**The rule around the cursor.**

Between delimiters a key is decided by the first active rule whose delimiters stand around the cursor. Rules
that nothing limits are all active, so the text next to the cursor alone says which rule that is:

* `Verdict.exists_found_of_acts`: a key that is not let through is decided by the rule that was found;
* `Context.firstAround`: the first rule around the cursor, with `Context.firstAround_eq_of_unique` where only
  one is there;
* `run'_surrounding_of_unguarded`: among unguarded rules it is the one that is found;
* `Verdict.ofQuery_of_found`: and it decides.
-/

import Pairing.Proofs.Decision.LineEdits
import Pairing.Proofs.Decision.Writing
import Pairing.Proofs.Definition.Unguarded

namespace Pairing

variable {ctx : Context} {rule : Rule} {rules : List Rule} {index : RuleIndex} {key : Text} {kind : KeyKind}
  {action : Action} {editOf : Context → Surrounding → Edit} {found : Surrounding}

/-! ### The rule that was found decides -/

/-- A run of a query from the start. -/
theorem Query.run'_of_eval {α : Type} {query : Query α} {outcome : Except Fault α}
    (given : query.eval ctx = outcome) : query.run' ctx {} = (outcome, (query.run' ctx {}).2) :=
  Prod.ext given rfl

theorem eval_decideBetween (around : (surrounding (some action) index.all).eval ctx = .ok (some found)) :
    (decideBetween index key action editOf).eval ctx = .ok ⟨editOf ctx found, some found.rule⟩ := by
  rw [Query.eval, decideBetween, Query.run'_bind_of_ok (Query.run'_of_eval around)]
  rfl

/-- The rule that was found around the cursor decides. -/
theorem Verdict.ofQuery_of_found (around : (surrounding (some action) index.all).eval ctx = .ok (some found)) :
    let verdict := ofQuery key kind (decideBetween index key action editOf) ctx
    verdict.edit = editOf ctx found ∧ verdict.record.rule = some found.rule.name := by
  have run : (decideBetween index key action editOf).run' ctx {} =
      (.ok ⟨editOf ctx found, some found.rule⟩, _) := Query.run'_of_eval (eval_decideBetween around)
  rw [ofQuery, run]
  exact ⟨rfl, rfl⟩

/-- Where a key is not let through, a rule was found around the cursor. -/
theorem Verdict.exists_found_of_acts
    (acts : (ofQuery key kind (decideBetween index key action editOf) ctx).edit.kind ≠ .passThrough) :
    ∃ found, (surrounding (some action) index.all).eval ctx = .ok (some found) ∧
      found.rule ∈ index.all ∧ ctx.surroundedBy found.rule (acceptsPadding (some action)) = some found.padded := by
  obtain ⟨outcome, after, run, sameEdit, -⟩ := exists_outcome acts
  unfold decideBetween at run
  obtain ⟨tried, between, search, next⟩ := Query.exists_of_run'_bind run
  cases tried with
  | none =>
    obtain ⟨rfl, -⟩ := Query.of_run'_pure ctx next
    exact absurd (congrArg Edit.kind sameEdit) acts
  | some found =>
    obtain ⟨⟨earlier, later, -, -, parts, -⟩, stands⟩ := surrounding_eq_some search
    refine ⟨found, congrArg Prod.fst search, ?_, stands⟩
    rw [parts]
    exact List.mem_append_right _ List.mem_cons_self

/-! ### Unguarded rules -/

/-- The first of some rules whose delimiters stand around the cursor. -/
def Context.firstAround (ctx : Context) (acceptsPadding : Bool) (rules : List Rule) : Option Surrounding :=
  rules.findSome? fun rule => (ctx.surroundedBy rule acceptsPadding).map (Surrounding.mk rule)

/-- Among unguarded rules the first one around the cursor is found. -/
theorem run'_surrounding_of_unguarded (unguarded : ∀ rule ∈ rules, rule.IsUnguarded) (memo : Memo) :
    (surrounding (some action) rules).run' ctx memo =
      (.ok (ctx.firstAround (acceptsPadding (some action)) rules), memo) := by
  induction rules with
  | nil => rfl
  | cons first rest ih =>
    obtain ⟨firstFree, restFree⟩ := List.forall_mem_cons.mp unguarded
    rw [surrounding, Query.run'_bind_of_ok (firstFree.run'_isActive (some action) ctx memo), if_pos rfl,
      Query.run'_read_bind, Context.firstAround, List.findSome?_cons]
    cases ctx.surroundedBy first (acceptsPadding (some action)) with
    | none => exact ih restFree
    | some padded => rfl

theorem eval_surrounding_of_unguarded (unguarded : ∀ rule ∈ rules, rule.IsUnguarded) :
    (surrounding (some action) rules).eval ctx = .ok (ctx.firstAround (acceptsPadding (some action)) rules) :=
  congrArg Prod.fst (run'_surrounding_of_unguarded unguarded {})

/-- A rule that stands around the cursor alone is the first one. -/
theorem Context.firstAround_eq_of_unique {acceptsPadding padded : Bool} (member : rule ∈ rules)
    (stands : ctx.surroundedBy rule acceptsPadding = some padded)
    (alone : ∀ other ∈ rules, ctx.surroundedBy other acceptsPadding ≠ none → other = rule) :
    ctx.firstAround acceptsPadding rules = some ⟨rule, padded⟩ := by
  have isFound : (ctx.firstAround acceptsPadding rules).isSome = true := by
    refine List.findSome?_isSome_iff.mpr ⟨rule, member, ?_⟩
    rw [stands]
    rfl
  obtain ⟨found, given⟩ := Option.isSome_iff_exists.mp isFound
  obtain ⟨other, inside, isOther⟩ := List.exists_of_findSome?_eq_some given
  obtain ⟨otherPadded, otherStands, rfl⟩ := Option.map_eq_some_iff.mp isOther
  obtain rfl := alone other inside (by rw [otherStands]; exact Option.some_ne_none _)
  obtain rfl := Option.some.inj (otherStands.symm.trans stands)
  exact given

end Pairing
