/-
**An escaped cursor.**

An odd run of backslashes that ends at the cursor escapes what is typed next. No rule opens its pair there, and one
that is its own closing lets every key through. A closing is still inserted or passed over:

* `Text.trailingBackslashes`, `Text.replicate_suffix_iff`: the run of backslashes that a text ends with;
* `openPair_ends_of_escaped`, `openOrClosePair_ends_of_escaped`: what rules come to at an escaped cursor;
* `Outcome.OnlyCloses`, `decideAmong_onlyCloses`: what is left for a decision there;
* `Context.Resembles`: contexts that rules of single units cannot tell apart;
* `Rule.Coincides`, `decideAmong_coincides`: such rules decide the same there, if their conditions come to the same.

`RuleIndex.decide_escaped` puts this together.
-/

import Mathlib.Algebra.Ring.Parity
import Mathlib.Data.List.Induction
import Mathlib.Order.Bounds.Basic
import Pairing.Proofs.Decision.Writing
import Pairing.Proofs.Definition.Unguarded

namespace Pairing

open Text

/-! ### Runs of backslashes -/

/-- The number of backslashes that a text ends with. -/
def Text.trailingBackslashes (t : Text) : Nat :=
  (t.reverse.takeWhile (· == backslash)).length

theorem Text.trailingBackslashes_append_of_ne {unit : UInt16} (different : unit ≠ backslash) (t : Text) :
    trailingBackslashes (t ++ [unit]) = 0 := by
  simp [trailingBackslashes, different]

theorem Text.trailingBackslashes_append_backslash (t : Text) :
    trailingBackslashes (t ++ [backslash]) = t.trailingBackslashes + 1 := by
  simp [trailingBackslashes]

/-- The runs of backslashes that end a text are those that are not longer than the one that is counted. -/
theorem Text.replicate_suffix_iff {length : Nat} {t : Text} :
    List.replicate length backslash <:+ t ↔ length ≤ t.trailingBackslashes := by
  induction t using List.reverseRecOn generalizing length with
  | nil => simp [trailingBackslashes]
  | append_singleton front unit ih =>
    cases length with
    | zero => simp
    | succ length =>
      rw [List.replicate_succ', List.suffix_concat_iff]
      by_cases same : unit = backslash
      · rw [same, trailingBackslashes_append_backslash, Nat.add_le_add_iff_right, ← ih]
        simp
      · rw [trailingBackslashes_append_of_ne same]
        simp [Ne.symm same]

namespace Context

variable {ctx : Context}

theorem isEscaped_eq_true_iff : ctx.isEscaped = true ↔ Odd ctx.before.trailingBackslashes := by
  rw [isEscaped, beq_iff_eq, Nat.odd_iff, trailingBackslashes]

/-- The cursor is escaped where the longest run of backslashes that ends at it is odd. -/
theorem isEscaped_iff_isGreatest : ctx.isEscaped = true ↔
    ∃ longest, IsGreatest {length | List.replicate length backslash <:+ ctx.before} longest ∧ Odd longest := by
  have greatest : IsGreatest {length | List.replicate length backslash <:+ ctx.before}
      ctx.before.trailingBackslashes :=
    ⟨replicate_suffix_iff.mpr (Nat.le_refl _), fun _ ends => replicate_suffix_iff.mp ends⟩
  rw [isEscaped_eq_true_iff]
  constructor
  · exact fun odd => ⟨_, greatest, odd⟩
  · rintro ⟨longest, isLongest, odd⟩
    rwa [greatest.unique isLongest]

/-- A context with two more backslashes before the cursor. -/
def insertBackslashes (ctx : Context) : Context :=
  { ctx with before := ctx.before ++ [backslash, backslash] }

/-- Two more backslashes escape each other. -/
theorem isEscaped_insertBackslashes : ctx.insertBackslashes.isEscaped = ctx.isEscaped := by
  have longer : ctx.insertBackslashes.before.trailingBackslashes = ctx.before.trailingBackslashes + 2 := by
    show trailingBackslashes (ctx.before ++ [backslash, backslash]) = _
    rw [List.append_cons, trailingBackslashes_append_backslash, trailingBackslashes_append_backslash]
  rw [Bool.eq_iff_iff, isEscaped_eq_true_iff, isEscaped_eq_true_iff, longer, Nat.odd_add]
  exact iff_true_right even_two

end Context

/-! ### What rules come to at an escaped cursor -/

section Escaped

variable {ctx : Context} {key : Text} {rule : Rule} (escaped : ctx.isEscaped = true)

include escaped

theorem openPair_ends_of_escaped (typed : Nat) :
    (openPair key rule typed).Ends ctx (· = .passThrough key) fun _ => True := by
  unfold openPair
  refine (Query.Ends.any _ _).bind fun allowed _ => ?_
  split
  · exact .pure rfl
  refine .read ?_
  rw [if_pos escaped]
  exact .pure rfl

theorem openOrClosePair_ends_of_escaped :
    (openOrClosePair key rule).Ends ctx (· = .passThrough key) fun _ => True := by
  unfold openOrClosePair
  refine (Query.Ends.any _ _).bind fun allowed _ => ?_
  split
  · exact .pure rfl
  refine .read ?_
  rw [if_pos escaped]
  exact .pure rfl

end Escaped

/-- An outcome lets the key through, or closes the pair of a rule with different delimiters. -/
def Outcome.OnlyCloses (ctx : Context) (key : Text) (rules : List Rule) (outcome : Outcome) : Prop :=
  outcome.edit = .passThrough key ∨
    ∃ rule ∈ rules, outcome.rule = some rule ∧ rule.opening ≠ rule.closing ∧ outcome.edit.Closes ctx rule

variable {ctx : Context} {key : Text}

theorem Outcome.OnlyCloses.mono {rules more : List Rule} {outcome : Outcome} (subset : rules ⊆ more)
    (onlyCloses : outcome.OnlyCloses ctx key rules) : outcome.OnlyCloses ctx key more :=
  onlyCloses.imp_right fun ⟨rule, member, decided⟩ => ⟨rule, subset member, decided⟩

theorem decideAmong_onlyCloses (escaped : ctx.isEscaped = true) (rules : List Rule) :
    (decideAmong key rules).Ends ctx (·.OnlyCloses ctx key rules) fun _ => True := by
  induction rules with
  | nil => exact .pure (Or.inl rfl)
  | cons rule rest ih =>
    refine decideAmong_cons_ends ?_
    cases turn : rule.turn key ctx with
    | either => exact (openOrClosePair_ends_of_escaped escaped).mono (fun edit => Or.inl) fun _ => id
    | opens typed => exact (openPair_ends_of_escaped escaped typed).mono (fun edit => Or.inl) fun _ => id
    | closes =>
      have different : rule.opening ≠ rule.closing := by
        intro same
        rw [Rule.turn_eq_either_iff.mpr (beq_iff_eq.mpr same)] at turn
        cases turn
      exact closePair_ends.mono (fun edit => .imp_right fun closes =>
        ⟨rule, List.mem_cons_self, rfl, different, closes⟩) fun _ => id
    | passes => exact ih.mono (fun outcome => .mono (List.subset_cons_self rule rest)) fun _ => id
    | fails => trivial

/-- At an escaped cursor a key is let through, or closes the pair of a rule with different delimiters. -/
theorem RuleIndex.decide_onlyCloses (index : RuleIndex) (escaped : ctx.isEscaped = true) :
    (index.decide .printable key ctx).edit = .passThrough key ∨ ∃ rule ∈ index.rulesFor key,
      (index.decide .printable key ctx).record.rule = some rule.name ∧ rule.opening ≠ rule.closing ∧
        (index.decide .printable key ctx).edit.Closes ctx rule := by
  have ends : (Pairing.decidePrintable index key).Ends ctx (·.OnlyCloses ctx key (index.rulesFor key))
      fun _ => True :=
    decidePrintable_ends fun active isSome =>
      (decideAmong_onlyCloses escaped active).mono (fun outcome => .mono isSome.subset) fun _ => id
  obtain passes | ⟨outcome, after, run, sameEdit, recorded⟩ :=
    Verdict.passes_or_exists_outcome key .printable (Pairing.decidePrintable index key) ctx
  · exact Or.inl passes
  · refine (ends.of_run' run).imp sameEdit.trans ?_
    rintro ⟨rule, reached, decided, different, closes⟩
    rw [decided] at recorded
    exact ⟨rule, reached, recorded, different, sameEdit ▸ closes⟩

/-! ### Contexts that rules of single units cannot tell apart -/

/-- The conditions of a rule come to the same in two contexts. -/
structure Rule.Coincides (rule : Rule) (ctx other : Context) : Prop where
  applies : rule.applies.Coincides ctx other
  allows : ∀ action, (rule.allows action).Coincides ctx other

theorem Rule.IsUnconditional.coincides {rule : Rule} (unconditional : rule.IsUnconditional)
    (ctx other : Context) : rule.Coincides ctx other := by
  refine ⟨?_, fun action => ?_⟩
  · obtain ⟨answer, applies⟩ := unconditional.applies
    rw [applies]
    exact .pure answer
  · obtain ⟨answer, allows⟩ := unconditional.allows action
    rw [allows]
    exact .pure answer

/-- Two contexts look the same but for the text before the cursor, of which only the escape is seen, and the hosts of
both know nothing. -/
structure Context.Resembles (ctx other : Context) : Prop where
  after : ctx.after = other.after
  isEscaped : ctx.isEscaped = other.isEscaped
  silent : ctx.oracle = .silent
  otherSilent : other.oracle = .silent

section Coincide

variable {other : Context} {rule : Rule} {rules : List Rule}

theorem Rule.isActive_coincides (conditions : rule.Coincides ctx other) (action : Option Action) :
    (rule.isActive action).Coincides ctx other := by
  refine conditions.applies.bind fun applies => .ite (.pure false) ?_
  cases action with
  | none => exact .pure true
  | some action => exact conditions.allows action

theorem Rule.allActive_coincides (conditions : ∀ rule ∈ rules, rule.Coincides ctx other)
    (action : Option Action) : (allActive rules action).Coincides ctx other := by
  induction rules with
  | nil => exact .pure []
  | cons first more ih =>
    obtain ⟨ofFirst, ofMore⟩ := List.forall_mem_cons.mp conditions
    exact (isActive_coincides ofFirst action).bind fun isActive =>
      .ite ((ih ofMore).bind fun _ => .pure _) (ih ofMore)

variable (resembles : ctx.Resembles other)

include resembles

theorem openPair_coincides (conditions : rule.Coincides ctx other) (typed : Nat) :
    (openPair key rule typed).Coincides ctx other := by
  have unmatched : (Query.unmatchedClosing rule.delimiters).Coincides ctx other :=
    .of_ends (Query.unmatchedClosing_ends_of_silent resembles.silent _)
      (Query.unmatchedClosing_ends_of_silent resembles.otherSilent _)
  refine (conditions.allows _).bind fun allowed => .ite (.pure _) (.read ?_ (.ite (.pure _) ?_))
  · rw [resembles.isEscaped]
  · exact unmatched.bind fun waits => .ite (.pure _) (.pure _)

theorem Context.Resembles.isAfter_eq (t : Text) (passSpace : Bool) :
    ctx.isAfter t passSpace = other.isAfter t passSpace := by
  rw [isAfter, isAfter, afterSpace, afterSpace, resembles.after]

theorem closePair_coincides (conditions : rule.Coincides ctx other) :
    (closePair key rule).Coincides ctx other := by
  have unmatched : (Query.unmatchedOpening rule.delimiters).Coincides ctx other :=
    .of_ends (Query.unmatchedOpening_ends_of_silent resembles.silent _)
      (Query.unmatchedOpening_ends_of_silent resembles.otherSilent _)
  have next (t : Text) : (Query.ofExcept (·.isAfter t false)).Coincides ctx other :=
    .ofExcept (resembles.isAfter_eq t false)
  refine (conditions.allows _).bind fun allowed => .ite (.pure _) ?_
  refine unmatched.bind fun waits => .ite (.pure _) ?_
  exact (next _).bind fun isNext => .ite (.pure _) <|
    (next _).bind fun isPadded => .ite (.pure _) (.pure _)

/-- A delimiter of one unit has no part that could stand before the cursor already. -/
theorem openOrClosePair_coincides (conditions : rule.Coincides ctx other) (one : rule.opening.length = 1) :
    (openOrClosePair key rule).Coincides ctx other := by
  have notSeveral : ¬ 1 < rule.opening.length := by omega
  have next : (Query.ofExcept (·.isAfter rule.opening false)).Coincides ctx other :=
    .ofExcept (resembles.isAfter_eq _ false)
  simp only [openOrClosePair, if_neg notSeveral]
  refine (conditions.allows _).bind fun allowed => .ite (.pure _) (.read ?_ (.ite (.pure _) ?_))
  · rw [resembles.isEscaped]
  · exact next.bind fun isNext => .ite (.pure _) (.pure _)

/-- Rules of single units decide the same in contexts that they cannot tell apart. -/
theorem decideAmong_coincides
    (conditions : ∀ rule ∈ rules, rule.opening.length = 1 ∧ rule.Coincides ctx other) :
    (decideAmong key rules).Coincides ctx other := by
  cases rules with
  | nil => exact .pure _
  | cons rule rest =>
    obtain ⟨one, coincides⟩ := conditions rule List.mem_cons_self
    rw [decideAmong, if_pos one]
    refine .ite ((openOrClosePair_coincides resembles coincides one).bind fun _ => .pure _) (.ite ?_ ?_)
    · exact (openPair_coincides resembles coincides 0).bind fun _ => .pure _
    · exact (closePair_coincides resembles coincides).bind fun _ => .pure _

theorem RuleIndex.edit_eq_of_resembles {index : RuleIndex}
    (conditions : ∀ rule ∈ index.rulesFor key, rule.opening.length = 1 ∧ rule.Coincides ctx other) :
    (index.decide .printable key ctx).edit = (index.decide .printable key other).edit := by
  refine Verdict.edit_eq_of_coincides ?_
  have active := Rule.allActive_coincides (fun rule reached => (conditions rule reached).2) none
  refine active.bind_of_ends (allActive_ends _ none fun _ _ => .any _ _) fun active isSome => ?_
  exact decideAmong_coincides resembles fun rule member => conditions rule (isSome.subset member)

end Coincide

/-- **The escape.** The cursor is escaped exactly if the longest run of backslashes that ends at it is odd. Whatever
rules there are and whatever the host answers, a key at an escaped cursor is let through, or a rule whose delimiters
differ inserts its closing alone, with the cursor behind it, or passes over it. And where the host knows nothing, two
more backslashes before the cursor change nothing about a key whose rules are unconditional and open with one
unit. -/
theorem RuleIndex.decide_escaped (index : RuleIndex) (key : Text) (ctx : Context) :
    (ctx.isEscaped = true ↔ ∃ longest,
      IsGreatest {length | List.replicate length backslash <:+ ctx.before} longest ∧ Odd longest) ∧
    (ctx.isEscaped = true → (index.decide .printable key ctx).edit = .passThrough key ∨
      ∃ rule ∈ index.rulesFor key, (index.decide .printable key ctx).record.rule = some rule.name ∧
        rule.opening ≠ rule.closing ∧ (index.decide .printable key ctx).edit.Closes ctx rule) ∧
    ((∀ rule ∈ index.rulesFor key, rule.IsUnconditional ∧ rule.opening.length = 1) → ctx.oracle = .silent →
      (index.decide .printable key ctx.insertBackslashes).edit = (index.decide .printable key ctx).edit) := by
  refine ⟨Context.isEscaped_iff_isGreatest, index.decide_onlyCloses, fun plain silent => ?_⟩
  have resembles : ctx.insertBackslashes.Resembles ctx :=
    ⟨rfl, Context.isEscaped_insertBackslashes, silent, silent⟩
  refine edit_eq_of_resembles resembles fun rule reached => ?_
  obtain ⟨unconditional, one⟩ := plain rule reached
  exact ⟨one, unconditional.coincides _ _⟩

/-- After one backslash, and after three, a parenthesis that closes is passed over and one that opens stays
alone. -/
theorem RuleIndex.decide_escaped_parentheses :
    let index := RuleIndex.ofClosings [("(", ")")]
    let ctx : Context := ⟨"a\\", ")", 0, [], .insert, [], .silent⟩
    ctx.isEscaped = true ∧ (∃ longest,
      IsGreatest {length | List.replicate length backslash <:+ ctx.before} longest ∧ Odd longest) ∧
    (index.decide .printable ")" ctx).edit = .move 1 ∧
    (∃ rule ∈ index.rulesFor ")", rule.opening ≠ rule.closing ∧ Edit.Closes ctx rule (.move 1)) ∧
    (∀ rule ∈ index.rulesFor "(", rule.IsUnconditional ∧ rule.opening.length = 1) ∧
    (index.decide .printable "(" ctx.insertBackslashes).edit = .passThrough "(" := by
  intro index ctx
  have isEscaped : ctx.isEscaped = true := by decide
  have skips : (index.decide .printable ")" ctx).edit = .move 1 := by decide +kernel
  have passes : (index.decide .printable "(" ctx).edit = .passThrough "(" := by decide +kernel
  have plain : ∀ rule ∈ index.rulesFor "(", rule.IsUnconditional ∧ rule.opening.length = 1 := by
    intro rule reached
    obtain ⟨⟨order, inside, rfl⟩, -⟩ := mem_rulesFor_ofClosings.mp reached
    obtain rfl : order = 0 := Nat.lt_one_iff.mp inside
    refine ⟨Rule.IsUnguarded.isUnconditional ⟨rfl, fun _ => rfl⟩, ?_⟩
    show (composed "(").length = 1
    decide +kernel
  obtain ⟨escape, closesOnly, -⟩ := decide_escaped index ")" ctx
  obtain ⟨-, -, sameEdit⟩ := decide_escaped index "(" ctx
  refine ⟨isEscaped, escape.mp isEscaped, skips, ?_, plain, (sameEdit plain rfl).trans passes⟩
  rw [skips] at closesOnly
  obtain absurd | ⟨rule, reached, -, different, closes⟩ := closesOnly isEscaped
  · cases absurd
  · exact ⟨rule, reached, different, closes⟩

end Pairing
