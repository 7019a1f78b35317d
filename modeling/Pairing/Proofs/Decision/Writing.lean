/-
**What a key writes.**

A rule is reached from the key that it stands under and from the first character of its closing, and opens
or closes its pair. Opening writes the key, and closing with the first character of the closing does too.
But where a rule has an opening of its own, it decides by the place of the cursor and not by the key, and
then the key that it stands under can come to the closing:

* `Edit.Opens`, `Edit.Closes`: an edit writes the opening from the key on, or inserts or passes the closing;
* `Rule.ClosesAt`: where a rule closes its pair;
* `Rule.TakesForClosing`: where the key that closes a pair is not one that starts the closing;
* `Outcome.Writes`, `decideAmong_writes`: every rule that acts opens or closes, by the place of the cursor;
* `Definitions.OpenWithKeys`: what definitions have to declare so that no key is taken for a closing.

`RuleIndex.compile_writesKey_iff` puts this together, and `RuleIndex.skipsClosing_of_commentKey` shows that
the rules of a fresh installation do take such a key.
-/

import Pairing.DefaultRules
import Pairing.Oracle.Scan
import Pairing.Proofs.Decision.Turn
import Pairing.Proofs.Definition.Closings
import Pairing.Verdict

namespace Pairing

open Text

/-! ### Opening and closing -/

/-- An edit opens the pair of a rule with a key: it inserts the opening from the key on, and the
closing. -/
def Edit.Opens (rule : Rule) (key : Text) (edit : Edit) : Prop :=
  ∃ typed, key <+: rule.opening.drop typed ∧
    edit = .insertPair (rule.opening.drop typed ++ rule.closing) rule.closing.length

/-- A rule closes its pair for a key: its opening is one unit and not the key, or the whole opening ends
at the cursor and the part of it before the key does not. -/
def Rule.ClosesAt (rule : Rule) (key : Text) (ctx : Context) : Prop :=
  (rule.opening.length = 1 ∧ rule.opening ≠ key) ∨
    (rule.opening.length ≠ 1 ∧ ∃ index, indexOf? key rule.opening = some index ∧ index ≠ 0 ∧
      ¬ rule.opening.take index <:+ ctx.before ∧ rule.opening <:+ ctx.before)

/-- A rule takes a key for its closing, though the closing does not start with it. -/
def Rule.TakesForClosing (rule : Rule) (key : Text) (ctx : Context) : Prop :=
  key ≠ rule.closingKey ∧ rule.ClosesAt key ctx

variable {ctx : Context} {key : Text} {rule : Rule} {edit : Edit}

theorem Edit.Opens.not_closes (opens : edit.Opens rule key) (nonempty : rule.closing ≠ []) :
    ¬ edit.Closes ctx rule := by
  obtain ⟨typed, -, rfl⟩ := opens
  have positive := List.length_pos_iff.mpr nonempty
  rintro (same | ⟨-, -, same⟩ | ⟨-, same⟩)
  · -- The cursor stands before the closing in one case and after it in the other.
    simp only [insertPair, insertText, replace.injEq, List.length_append] at same
    have lengths := congrArg List.length same.2.2.1
    rw [List.length_append] at lengths
    omega
  · cases same
  · cases same

theorem Rule.turn_eq_closes_iff (different : rule.opening ≠ rule.closing) :
    rule.turn key ctx = .closes ↔ rule.ClosesAt key ctx := by
  have notSymmetric : ¬ rule.isSymmetric = true := fun same => different (beq_iff_eq.mp same)
  unfold turn ClosesAt
  rw [if_neg notSymmetric]
  by_cases one : rule.opening.length = 1
  · simp only [one, if_true, true_and, ne_eq, not_true_eq_false, false_and, or_false]
    by_cases isOpening : rule.opening = key
    · rw [if_pos isOpening]
      exact iff_of_false Turn.noConfusion fun isNot => isNot isOpening
    · rw [if_neg isOpening]
      exact iff_of_true rfl isOpening
  · simp only [one, if_false, false_and, false_or, ne_eq, not_false_eq_true, true_and]
    cases place : indexOf? key rule.opening with
    | none =>
      refine iff_of_false Turn.noConfusion ?_
      rintro ⟨index, found, -⟩
      cases found
    | some index =>
      simp only [Option.some.injEq, exists_eq_left', Context.endsBefore, List.isSuffixOf_iff_suffix]
      by_cases starts : index = 0 ∨ rule.opening.take index <:+ ctx.before
      · rw [if_pos starts]
        refine iff_of_false Turn.noConfusion ?_
        rintro ⟨later, startsNot, -⟩
        exact starts.elim later startsNot
      · rw [if_neg starts]
        rw [not_or] at starts
        by_cases stands : rule.opening <:+ ctx.before
        · rw [if_pos stands]
          exact iff_of_true rfl ⟨starts.1, starts.2, stands⟩
        · rw [if_neg stands]
          refine iff_of_false Turn.noConfusion ?_
          rintro ⟨-, -, ends⟩
          exact stands ends

/-- A turn to open a pair with a key inserts the opening from the key on. -/
theorem Rule.prefix_of_turn {typed : Nat} (opens : rule.turn key ctx = .opens typed) :
    key <+: rule.opening.drop typed := by
  unfold turn at opens
  split at opens
  · cases opens
  split at opens
  · split at opens
    · next isOpening =>
      obtain rfl := Turn.opens.inj opens
      rw [isOpening]
      exact List.prefix_refl _
    · cases opens
  split at opens
  · cases opens
  next index place =>
  split at opens
  · obtain rfl := Turn.opens.inj opens
    exact prefix_drop_of_indexOf? place
  · split at opens <;> cases opens

/-! ### Every decision -/

/-- A rule that acts on a key opens its pair or closes it, by the place of the cursor; one whose opening
is its closing does as it likes. -/
def Outcome.Writes (ctx : Context) (key : Text) (rules : List Rule) (outcome : Outcome) : Prop :=
  outcome.edit.kind ≠ .passThrough → ∃ rule ∈ rules, outcome.rule = some rule ∧
    (rule.opening ≠ rule.closing →
      (¬ rule.ClosesAt key ctx ∧ outcome.edit.Opens rule key) ∨
        (rule.ClosesAt key ctx ∧ outcome.edit.Closes ctx rule))

theorem Outcome.Writes.mono {rules more : List Rule} {outcome : Outcome} (subset : rules ⊆ more)
    (writes : outcome.Writes ctx key rules) : outcome.Writes ctx key more := by
  intro acts
  obtain ⟨rule, member, decided, byPlace⟩ := writes acts
  exact ⟨rule, subset member, decided, byPlace⟩

theorem decideAmong_writes (rules : List Rule) :
    (decideAmong key rules).Ends ctx (fun outcome => outcome.Writes ctx key rules)
      fun _ => True := by
  induction rules with
  | nil => exact .pure fun acts => absurd rfl acts
  | cons rule rest ih =>
    refine decideAmong_cons_ends ?_
    cases turn : rule.turn key ctx with
    | either =>
      have symmetric := beq_iff_eq.mp (Rule.turn_eq_either_iff.mp turn)
      refine (Query.Ends.any _ _).mono (fun edit _ acts => ?_) fun _ => id
      exact ⟨rule, List.mem_cons_self, rfl, absurd symmetric⟩
    | opens typed =>
      refine (openPair_ends typed).mono (fun edit ends acts => ?_) fun _ => id
      refine ⟨rule, List.mem_cons_self, rfl, fun different => Or.inl ⟨fun closes => ?_, ?_⟩⟩
      · rw [(Rule.turn_eq_closes_iff different).mpr closes] at turn
        cases turn
      · obtain rfl | inserts := ends
        · exact absurd rfl acts
        · exact ⟨typed, Rule.prefix_of_turn turn, inserts⟩
    | closes =>
      refine closePair_ends.mono (fun edit ends acts => ?_) fun _ => id
      refine ⟨rule, List.mem_cons_self, rfl, fun different => Or.inr ?_⟩
      obtain rfl | closes := ends
      · exact absurd rfl acts
      · exact ⟨(Rule.turn_eq_closes_iff different).mp turn, closes⟩
    | passes => exact ih.mono (fun outcome => .mono (List.subset_cons_self rule rest)) fun _ => id
    | fails => trivial

/-- A verdict comes from an outcome, or lets the key through. -/
theorem Verdict.passes_or_exists_outcome (key : Text) (kind : KeyKind) (query : Query Outcome) (ctx : Context) :
    (ofQuery key kind query ctx).edit = .passThrough key ∨
      ∃ outcome after, query.run' ctx {} = (.ok outcome, after) ∧
        (ofQuery key kind query ctx).edit = outcome.edit ∧
        (ofQuery key kind query ctx).record.rule = outcome.rule.map (·.name) := by
  unfold ofQuery
  cases run : query.run' ctx {} with
  | mk outcome after =>
    cases outcome with
    | error fault => exact Or.inl rfl
    | ok outcome => exact Or.inr ⟨outcome, after, rfl, rfl, rfl⟩

/-- A verdict that does not let the key through comes from an outcome. -/
theorem Verdict.exists_outcome {query : Query Outcome} {kind : KeyKind}
    (acts : (ofQuery key kind query ctx).edit.kind ≠ .passThrough) :
    ∃ outcome after, query.run' ctx {} = (.ok outcome, after) ∧
      (ofQuery key kind query ctx).edit = outcome.edit ∧
      (ofQuery key kind query ctx).record.rule = outcome.rule.map (·.name) :=
  (passes_or_exists_outcome key kind query ctx).resolve_left fun passes => acts (congrArg Edit.kind passes)

/-- Where a query comes to the same in two contexts, so does the verdict. -/
theorem Verdict.edit_eq_of_coincides {query : Query Outcome} {kind : KeyKind} {other : Context}
    (coincides : query.Coincides ctx other) :
    (ofQuery key kind query ctx).edit = (ofQuery key kind query other).edit := by
  have same := coincides {} {}
  unfold ofQuery
  cases here : query.run' ctx {} with
  | mk outcome after =>
  cases there : query.run' other {} with
  | mk outcome' last =>
    rw [here, there] at same
    obtain rfl : outcome = outcome' := same
    cases outcome <;> rfl

/-- A key that is not let through reaches the rule that acts on it. -/
theorem RuleIndex.decide_writes {index : RuleIndex}
    (acts : (index.decide .printable key ctx).edit.kind ≠ .passThrough) :
    ∃ rule ∈ index.rulesFor key, (index.decide .printable key ctx).record.rule = some rule.name ∧
      (rule.opening ≠ rule.closing →
        (¬ rule.ClosesAt key ctx ∧ (index.decide .printable key ctx).edit.Opens rule key) ∨
          (rule.ClosesAt key ctx ∧ (index.decide .printable key ctx).edit.Closes ctx rule)) := by
  obtain ⟨outcome, after, run, sameEdit, recorded⟩ := Verdict.exists_outcome acts
  have ends : (Pairing.decidePrintable index key).Ends ctx
      (fun outcome => outcome.Writes ctx key (index.rulesFor key)) fun _ => True :=
    decidePrintable_ends fun active isSome =>
      (decideAmong_writes active).mono (fun outcome => .mono isSome.subset) fun _ => id
  obtain ⟨rule, reached, decided, byPlace⟩ := ends.of_run' run (sameEdit ▸ acts)
  rw [decided] at recorded
  refine ⟨rule, reached, recorded, fun different => ?_⟩
  rw [show (index.decide .printable key ctx).edit = outcome.edit from sameEdit]
  exact byPlace different

/-! ### Compiled definitions -/

/-- What keeps a key from being taken for a closing that does not start with it: an opening of one unit
is the key itself, and where a longer opening ends, the part of it before the key ends too. -/
def Definitions.OpenWithKeys (definitions : Definitions) : Prop :=
  ∀ key entry, (key, entry) ∈ definitions.entries → opensWith key entry ≠ closesWith entry →
    key ≠ (closesWith entry).firstCluster.composed →
      ((opensWith key entry).length = 1 → opensWith key entry = key) ∧
        ∀ index, indexOf? key (opensWith key entry) = some index →
          (opensWith key entry).take index <:+ opensWith key entry

/-- A rule closes its pair for a key somewhere, unless its opening is such that the key opens it wherever
the opening ends. -/
theorem Rule.not_closesAt_iff :
    (∀ ctx, ¬ rule.ClosesAt key ctx) ↔ (rule.opening.length = 1 → rule.opening = key) ∧
      ∀ index, indexOf? key rule.opening = some index → rule.opening.take index <:+ rule.opening := by
  constructor
  · intro never
    -- The opening itself is the shortest text that the opening ends.
    have atOpening := never ⟨rule.opening, [], 0, [], .insert, [], .silent⟩
    refine ⟨fun one => ?_, fun index place => ?_⟩
    · exact Classical.byContradiction fun isNot => atOpening (Or.inl ⟨one, isNot⟩)
    · refine Classical.byContradiction fun startsNot => atOpening ?_
      have later : index ≠ 0 := by
        rintro rfl
        exact startsNot (List.take_zero ▸ List.nil_suffix)
      have notOne : rule.opening.length ≠ 1 := fun one => by
        rw [List.take_of_length_le (by omega)] at startsNot
        exact startsNot (List.suffix_refl _)
      exact Or.inr ⟨notOne, index, place, later, startsNot, List.suffix_refl _⟩
  · rintro ⟨isKey, starts⟩ ctx (⟨one, isNot⟩ | ⟨_, index, place, _, startsNot, ends⟩)
    · exact isNot (isKey one)
    · exact startsNot ((starts index place).trans ends)

/-- **What a key writes under compiled definitions.** A key that is not let through opens the pair of the rule that
acts on it, or closes that pair; and the closing starts with the key, unless the rule takes the key for its closing
where the cursor is. No rule ever does if and only if the definitions open with their keys. -/
theorem RuleIndex.compile_writesKey_iff {definitions : Definitions} {index : RuleIndex}
    (compiled : RuleIndex.compile definitions = .ok index) :
    (∀ key ctx, (index.decide .printable key ctx).edit.kind ≠ .passThrough →
      ∃ rule ∈ index.rulesFor key, (index.decide .printable key ctx).record.rule = some rule.name ∧
        (rule.opening ≠ rule.closing →
          let edit := (index.decide .printable key ctx).edit
          (edit.Opens rule key ∨ edit.Closes ctx rule) ∧
            (edit.Opens rule key ∨ (edit.Closes ctx rule ∧ key = rule.closingKey) ↔
              ¬ rule.TakesForClosing key ctx))) ∧
    ((∀ key ctx, ∀ rule ∈ index.rulesFor key, rule.opening ≠ rule.closing →
        ¬ rule.TakesForClosing key ctx) ↔ definitions.OpenWithKeys) := by
  obtain ⟨sound, rules, given, rfl⟩ := RuleIndex.compile_eq_ok_iff.mp compiled
  constructor
  · intro key ctx acts
    obtain ⟨rule, reached, recorded, byPlace⟩ := RuleIndex.decide_writes acts
    refine ⟨rule, reached, recorded, fun different => ?_⟩
    obtain ⟨_, _, _, declared⟩ := sound.exists_entry given (mem_rulesFor_ofRules.mp reached).1
    have nonempty : rule.closing ≠ [] := declared.2.2.2.2
    rcases byPlace different with ⟨notClosing, opens⟩ | ⟨closing, closes⟩
    · exact ⟨Or.inl opens, iff_of_true (Or.inl opens) fun takes => notClosing takes.2⟩
    · refine ⟨Or.inr closes, ?_⟩
      constructor
      · rintro (opens | ⟨_, same⟩) takes
        · exact opens.not_closes nonempty closes
        · exact takes.1 same
      · intro notTaken
        refine Or.inr ⟨closes, Classical.byContradiction fun isNot => notTaken ⟨isNot, closing⟩⟩
  · constructor
    · intro never key entry member different isNotClosing
      obtain ⟨rule, place, itsKey, opens, closes, _⟩ := sound.exists_rule given member
      rw [← opens, ← closes] at different
      rw [← closes] at isNotClosing
      rw [← opens]
      refine (Rule.not_closesAt_iff).mp fun ctx closing => ?_
      have reaches := Rule.mem_reachingKeys.mpr (Or.inl itsKey.symm)
      exact never key ctx rule (mem_rulesFor_ofRules.mpr ⟨place, reaches⟩) different
        ⟨isNotClosing, closing⟩
    · rintro openWithKeys key ctx rule reached different ⟨isNotClosing, closing⟩
      obtain ⟨place, reaches⟩ := mem_rulesFor_ofRules.mp reached
      have isKey := (Rule.mem_reachingKeys.mp reaches).resolve_right isNotClosing
      obtain ⟨itsOwn, entry, member, itsKey, opens, closes, _⟩ :=
        sound.exists_entry given place
      have opensWithKey := openWithKeys itsOwn entry member
      rw [← opens, ← closes, ← itsKey, ← isKey] at opensWithKey
      exact (Rule.not_closesAt_iff).mpr (opensWithKey different isNotClosing) ctx closing

/-- A closing parenthesis passes over the one at the cursor, and its key starts it. -/
theorem RuleIndex.compile_writesKey_parenthesis :
    let parentheses : List (Text × Text) := [("(", ")")]
    let index := RuleIndex.ofClosings parentheses
    let ctx : Context := ⟨"(", ")", 0, [], .insert, [], .ofText "()"⟩
    RuleIndex.compile (.ofClosings parentheses) = .ok index ∧
      (index.decide .printable ")" ctx).edit = .move 1 ∧
      ∃ rule ∈ index.rulesFor ")", rule.opening ≠ rule.closing ∧
        (index.decide .printable ")" ctx).edit.Closes ctx rule ∧ ")" = rule.closingKey := by
  intro parentheses index ctx
  have compiled : RuleIndex.compile (.ofClosings parentheses) = .ok index := by
    refine RuleIndex.compile_ofClosings fun key closing member => ?_
    obtain ⟨rfl, rfl⟩ := Prod.mk.inj (List.mem_singleton.mp member)
    decide +kernel
  have opensWithKeys : Definitions.OpenWithKeys (.ofClosings parentheses) := by
    intro key entry member
    rw [RuleIndex.entries_ofClosings] at member
    obtain ⟨rfl, rfl⟩ := Prod.mk.inj (List.mem_singleton.mp member)
    refine fun _ _ => ⟨fun _ => rfl, fun index place => ?_⟩
    obtain rfl : 0 = index := Option.some.inj (place ▸ by decide +kernel)
    exact List.nil_suffix
  have moves : (index.decide .printable ")" ctx).edit = .move 1 := by decide +kernel
  obtain ⟨writes, never_iff⟩ := RuleIndex.compile_writesKey_iff compiled
  obtain ⟨rule, reached, recorded, byKey⟩ := writes ")" ctx (by rw [moves]; exact EditKind.noConfusion)
  have different : rule.opening ≠ rule.closing := by
    obtain ⟨⟨order, inside, rfl⟩, _⟩ := RuleIndex.mem_rulesFor_ofClosings.mp reached
    obtain rfl : order = 0 := Nat.lt_one_iff.mp inside
    show Text.composed "(" ≠ ")"
    decide +kernel
  have writesKey := (byKey different).2.mpr (never_iff.mpr opensWithKeys ")" ctx rule reached different)
  refine ⟨compiled, moves, rule, reached, different, writesKey.resolve_left ?_⟩
  rintro ⟨typed, _, inserts⟩
  rw [moves] at inserts
  cases inserts

/-- The key of a comment passes over the end of the comment, which does not start with it, where the
cursor is after the whole opening. -/
theorem RuleIndex.skipsClosing_of_commentKey :
    let ctx : Context := ⟨"<!--", "-->", 0, "html", .insert, [], .silent⟩
    ∃ index, RuleIndex.compile defaultRules = .ok index ∧
      (index.decide .printable "!" ctx).edit = .move 3 ∧
      ∃ rule ∈ index.rulesFor "!", (index.decide .printable "!" ctx).record.rule = some rule.name ∧
        rule.opening ≠ rule.closing ∧ ¬ (index.decide .printable "!" ctx).edit.Opens rule "!" ∧
        "!" ≠ rule.closingKey := by
  intro ctx
  have decided : ((RuleIndex.compile defaultRules).toOption.map fun index =>
      ((index.decide .printable "!" ctx).edit, (index.decide .printable "!" ctx).record.rule)) =
        some (.move 3, some ⟨"!", "<!--", "-->"⟩) := by
    decide +kernel
  obtain ⟨index, compiled, verdict⟩ := Option.map_eq_some_iff.mp decided
  obtain ⟨moves, recorded⟩ := Prod.mk.inj verdict
  have acts : (index.decide .printable "!" ctx).edit.kind ≠ .passThrough := by
    rw [moves]
    exact EditKind.noConfusion
  obtain ⟨rule, reached, itsName, _⟩ := RuleIndex.decide_writes acts
  have same := RuleName.mk.inj (Option.some.inj (itsName.symm.trans recorded))
  refine ⟨index, eq_ok_of_toOption compiled, moves, rule, reached, itsName, ?_, ?_, ?_⟩
  · rw [same.2.1, same.2.2]
    decide +kernel
  · rintro ⟨typed, _, inserts⟩
    rw [moves] at inserts
    cases inserts
  · rw [Rule.closingKey, same.2.2]
    decide +kernel

end Pairing
