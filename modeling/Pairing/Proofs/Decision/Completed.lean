/-
**Completing a delimiter.**

Where opening and closing are the same delimiter of several units, a part of it may stand next to the
cursor already. What is missing on each side is put in, and nothing else:

* `overlap_isGreatest`: the overlap of two texts is the greatest length of a text that ends the first and
  starts the second;
* `Text.IsShortest`: a text is the shortest one of its kind;
* `Text.isShortest_drop_overlap`, `Text.isShortest_take_overlap`: a delimiter without its overlap is the
  shortest text that completes it, after the text before the cursor and before the text after it.

`openOrClosePair_completes` says that a rule inserts just these two texts, with the cursor between them.
-/

import Mathlib.Order.Bounds.Basic
import Pairing.Proofs.Decision.Turn
import Pairing.Proofs.Definition.Closings

namespace Pairing

/-! ### Overlaps -/

/-- Lengths are tried from the bound downwards, so the first one that fits is the greatest. -/
theorem overlapUpTo_isGreatest (a b : Text) (bound : Nat) :
    IsGreatest {length | length ≤ bound ∧ b.take length <:+ a} (overlapUpTo a b bound) := by
  induction bound with
  | zero => exact ⟨⟨Nat.le_refl 0, List.nil_suffix⟩, fun _ fits => fits.1⟩
  | succ bound ih =>
    unfold overlapUpTo
    split
    · next fits => exact ⟨⟨Nat.le_refl _, List.isSuffixOf_iff_suffix.mp fits⟩, fun _ other => other.1⟩
    · next fitsNot =>
      refine ⟨⟨Nat.le_succ_of_le ih.1.1, ih.1.2⟩, fun length fits => ih.2 ⟨?_, fits.2⟩⟩
      refine Nat.le_of_lt_succ (Nat.lt_of_le_of_ne fits.1 ?_)
      rintro rfl
      exact fitsNot (List.isSuffixOf_iff_suffix.mpr fits.2)

/-- The overlap of two texts is the greatest length of a text that ends the first and starts the
second. -/
theorem overlap_isGreatest (a b : Text) :
    IsGreatest {length | length ≤ b.length ∧ b.take length <:+ a} (overlap a b) := by
  obtain ⟨⟨bounded, fits⟩, greatest⟩ := overlapUpTo_isGreatest a b (min a.length b.length)
  refine ⟨⟨Nat.le_trans bounded (Nat.min_le_right _ _), fits⟩, fun length ends => greatest ⟨?_, ends.2⟩⟩
  have inFirst := ends.2.length_le
  rw [List.length_take_of_le ends.1] at inFirst
  exact Nat.le_min.mpr ⟨inFirst, ends.1⟩

namespace Text

/-! ### Shortest texts -/

/-- A text is the shortest one of its kind: all others are longer. -/
def IsShortest (isKind : Text → Prop) (t : Text) : Prop :=
  isKind t ∧ ∀ other, isKind other → other ≠ t → t.length < other.length

/-- After `a`, the part of a delimiter behind their overlap is the shortest text that completes it. -/
theorem isShortest_drop_overlap (a delimiter : Text) :
    IsShortest (fun u => delimiter <:+ a ++ u) (delimiter.drop (overlap a delimiter)) := by
  obtain ⟨⟨-, start, isEnd⟩, greatest⟩ := overlap_isGreatest a delimiter
  generalize overlap a delimiter = typed at *
  refine ⟨⟨start, ?_⟩, fun u completes different => ?_⟩
  · rw [← isEnd, List.append_assoc, List.take_append_drop]
  · -- A text that completes the delimiter ends with the missing part.
    have endsOther : delimiter.drop typed <:+ u := by
      obtain ⟨rest, same⟩ := completes
      obtain ⟨part, isRest, parts⟩ | ⟨more, -, isMore⟩ := List.append_eq_append_iff.mp same
      · have shorter : part.length ≤ typed := by
          refine greatest ⟨by simp [parts], rest, ?_⟩
          rw [parts, List.take_left, isRest]
        have missing : u = delimiter.drop part.length := by rw [parts, List.drop_left]
        rw [missing]
        exact List.drop_suffix_drop_left _ shorter
      · rw [isMore]
        exact (List.drop_suffix _ _).trans (List.suffix_append more delimiter)
    exact Nat.lt_of_le_of_ne endsOther.length_le fun same =>
      different (endsOther.eq_of_length same).symm

/-- Before `b`, the part of a delimiter in front of their overlap is the shortest text that completes
it. -/
theorem isShortest_take_overlap (delimiter b : Text) :
    IsShortest (fun v => delimiter <+: v ++ b)
      (delimiter.take (delimiter.length - overlap delimiter b)) := by
  obtain ⟨⟨inside, start, isEnd⟩, greatest⟩ := overlap_isGreatest delimiter b
  generalize overlap delimiter b = present at *
  have length : start.length + present = delimiter.length := by
    rw [← isEnd, List.length_append, List.length_take_of_le inside]
  have isStart : delimiter.take (delimiter.length - present) = start := by
    rw [← length, Nat.add_sub_cancel, ← isEnd, List.take_left]
  rw [isStart]
  refine ⟨⟨b.drop present, ?_⟩, fun v completes different => ?_⟩
  · rw [← isEnd, List.append_assoc, List.take_append_drop]
  · -- A text that completes the delimiter starts with the missing part.
    have startsOther : start <+: v := by
      obtain ⟨rest, same⟩ := completes
      obtain ⟨more, isMore, -⟩ | ⟨part, parts, atCursor⟩ := List.append_eq_append_iff.mp same
      · rw [isMore, ← isEnd, List.append_assoc]
        exact List.prefix_append _ _
      · have shorter : part.length ≤ present := by
          refine greatest ⟨by simp [atCursor], v, ?_⟩
          rw [atCursor, List.take_left, parts]
        refine List.prefix_of_prefix_length_le ⟨_, isEnd⟩ ⟨_, parts.symm⟩ ?_
        rw [parts, List.length_append] at length
        omega
    exact Nat.lt_of_le_of_ne startsOther.length_le fun same =>
      different (startsOther.eq_of_length same).symm

end Text

/-! ### What a rule inserts -/

open Text

/-- **A delimiter is completed exactly.** Where a rule has the same opening and closing of several units,
may open or close, and is not kept from it by an escaped cursor or by the delimiter at the cursor, it takes
nothing away and inserts the shortest texts that complete the delimiter before and after the cursor, which
comes to stand between them. The rule decides so on its turn, whatever rules are behind it. -/
theorem openOrClosePair_completes {rule : Rule} {delimiter : Text} (opens : rule.opening = delimiter)
    (closes : rule.closing = delimiter) (several : 1 < delimiter.length) {ctx : Context}
    {memo after : Memo}
    (allowed : (rule.allows .openingOrClosing).run' ctx memo = (.ok true, after))
    (notEscaped : ctx.isEscaped = false) (notNext : ¬ delimiter <+: ctx.after) (key : Text) :
    ∃ (inserted : Text) (offset : Nat), offset ≤ inserted.length ∧
      (openOrClosePair key rule).run' ctx memo = (.ok (.replace 0 0 inserted offset), after) ∧
      (∀ rest, (decideAmong key (rule :: rest)).run' ctx memo =
        (.ok ⟨.replace 0 0 inserted offset, some rule⟩, after)) ∧
      IsShortest (fun u => delimiter <:+ ctx.before ++ u) (inserted.take offset) ∧
      IsShortest (fun v => delimiter <+: v ++ ctx.after) (inserted.drop offset) := by
  subst opens
  have isNextNot : ctx.isAfter rule.opening false = .ok false := by
    have nonempty : rule.opening ≠ [] := List.length_pos_iff.mp (by omega)
    have notPrefix : rule.opening.isPrefixOf ctx.after = false := by
      rw [Bool.eq_false_iff, ne_eq, List.isPrefixOf_iff_prefix]
      exact notNext
    simp [Context.isAfter, nonempty, notPrefix]
  let missingBefore := rule.opening.drop (overlap ctx.before rule.opening)
  let missingAfter := rule.opening.take (rule.opening.length - overlap rule.opening ctx.after)
  have completed : (openOrClosePair key rule).run' ctx memo =
      (.ok (.replace 0 0 (missingBefore ++ missingAfter) missingBefore.length), after) := by
    unfold openOrClosePair
    rw [Query.run'_bind_of_ok allowed]
    simp only [Bool.not_true, Bool.false_eq_true, if_false, Query.run'_read_bind, notEscaped]
    rw [Query.run'_bind_of_ok (Query.run'_ofExcept_ok isNextNot after), if_neg Bool.false_ne_true,
      if_pos several]
    show (Except.ok (Edit.insertPair (missingBefore ++ missingAfter) missingAfter.length), after) = _
    simp [Edit.insertPair]
  refine ⟨missingBefore ++ missingAfter, missingBefore.length, by simp, completed, fun rest => ?_, ?_, ?_⟩
  · have isEither : rule.turn key ctx = .either :=
      Rule.turn_eq_either_iff.mpr (beq_iff_eq.mpr closes.symm)
    rw [run'_decideAmong_cons, isEither]
    exact Query.run'_bind_of_ok completed
  · rw [List.take_left]
    exact isShortest_drop_overlap ctx.before rule.opening
  · rw [List.drop_left]
    exact isShortest_take_overlap rule.opening ctx.after

/-- A code fence of which two units stand before the cursor and one after it. -/
theorem openOrClosePair_completes_fence :
    let fence : Text := "```"
    let rule : Rule := .ofClosing fence fence 0
    let ctx : Context := ⟨"a``", "`b", 0, [], .insert, [], .silent⟩
    (rule.allows .openingOrClosing).run' ctx {} = (.ok true, {}) ∧ ctx.isEscaped = false ∧
      ¬ fence <+: ctx.after ∧
      (openOrClosePair "`" rule).run' ctx {} = (.ok (.replace 0 0 "```" 1), {}) ∧
      IsShortest (fun u => fence <:+ ctx.before ++ u) "`" ∧
      IsShortest (fun v => fence <+: v ++ ctx.after) "``" := by
  intro fence rule ctx
  have allowed : (rule.allows .openingOrClosing).run' ctx {} = (.ok true, {}) := rfl
  have opens : rule.opening = fence := rfl
  have closes : rule.closing = fence := rfl
  have notEscaped : ctx.isEscaped = false := by decide
  have notNext : ¬ fence <+: ctx.after := by decide
  have run : (openOrClosePair "`" rule).run' ctx {} = (.ok (.replace 0 0 "```" 1), {}) := rfl
  obtain ⟨inserted, offset, -, completed, -, before, behind⟩ :=
    openOrClosePair_completes opens closes (by decide) allowed notEscaped notNext "`"
  obtain ⟨same, -⟩ := Prod.mk.inj (run.symm.trans completed)
  obtain ⟨-, -, isInserted, isOffset⟩ := Edit.replace.inj (Except.ok.inj same)
  obtain rfl := isInserted
  obtain rfl : offset = 1 := (Int.ofNat.inj isOffset).symm
  exact ⟨allowed, notEscaped, notNext, run, before, behind⟩

end Pairing
