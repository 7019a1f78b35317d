/-
**Laying a pair out on lines.**

The enter key between two delimiters opens a line between them. The line of the cursor becomes three: what ends
with the opening, an indented line with the cursor, and what starts with the closing, indented as the line was.

* `Text.IsIndentOf`, `Context.baseIndent_isIndentOf`: the indentation of a line, also where it goes on after the
  cursor;
* `Surrounding.gap`, `Context.exists_parts_of_surroundedBy`: what is on the line of the cursor beside a space on
  each side;
* `Buffer.exists_cut_of_context`: these parts in the whole text;
* `Text.lines_layOut`, `Text.positionAt_layOut`: the lines of a text with three lines put into it.

`RuleIndex.enter_laysOut` puts this together.
-/

import Pairing.Proofs.Decision.Around
import Pairing.Proofs.Position.Lines

namespace Pairing

open Text Buffer

/-! ### Indentation -/

/-- The longest text of spaces and tabs that a line starts with. -/
structure Text.IsIndentOf (base line : Text) : Prop where
  isPrefix : base <+: line
  isBlank : ∀ unit ∈ base, unit = space ∨ unit = tab
  isLongest : ∀ other, other <+: line → (∀ unit ∈ other, unit = space ∨ unit = tab) → other <+: base

theorem Text.IsIndentOf.newline_notMem {base line : Text} (isIndent : base.IsIndentOf line) : newline ∉ base := by
  intro inside
  rcases isIndent.isBlank newline inside with same | same <;> exact absurd same (by decide)

theorem Context.baseIndent_isIndentOf (ctx : Context) : ctx.baseIndent.IsIndentOf ctx.lineText := by
  have blank (unit : UInt16) : (unit == space || unit == tab) = true ↔ unit = space ∨ unit = tab := by
    rw [Bool.or_eq_true, beq_iff_eq, beq_iff_eq]
  refine ⟨List.takeWhile_prefix _, fun unit inside => (blank unit).mp ?_, fun other starts isBlank => ?_⟩
  · exact List.mem_takeWhile_imp (p := fun unit => unit == space || unit == tab) inside
  · obtain ⟨rest, parts⟩ := starts
    rw [baseIndent, ← parts, List.takeWhile_append_of_pos fun unit inside => (blank unit).mpr (isBlank unit inside)]
    exact List.prefix_append _ _

/-! ### The parts of the line -/

/-- What stands between the cursor and each delimiter. -/
def Surrounding.gap (found : Surrounding) : Text :=
  if found.padded then [space] else []

/-- Beside the gaps, the line before the cursor ends with the opening, and the line after it starts with the
closing. -/
theorem Context.exists_parts_of_surroundedBy {ctx : Context} {found : Surrounding} {acceptsPadding : Bool}
    (stands : ctx.surroundedBy found.rule acceptsPadding = some found.padded) :
    ∃ x y, ctx.before = x ++ found.gap ∧ ctx.after = found.gap ++ y ∧ found.rule.opening <:+ x ∧
      found.rule.closing <+: y := by
  unfold Surrounding.gap
  cases padded : found.padded with
  | true =>
    rw [padded] at stands
    obtain ⟨-, x, y, before, after, opened, isNext⟩ := surroundedBy_eq_true_iff.mp stands
    exact ⟨x, y, before, after, opened, isNext⟩
  | false =>
    rw [padded] at stands
    obtain ⟨opened, isNext⟩ := delimiters_of_surroundedBy stands
    exact ⟨ctx.before, ctx.after, (List.append_nil _).symm, rfl, opened, isNext⟩

/-- A cursor on a line cuts the text there: what is next to the cursor, of what the context has before it and
after it, is next to the cut. -/
theorem Buffer.exists_cut_of_context {buffer : Buffer} {situation : Situation} {oracle : Oracle}
    (nonneg : 0 ≤ buffer.cursor.line) (inside : buffer.cursor.line < buffer.text.lines.length) {x left right y : Text}
    (before : (buffer.context situation oracle).before = x ++ left)
    (after : (buffer.context situation oracle).after = right ++ y) :
    ∃ a b, buffer.clamped = ofOffset ((a ++ left) ++ (right ++ b)) (a ++ left).length ∧
      buffer.cursor.line = (a.count newline : Nat) ∧ a.lastLine = x ∧ b.firstLine = y ∧
      newline ∉ left ∧ newline ∉ right := by
  obtain ⟨front, rest, -, -, isCut⟩ := buffer.exists_clamped_eq
  have line : buffer.cursor.line = (front.count newline : Nat) := by
    have same := congrArg Context.line (context_clamped nonneg inside situation oracle)
    rw [isCut, context_ofOffset] at same
    exact same.symm
  rw [← context_clamped nonneg inside, isCut, context_ofOffset] at before after
  dsimp only at before after
  -- Neither side of the cut has a newline next to it in the line.
  have frontInLine := newline_notMem_lastLine front
  have restInLine := newline_notMem_firstLine rest
  rw [before, List.mem_append, not_or] at frontInLine
  rw [after, List.mem_append, not_or] at restInLine
  obtain ⟨above, whole, parts, count, -⟩ := exists_endsLine_append front
  obtain ⟨below, continued⟩ := firstLine_prefix rest
  rw [before, ← List.append_assoc] at parts
  rw [after, List.append_assoc] at continued
  refine ⟨above ++ x, y ++ below, ?_, ?_, lastLine_append whole frontInLine.1, ?_, frontInLine.2, restInLine.1⟩
  · rw [isCut, ← parts, continued]
  · rw [line, count, count_append_of_notMem frontInLine.1]
  · have first := firstLine_append (y ++ below) restInLine.1
    rw [continued, after] at first
    exact (List.append_cancel_left first).symm

/-! ### Three lines put in -/

namespace Text

variable {inner base : Text}

/-- The lines of a text with two line ends put in, and what was next to the cursor taken away. -/
theorem lines_layOut (a b : Text) (innerInLine : newline ∉ inner) (baseInLine : newline ∉ base) :
    (a ++ ([newline] ++ inner ++ [newline] ++ base) ++ b).lines =
      a.lines.dropLast ++ [a.lastLine, inner, base ++ b.firstLine] ++ b.lines.tail := by
  have parts : a ++ ([newline] ++ inner ++ [newline] ++ base) ++ b =
      a ++ newline :: (inner ++ newline :: (base ++ b)) := by
    simp
  rw [parts, lines_append_newline, lines_append_newline, lines_eq_singleton innerInLine,
    lines_append_of_notMem baseInLine, lines_eq_concat a]
  simp

/-- The place after the second of these lines. -/
theorem positionAt_layOut (a b : Text) (innerInLine : newline ∉ inner) :
    (a ++ ([newline] ++ inner ++ [newline] ++ base) ++ b).positionAt (a.length + (1 + inner.length)) =
      ⟨(a.count newline : Nat) + 1, inner.length⟩ := by
  have parts : a ++ ([newline] ++ inner ++ [newline] ++ base) ++ b =
      (a ++ [newline] ++ inner) ++ ([newline] ++ base ++ b) := by
    simp
  have offset : (a.length : Int) + (1 + inner.length) = (a ++ [newline] ++ inner).length := by
    simp only [List.length_append, List.length_singleton]
    omega
  rw [parts, offset, positionAt_append, lastLine_append (Or.inr ⟨a, rfl⟩) innerInLine,
    count_append_of_notMem innerInLine, List.count_append]
  rfl

end Text

/-! ### The enter key -/

namespace RuleIndex

/-- The enter key takes away what is between the cursor and each delimiter. -/
theorem enterEdit_eq (ctx : Context) (found : Surrounding) :
    enterEdit ctx found = .replace found.gap.length found.gap.length
      ([newline] ++ (ctx.baseIndent ++ ctx.indentUnit) ++ [newline] ++ ctx.baseIndent)
      (1 + (ctx.baseIndent ++ ctx.indentUnit).length) := by
  unfold enterEdit Surrounding.gap
  cases found.padded <;> rfl

/-- **Enter between two delimiters lays out three lines.** Whatever the index and the host are, wherever the enter
key is not let through on a line of the text, a rule was found around the cursor. Take away the space on each side
of the cursor if the rule is padded. Then the line before the cursor ends with the opening of the rule, and the line
after it starts with the closing. In the new text they are lines of their own, with an indented line between them,
and the second one is indented as the whole line was. All other lines are as they were, and the cursor is at the
end of the line between them. -/
theorem enter_laysOut (index : RuleIndex) (buffer : Buffer) (situation : Situation) (oracle : Oracle)
    (nonneg : 0 ≤ buffer.cursor.line) (inside : buffer.cursor.line < buffer.text.lines.length)
    (unitInLine : newline ∉ (buffer.context situation oracle).indentUnit)
    (lays : (index.decide .enter enterKey (buffer.context situation oracle)).edit.kind = .replace) :
    let ctx := buffer.context situation oracle
    let verdict := index.decide .enter enterKey ctx
    let laid := buffer.apply verdict.edit
    let line := buffer.cursor.line.toNat
    ∃ found x y base, (surrounding (some .enter) index.all).eval ctx = .ok (some found) ∧
      found.rule ∈ index.all ∧ verdict.record.rule = some found.rule.name ∧
      ctx.before = x ++ found.gap ∧ ctx.after = found.gap ++ y ∧
      found.rule.opening <:+ x ∧ found.rule.closing <+: y ∧ base.IsIndentOf buffer.line ∧
      laid.text.lines = buffer.text.lines.take line ++ [x, base ++ ctx.indentUnit, base ++ y] ++
        buffer.text.lines.drop (line + 1) ∧
      laid.cursor = ⟨buffer.cursor.line + 1, base.length + ctx.indentUnit.length⟩ := by
  intro ctx verdict laid line
  have acts : (Verdict.ofQuery enterKey .enter (decideBetween index enterKey .enter enterEdit)
      ctx).edit.kind ≠ .passThrough := fun passes => EditKind.noConfusion (passes.symm.trans lays)
  obtain ⟨found, around, member, stands⟩ := Verdict.exists_found_of_acts acts
  have decides : verdict.edit = enterEdit ctx found ∧ verdict.record.rule = some found.rule.name :=
    Verdict.ofQuery_of_found around
  obtain ⟨edit, byRule⟩ := decides
  obtain ⟨x, y, before, after, opened, isNext⟩ := Context.exists_parts_of_surroundedBy stands
  obtain ⟨a, b, isCut, isLine, lastLine, firstLine, leftInLine, rightInLine⟩ :=
    exists_cut_of_context nonneg inside before after
  have isIndent : ctx.baseIndent.IsIndentOf buffer.line := by
    have indents := ctx.baseIndent_isIndentOf
    rwa [show ctx.lineText = buffer.line from Context.lineText_ofSnapshot _ oracle] at indents
  have innerInLine : newline ∉ ctx.baseIndent ++ ctx.indentUnit := by
    rw [List.mem_append, not_or]
    exact ⟨isIndent.newline_notMem, unitInLine⟩
  have text : buffer.text = (a ++ found.gap) ++ (found.gap ++ b) := congrArg Buffer.text isCut
  have isLaid : laid = ofOffset
      (a ++ ([newline] ++ (ctx.baseIndent ++ ctx.indentUnit) ++ [newline] ++ ctx.baseIndent) ++ b)
      (a.length + (1 + (ctx.baseIndent ++ ctx.indentUnit).length)) := by
    show buffer.apply verdict.edit = _
    rw [edit, enterEdit_eq, ← apply_clamped, isCut]
    exact apply_replace (text_ofOffset _ _) (offset_ofOffset_append _ _) _ _
  have place : line = (a ++ found.gap).count newline := by
    rw [count_append_of_notMem leftInLine]
    show buffer.cursor.line.toNat = _
    rw [isLine, Int.toNat_natCast]
  refine ⟨found, x, y, ctx.baseIndent, around, member, byRule, before, after, opened, isNext, isIndent, ?_, ?_⟩
  · rw [isLaid, text_ofOffset, lines_layOut a b innerInLine isIndent.newline_notMem, text, place,
      take_lines_append, drop_lines_append, dropLast_lines_append a leftInLine, tail_lines_append rightInLine,
      lastLine, firstLine]
  · rw [isLaid, isLine]
    refine (positionAt_layOut a b innerInLine).trans ?_
    rw [List.length_append]
    rfl

/-- A padded call in the middle of a text: what follows it on its line goes to a line of its own with its end. -/
theorem enter_laysOut_call :
    let index := ofClosings [("(", ")")]
    let situation : Situation := ⟨"text", .insert, none⟩
    let buffer : Buffer := ⟨"a\n  f(  );\nb", ⟨1, 5⟩⟩
    let verdict := index.decide .enter enterKey (buffer.context situation .silent)
    let laid := buffer.apply verdict.edit
    verdict.edit.kind = .replace ∧ laid = ⟨"a\n  f(\n  \t\n  );\nb", ⟨2, 3⟩⟩ ∧
      ∃ base, base.IsIndentOf "  f(  );" ∧ laid.text.lines =
        [Text.ofString "a", Text.ofString "  f(", base ++ [tab], base ++ Text.ofString ");",
          Text.ofString "b"] := by
  intro index situation buffer verdict laid
  have lays : verdict.edit.kind = .replace := by decide +kernel
  obtain ⟨found, x, y, base, around, -, -, before, after, -, -, isIndent, lines, -⟩ :=
    enter_laysOut index buffer situation .silent (by decide) (by decide) (by decide) lays
  have isAround : (surrounding (some .enter) index.all).eval (buffer.context situation .silent) =
      .ok (some ⟨.ofClosing "(" ")" 0, true⟩) := rfl
  obtain rfl := Option.some.inj (Except.ok.inj (isAround.symm.trans around))
  obtain ⟨rfl, -⟩ := List.append_inj' (show Text.ofString "  f(" ++ [space] = x ++ [space] from before) rfl
  obtain rfl := List.append_cancel_left (show [space] ++ Text.ofString ");" = [space] ++ y from after)
  exact ⟨lays, by decide +kernel, base, isIndent, lines⟩

end RuleIndex

end Pairing
