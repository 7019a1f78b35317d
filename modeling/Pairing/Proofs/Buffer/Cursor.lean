/-
**Buffers at their cursors.**

The cursor of a buffer cuts its text, and the context of a keystroke holds what stands next to the cut on
its line. An edit that takes away no more than that is carried out as it is: nothing stops at an end of
the text.

* `Buffer.context`: the context of a keystroke in a buffer;
* `Buffer.exists_cut`: the cut at a cursor of any kind, and what of it the context holds;
* `Buffer.context_ofOffset`: the context where the cursor stands at an offset of the text;
* `Buffer.context_between`: two texts on both sides of the cursor;
* `Buffer.clamped`: the buffer with its cursor moved into the text. It takes every edit as the buffer does
  (`Buffer.apply_clamped`), and where the line of the cursor is there, its context is the same
  (`Buffer.context_clamped`);
* `Buffer.holds_of_context`: a cursor with something on both sides of it is in the text;
* `Buffer.apply_replace`, `Buffer.apply_insert`, `Buffer.apply_move`, `Buffer.apply_passThrough`: edits at
  a cut.
-/

import Pairing.Context
import Pairing.Edit
import Pairing.Proofs.Position.Clamped

namespace Pairing

/-- What a host hands over for a keystroke beside the buffer. -/
structure Situation where
  /-- The filetype of the buffer. -/
  filetype : Text
  /-- The mode of the editor. -/
  mode : Mode
  /-- The indentation of a line opened between a pair. -/
  indentUnit : Option Text

namespace Buffer

open Text

/-- The context of a keystroke in a buffer. -/
def context (buffer : Buffer) (situation : Situation) (oracle : Oracle) : Context :=
  .ofSnapshot ⟨buffer.line, buffer.cursor, situation.filetype, situation.mode, situation.indentUnit⟩
    oracle

/-! ### The cut at the cursor -/

/-- A cursor of any kind cuts the text at its offset, and the context holds what stands next to the cut
on its line. -/
theorem exists_cut (buffer : Buffer) (situation : Situation) (oracle : Oracle) :
    ∃ a b, buffer.text = a ++ b ∧ buffer.offset = a.length ∧
      (buffer.context situation oracle).before <:+ a ∧
      (buffer.context situation oracle).after <+: b :=
  Text.exists_cut buffer.text buffer.cursor

@[simp]
theorem text_ofOffset (t : Text) (offset : Int) : (ofOffset t offset).text = t := rfl

theorem offset_ofOffset {t : Text} {offset : Nat} (inside : offset ≤ t.length) :
    (ofOffset t offset).offset = offset :=
  offsetAt_positionAt inside

theorem offset_ofOffset_append (a b : Text) : (ofOffset (a ++ b) a.length).offset = a.length :=
  offset_ofOffset (by simp)

/-- The context of a cursor at an offset: the last line before it and the first line after it. -/
theorem context_ofOffset (a b : Text) (situation : Situation) (oracle : Oracle) :
    (ofOffset (a ++ b) a.length).context situation oracle =
      { before := a.lastLine
        after := b.firstLine
        line := (a.count newline : Nat)
        filetype := situation.filetype
        mode := situation.mode
        indentUnit := situation.indentUnit.getD defaultIndentUnit
        oracle := oracle } := by
  have position := positionAt_append a b
  have lineText := lineAt_append a b
  simp only [context, Context.ofSnapshot, ofOffset, line, lineText]
  rw [position]
  simp

/-- Between two texts that lie on one line, the context has both of them next to the cursor. -/
theorem context_between {opening closing front : Text} (openingInLine : newline ∉ opening)
    (closingInLine : newline ∉ closing) (opened : opening <:+ front) (rest : Text) (situation : Situation)
    (oracle : Oracle) :
    let ctx := (ofOffset (front ++ (closing ++ rest)) front.length).context situation oracle
    opening <:+ ctx.before ∧ closing <+: ctx.after := by
  obtain ⟨start, rfl⟩ := opened
  rw [context_ofOffset]
  dsimp only
  rw [lastLine_append_of_notMem start openingInLine, firstLine_append rest closingInLine]
  exact ⟨List.suffix_append _ _, List.prefix_append _ _⟩

/-! ### The nearest cursor -/

/-- A buffer with its cursor at the nearest position in the text. -/
def clamped (buffer : Buffer) : Buffer :=
  ⟨buffer.text, buffer.text.clamp buffer.cursor⟩

theorem clamped_of_holds {buffer : Buffer} (holds : buffer.text.Holds buffer.cursor) :
    buffer.clamped = buffer := by
  rw [clamped, clamp_of_holds holds]

/-- The nearest cursor is where the cut is. -/
theorem exists_clamped_eq (buffer : Buffer) :
    ∃ a b, buffer.text = a ++ b ∧ buffer.offset = a.length ∧ buffer.clamped = ofOffset (a ++ b) a.length := by
  obtain ⟨a, b, text, offset, -, -⟩ := Text.exists_cut buffer.text buffer.cursor
  refine ⟨a, b, text, offset, ?_⟩
  rw [clamped, ← positionAt_offsetAt, offset, ← text]
  rfl

/-- An edit does the same at the nearest cursor. -/
theorem apply_clamped (buffer : Buffer) (edit : Edit) : buffer.clamped.apply edit = buffer.apply edit := by
  have sameText : buffer.clamped.text = buffer.text := rfl
  have sameOffset : buffer.clamped.offset = buffer.offset := by
    obtain ⟨a, b, -, offset, isCut⟩ := buffer.exists_clamped_eq
    rw [isCut, offset, offset_ofOffset_append]
  simp only [apply, sameText, sameOffset]

/-- The context is the same at the nearest cursor, if the line of the cursor is there. -/
theorem context_clamped {buffer : Buffer} (nonneg : 0 ≤ buffer.cursor.line)
    (inside : buffer.cursor.line < buffer.text.lines.length) (situation : Situation) (oracle : Oracle) :
    buffer.clamped.context situation oracle = buffer.context situation oracle := by
  have sameLine : (buffer.text.clamp buffer.cursor).line = buffer.cursor.line := by
    simp only [clamp]
    omega
  have sameText : buffer.clamped.line = buffer.line := by
    rw [line, line, lineAt, lineAt]
    simp only [clamped, sameLine]
  have sameColumn : (buffer.text.clamp buffer.cursor).column =
      min (max 0 buffer.cursor.column) buffer.line.length := by
    rw [← sameText]
    rfl
  have column : ((buffer.text.clamp buffer.cursor).column).toNat =
      min buffer.cursor.column.toNat buffer.line.length := by
    rw [sameColumn]
    omega
  rw [context, context, Context.ofSnapshot, Context.ofSnapshot, sameText]
  simp only [clamped, sameLine, column]
  rw [← List.take_eq_take_min, ← List.drop_eq_drop_min]

/-- A cursor with something on both sides of it is in the text. -/
theorem holds_of_context {buffer : Buffer} {situation : Situation} {oracle : Oracle}
    (before : (buffer.context situation oracle).before ≠ [])
    (after : (buffer.context situation oracle).after ≠ []) : buffer.text.Holds buffer.cursor := by
  have started : 0 < buffer.cursor.column.toNat := by
    by_contra none
    refine before ?_
    show buffer.line.take buffer.cursor.column.toNat = []
    rw [Nat.eq_zero_of_not_pos none, List.take_zero]
  have goesOn : buffer.cursor.column.toNat < buffer.line.length := by
    by_contra ended
    exact after (List.drop_eq_nil_of_le (not_lt.mp ended))
  have onLine : ¬ (buffer.cursor.line < 0 ∨ buffer.text.count newline < buffer.cursor.line) := by
    intro outside
    have empty : buffer.line = [] := lineAt_of_outside outside
    rw [empty] at goesOn
    exact Nat.not_lt_zero _ goesOn
  have lines := length_lines buffer.text
  have length : buffer.line.length = (buffer.text.lineAt buffer.cursor).length := rfl
  exact ⟨by omega, by omega, by omega, by omega⟩

/-! ### Edits at a cut -/

variable {buffer : Buffer} {a b : Text}

/-- What stands on both sides of the cursor is replaced. -/
theorem apply_replace {x y : Text} (text : buffer.text = (a ++ x) ++ (y ++ b))
    (offset : buffer.offset = (a ++ x).length) (inserted : Text) (cursorOffset : Int) :
    buffer.apply (.replace x.length y.length inserted cursorOffset) =
      ofOffset (a ++ inserted ++ b) (a.length + cursorOffset) := by
  have start : max 0 (buffer.offset - x.length) = (a.length : Int) := by
    rw [offset, List.length_append]
    omega
  have stop : min (buffer.text.length : Int) (buffer.offset + y.length) =
      ((a ++ x ++ y).length : Nat) := by
    rw [offset, text]
    simp only [List.length_append]
    omega
  have parts : buffer.text = (a ++ x ++ y) ++ b := by
    rw [text]
    simp
  simp only [apply, start, stop]
  rw [show (0 : Int) = (0 : Nat) from rfl, slice_of_le _ (Nat.zero_le _) (by simp [parts]),
    sliceFrom_of_le _ (by simp [parts]), List.drop_zero]
  congr 1
  rw [show buffer.text.drop (a ++ x ++ y).length = b by rw [parts, List.drop_left],
    show buffer.text.take a.length = a by simp [parts]]

/-- A text is put in at the cursor. -/
theorem apply_insert (a b inserted : Text) (cursorOffset : Int) :
    (ofOffset (a ++ b) a.length).apply (.replace 0 0 inserted cursorOffset) =
      ofOffset (a ++ inserted ++ b) (a.length + cursorOffset) := by
  show (ofOffset (a ++ b) a.length).apply
    (.replace ([] : Text).length ([] : Text).length inserted cursorOffset) = _
  exact apply_replace (by simp) (by simpa using offset_ofOffset_append a b) inserted cursorOffset

/-- The cursor moves inside the text. -/
theorem apply_move {distance : Int} (nonneg : 0 ≤ buffer.offset + distance)
    (inside : buffer.offset + distance ≤ buffer.text.length) :
    buffer.apply (.move distance) = ofOffset buffer.text (buffer.offset + distance) := by
  simp only [apply]
  rw [show min (max 0 (buffer.offset + distance)) (buffer.text.length : Int) =
    buffer.offset + distance by omega]

/-- A key that is let through is put in at the cursor, unless it has a name. -/
theorem apply_passThrough {key : Text} (text : buffer.text = a ++ b)
    (offset : buffer.offset = a.length) (notBackspace : key ≠ backspaceKey)
    (notEnter : key ≠ enterKey) :
    buffer.apply (.passThrough key) = ofOffset (a ++ key ++ b) (a.length + key.length) := by
  simp only [apply, applyKey, if_neg notBackspace, if_neg notEnter, offset]
  rw [show (0 : Int) = (0 : Nat) from rfl, slice_of_le _ (Nat.zero_le _) (by simp [text]),
    sliceFrom_of_le _ (by simp [text]), text]
  simp

/-- A unit is no key with a name, and is put in at the cursor where it is let through. -/
theorem apply_passThrough_unit (a b : Text) (unit : UInt16) :
    (ofOffset (a ++ b) a.length).apply (.passThrough [unit]) =
      ofOffset ((a ++ [unit]) ++ b) (a ++ [unit]).length := by
  have backspaceLength : backspaceKey.length = 9 := by decide
  have enterLength : enterKey.length = 5 := by decide
  have notBackspace : [unit] ≠ backspaceKey := fun same => by
    simpa [backspaceLength] using congrArg List.length same
  have notEnter : [unit] ≠ enterKey := fun same => by
    simpa [enterLength] using congrArg List.length same
  rw [apply_passThrough (text_ofOffset _ _) (offset_ofOffset_append a b) notBackspace notEnter]
  simp

end Buffer

end Pairing
