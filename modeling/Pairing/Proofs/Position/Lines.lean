/-
**The lines of texts put together.**

Where two texts meet, the last line of the first one and the first line of the second one become one line, and
all other lines stay as they are.

* `Text.lines_append`: the lines of two texts put together;
* `Text.lines_eq_singleton`: a text without newlines is one line;
* `Text.take_lines_append`, `Text.drop_lines_append`: the lines above and below the one where two texts meet;
* `Text.dropLast_lines_append`, `Text.tail_lines_append`: what is added within a line leaves the others.
-/

import Pairing.Proofs.Position.Cut

namespace Pairing.Text

/-- What is put before a text on its first line leaves the other lines. -/
theorem lines_append_of_notMem {left : Text} (inLine : newline ∉ left) (t : Text) :
    (left ++ t).lines = (left ++ t.firstLine) :: t.lines.tail := by
  induction left with
  | nil =>
    rw [List.nil_append, List.nil_append]
    exact (List.head?_eq_some_iff.mp (lines_head? t)).elim fun others parts => by rw [parts, List.tail_cons]
  | cons unit rest ih =>
    rw [List.mem_cons, not_or] at inLine
    obtain ⟨different, restInLine⟩ := inLine
    rw [List.cons_append, lines_cons_of_ne (Ne.symm different) (ih restInLine)]
    rfl

/-- A text without newlines is one line. -/
theorem lines_eq_singleton {left : Text} (inLine : newline ∉ left) : left.lines = [left] := by
  have whole := lines_append_of_notMem inLine []
  rw [List.append_nil] at whole
  exact whole.trans (congrArg (· :: []) (List.append_nil left))

/-- The lines of two texts put together. -/
theorem lines_append (a b : Text) :
    (a ++ b).lines = a.lines.dropLast ++ (a.lastLine ++ b.firstLine) :: b.lines.tail := by
  obtain ⟨above, whole, parts, -, -⟩ := exists_endsLine_append a
  have inLine := newline_notMem_lastLine a
  generalize a.lastLine = left at parts inLine
  rcases whole with rfl | ⟨rest, rfl⟩
  · rw [List.nil_append] at parts
    rw [parts, lines_eq_singleton inLine, lines_append_of_notMem inLine]
    rfl
  · rw [List.append_assoc, List.singleton_append] at parts
    rw [parts, List.append_assoc, List.cons_append, lines_append_newline, lines_append_newline,
      lines_eq_singleton inLine, lines_append_of_notMem inLine, List.dropLast_concat]

theorem length_dropLast_lines (a : Text) : a.lines.dropLast.length = a.count newline := by
  rw [List.length_dropLast, length_lines, Nat.add_sub_cancel]

/-- The lines above the one where two texts meet. -/
theorem take_lines_append (a b : Text) : (a ++ b).lines.take (a.count newline) = a.lines.dropLast := by
  rw [lines_append, ← length_dropLast_lines, List.take_left]

/-- The lines below the one where two texts meet. -/
theorem drop_lines_append (a b : Text) : (a ++ b).lines.drop (a.count newline + 1) = b.lines.tail := by
  rw [lines_append, ← length_dropLast_lines, ← List.drop_drop, List.drop_left, List.drop_one, List.tail_cons]

/-- What goes on a text on its last line leaves the other lines. -/
theorem dropLast_lines_append (a : Text) {left : Text} (inLine : newline ∉ left) :
    (a ++ left).lines.dropLast = a.lines.dropLast := by
  rw [lines_append, lines_eq_singleton inLine, List.tail_cons, List.dropLast_concat]

/-- What is put before a text on its first line leaves the other lines. -/
theorem tail_lines_append {left : Text} (inLine : newline ∉ left) (b : Text) :
    (left ++ b).lines.tail = b.lines.tail := by
  rw [lines_append_of_notMem inLine, List.tail_cons]

/-- A text ends with its last line. -/
theorem lines_eq_concat (a : Text) : a.lines = a.lines.dropLast ++ [a.lastLine] := by
  have whole := lines_append a []
  rw [List.append_nil] at whole
  exact whole.trans (congrArg (fun last => a.lines.dropLast ++ [last]) (List.append_nil _))

end Pairing.Text
