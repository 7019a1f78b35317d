/-
**The nearest position in a text.**

A host may name a position beside the text. Its offset is that of the nearest position in the text: on the
nearest line, and not beyond the ends of that line.

* `Text.clamp`: the nearest position in a text;
* `Text.clamp_of_holds`: a position in the text is the nearest one to itself;
* `Text.positionAt_offsetAt`: the position of the offset of any position is the nearest one.
-/

import Pairing.Proofs.Position.Cut

namespace Pairing.Text

open LineTable

/-- The nearest position in a text. -/
def clamp (t : Text) (position : Position) : Position :=
  let line := min (max 0 position.line) ((t.lines.length : Int) - 1)
  ⟨line, min (max 0 position.column) (t.lineAt ⟨line, 0⟩).length⟩

/-- A position in the text is the nearest one to itself. -/
theorem clamp_of_holds {t : Text} {position : Position} (holds : t.Holds position) :
    t.clamp position = position := by
  obtain ⟨lineNonneg, lineInside, columnNonneg, columnInside⟩ := holds
  have sameLine : min (max 0 position.line) ((t.lines.length : Int) - 1) = position.line := by omega
  have sameColumn : min (max 0 position.column) ((t.lineAt position).length : Int) = position.column := by
    omega
  have onLine : t.lineAt ⟨position.line, 0⟩ = t.lineAt position := rfl
  rw [clamp, sameLine, onLine, sameColumn]

/-- The position of the offset of any position is the nearest one in the text. -/
theorem positionAt_offsetAt (t : Text) (position : Position) :
    t.positionAt (t.offsetAt position) = t.clamp position := by
  obtain ⟨above, below, whole, nearest, parts, offset⟩ := exists_line t position
  have inLine : newline ∉ below.firstLine.take position.column.toNat := fun inside =>
    newline_notMem_firstLine below (List.mem_of_mem_take inside)
  obtain ⟨rest, continued⟩ := firstLine_prefix below
  -- The offset cuts the line of the position at its column.
  have cut : t = (above ++ below.firstLine.take position.column.toNat) ++
      (below.firstLine.drop position.column.toNat ++ rest) := by
    rw [List.append_assoc, ← List.append_assoc (List.take _ _), List.take_append_drop, continued, parts]
  have atCut : t.offsetAt position = (above ++ below.firstLine.take position.column.toNat).length := by
    rw [offset, List.length_append, List.length_take]
    omega
  have line : min (max 0 position.line) ((t.lines.length : Int) - 1) = (above.count newline : Nat) := by
    rw [← nearest, nearestLine, length_starts_ofText, length_lines]
  have onLine : t.lineAt ⟨(above.count newline : Nat), 0⟩ = below.firstLine := by
    rw [parts, lineAt_of_endsLine whole]
  rw [atCut, clamp, line, onLine]
  conv_lhs => rw [cut]
  rw [positionAt_append, count_append_of_notMem inLine, lastLine_append whole inLine, List.length_take]
  congr 1
  omega

end Pairing.Text
