/-
**Offsets and positions undo each other.**

* `Text.IsLineAround`: a stretch of a text between the newlines around an offset;
* `Text.exists_lineAround_append`: the line of a cut is that stretch;
* `Text.positionAt_eq`: the position of any offset, counted in the text before it;
* `Text.positionAt_offsetAt_inverse`: the offset of a position and the position of an offset, of any kind,
  and the search that finds it in any table.
-/

import Pairing.Proofs.Position.Clamped
import Pairing.Proofs.Position.Halving

namespace Pairing.Text

open LineTable

/-- A stretch of a text that holds an offset, from after a newline or the start of the text, up to a newline
or the end of the text, with no newline in it. -/
structure IsLineAround (t : Text) (offset : Int) (start stop : Nat) : Prop where
  start_le : start ≤ offset
  le_stop : offset ≤ stop
  stop_le : stop ≤ t.length
  opens : start = 0 ∨ t[start - 1]? = some newline
  closes : stop = t.length ∨ t[stop]? = some newline
  inLine : newline ∉ t.slice start stop

/-- The line of a cut is the stretch between the newlines around it. -/
theorem exists_lineAround_append (a b : Text) :
    ∃ start stop, (a ++ b).IsLineAround a.length start stop ∧
      a.lastLine ++ b.firstLine = (a ++ b).slice start stop := by
  obtain ⟨above, whole, aParts, -, aSize⟩ := exists_endsLine_append a
  obtain ⟨below, bParts, ends⟩ := exists_firstLine_append b
  have aLine := newline_notMem_lastLine a
  have bLine := newline_notMem_firstLine b
  generalize a.lastLine = left at aParts aSize aLine
  generalize b.firstLine = right at bParts bLine
  have parts : a ++ b = above ++ ((left ++ right) ++ below) := by
    rw [aParts, bParts]
    simp only [List.append_assoc]
  have size : (a ++ b).length = above.length + (left ++ right).length + below.length := by
    rw [parts, List.length_append, List.length_append, Nat.add_assoc]
  have line : (a ++ b).slice above.length (above.length + (left ++ right).length : Nat) = left ++ right := by
    rw [slice_of_le _ (by omega) (by omega), parts, List.take_length_add_append, List.drop_left, List.take_left]
  refine ⟨above.length, above.length + (left ++ right).length, ⟨?_, ?_, by omega, ?_, ?_, ?_⟩, line.symm⟩
  · omega
  · rw [List.length_append]
    omega
  · obtain rfl | ⟨rest, rfl⟩ := whole
    · exact Or.inl rfl
    · rw [parts, List.append_assoc, List.length_append, List.length_singleton, Nat.add_sub_cancel,
        List.getElem?_append_right (Nat.le_refl _), Nat.sub_self]
      exact Or.inr rfl
  · obtain rfl | next := ends
    · exact Or.inl (by rw [size, List.length_nil, Nat.add_zero])
    · rw [parts, ← List.append_assoc, ← List.length_append,
        List.getElem?_append_right (Nat.le_refl _), Nat.sub_self, ← List.head?_eq_getElem?]
      exact Or.inr next
  · rw [line, List.mem_append, not_or]
    exact ⟨aLine, bLine⟩

/-- The position of an offset: as many lines down as there are newlines before it, and as many columns in as
there are units after the last of them. An offset beside the text is moved to the nearer end. -/
theorem positionAt_eq (t : Text) (offset : Int) :
    let inside := (min (max 0 offset) t.length).toNat
    t.positionAt offset = ⟨(t.take inside).count newline, (lastLine (t.take inside)).length⟩ := by
  intro inside
  have nearest : t.positionAt offset = t.positionAt inside := by
    have target : min (max 0 offset) (ofText t).length = min (max 0 (inside : Int)) (ofText t).length := by
      show min (max 0 offset) (t.length : Int) = min (max 0 (inside : Int)) t.length
      omega
    rw [positionAt, positionAt, LineTable.positionAt, LineTable.positionAt, target]
  have length : (t.take inside).length = inside := by
    rw [List.length_take]
    omega
  have cut := positionAt_append (t.take inside) (t.drop inside)
  rw [List.take_append_drop, length] at cut
  exact nearest.trans cut

/-- **Offsets and positions are converse.** The position of an offset has that offset, if it is moved into the text,
and the offset of a position has that position, if it is moved to the nearest place in the text. A position in the
text is not moved, and its line is what stands between the newlines around its offset. The search ends for any table,
and finds the last start that is not beyond the offset where the starts ascend. -/
theorem positionAt_offsetAt_inverse (t : Text) (offset : Int) (position : Position) (table : LineTable) :
    let inside := (min (max 0 offset) t.length).toNat
    let target := min (max 0 offset) table.length
    let found := table.positionAt offset
    (t.positionAt offset = ⟨(t.take inside).count newline, (lastLine (t.take inside)).length⟩ ∧
        t.offsetAt (t.positionAt offset) = inside) ∧
      (t.positionAt (t.offsetAt position) = t.clamp position ∧
        (t.Holds position → t.clamp position = position ∧ ∃ start stop,
          t.IsLineAround (t.offsetAt position) start stop ∧ t.lineAt position = t.slice start stop)) ∧
      (∀ rounds, table.starts.length ≤ 2 ^ rounds →
        (table.narrow target)^[rounds] (0, table.starts.length - 1) =
          (found.line.toNat, found.line.toNat)) ∧
      (table.IsAscending → 0 ≤ table.length →
        IsGreatest {line : Nat | ∃ start, table.starts[line]? = some start ∧ start ≤ target}
          found.line.toNat ∧ found.column = target - table.start found.line) := by
  intro inside target found
  have position_eq := positionAt_eq t offset
  have lineFound : found.line.toNat = table.lineBefore target 0 (table.starts.length - 1) :=
    Int.toNat_natCast _
  refine ⟨⟨position_eq, ?_⟩, ⟨positionAt_offsetAt t position, fun holds => ?_⟩, fun rounds few => ?_,
    fun ascending nonneg => ⟨?_, rfl⟩⟩
  · -- The offset and the one inside the text have one position.
    have again := positionAt_eq t inside
    have same : (min (max 0 (inside : Int)) t.length).toNat = inside := by omega
    rw [same] at again
    have inText : inside ≤ t.length := by omega
    rw [position_eq.trans again.symm, offsetAt_positionAt inText]
  · refine ⟨clamp_of_holds holds, ?_⟩
    obtain ⟨a, b, rfl, rfl⟩ := exists_cut_of_holds holds
    have cut : a.length ≤ (a ++ b).length := by
      rw [List.length_append]
      omega
    rw [offsetAt_positionAt cut, lineAt_append]
    exact exists_lineAround_append a b
  · have narrow : table.starts.length - 1 - 0 < 2 ^ rounds := by
      have := Nat.two_pow_pos rounds
      omega
    rw [iterate_narrow (Nat.zero_le _) narrow, lineFound]
  · rw [lineFound]
    exact ascending.isGreatest_lineBefore (by omega)

/-- The end of a second line, and a table of three lines of which the last starts beyond the offset. -/
theorem positionAt_offsetAt_inverse_secondLine :
    let t : Text := "ab\nc"
    let table : LineTable := ⟨[0, 3, 7], 9⟩
    t.Holds ⟨1, 1⟩ ∧ t.positionAt (t.offsetAt ⟨1, 1⟩) = ⟨1, 1⟩ ∧ t.offsetAt (t.positionAt 9) = 4 ∧
      (∃ start stop, t.IsLineAround (t.offsetAt ⟨1, 1⟩) start stop ∧ t.lineAt ⟨1, 1⟩ = t.slice start stop) ∧
      IsGreatest {line : Nat | ∃ start, table.starts[line]? = some start ∧ start ≤ 5}
        (table.positionAt 5).line.toNat := by
  intro t table
  have holds : t.Holds ⟨1, 1⟩ := ⟨by decide, by decide, by decide, by decide⟩
  have ascending : table.IsAscending := ⟨rfl, by decide⟩
  obtain ⟨⟨-, inText⟩, -⟩ := positionAt_offsetAt_inverse t 9 ⟨1, 1⟩ table
  obtain ⟨-, ⟨nearest, onLine⟩, -, last⟩ := positionAt_offsetAt_inverse t 5 ⟨1, 1⟩ table
  obtain ⟨inside, line⟩ := onLine holds
  exact ⟨holds, nearest.trans inside, inText, line, (last ascending (by decide)).1⟩

end Pairing.Text
