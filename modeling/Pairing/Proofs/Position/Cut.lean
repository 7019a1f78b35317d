/-
**Texts cut in two at an offset.**

An offset of a text cuts it into what stands before and what stands after. The cut falls into one line,
which the text before ends with and the text after continues, and the line table knows that line:

* `Text.lines_getElem?_append`: the line of the cut is the last line before it and the first line
  after it, put together;
* `LineTable.start?_append`, `LineTable.stop_append`: where that line starts and where it ends;
* `Text.positionAt_append`: the position of the cut, found by halving the table;
* `Text.offsetAt_positionAt`: an offset inside the text is the offset of its position;
* `Text.exists_cut`: a position of any kind, also beside the text, cuts the text at its offset, and
  what stands next to it on its line stands next to the cut;
* `Text.Holds`, `Text.exists_cut_of_holds`: a position in the text is that of its cut.
-/

import Mathlib.Data.List.DropRight
import Pairing.Position

namespace Pairing

namespace Text

/-- The end of a text, from after its last newline. -/
def lastLine (t : Text) : Text :=
  t.rtakeWhile (· != newline)

/-- The beginning of a text, up to its first newline. -/
def firstLine (t : Text) : Text :=
  t.takeWhile (· != newline)

/-- A text of whole lines: the next unit starts a line. -/
def EndsLine (t : Text) : Prop :=
  t = [] ∨ ∃ rest, t = rest ++ [newline]

/-! ### Lines -/

theorem lines_ne_nil (t : Text) : t.lines ≠ [] := by
  unfold lines
  induction t with
  | nil => simp [splitAtUnit]
  | cons unit rest ih =>
    simp only [splitAtUnit]
    split
    · simp
    · split <;> simp

theorem lines_cons_newline (t : Text) : lines (newline :: t) = [] :: t.lines := by
  simp [lines, splitAtUnit]

theorem lines_cons_of_ne {unit : UInt16} {t part : Text} {parts : List Text}
    (different : unit ≠ newline) (rest : t.lines = part :: parts) :
    lines (unit :: t) = (unit :: part) :: parts := by
  simp only [lines] at rest
  simp [lines, splitAtUnit, different, rest]

/-- A newline parts the lines before it from those after it. -/
theorem lines_append_newline (a b : Text) :
    lines (a ++ newline :: b) = a.lines ++ b.lines := by
  induction a with
  | nil => simp [lines, splitAtUnit]
  | cons unit rest ih =>
    by_cases same : unit = newline
    · subst same
      rw [List.cons_append, lines_cons_newline, lines_cons_newline, ih, List.cons_append]
    · obtain ⟨part, parts, found⟩ := List.exists_cons_of_ne_nil (lines_ne_nil rest)
      have restLines : lines (rest ++ newline :: b) = part :: (parts ++ b.lines) := by
        rw [ih, found, List.cons_append]
      rw [List.cons_append, lines_cons_of_ne same found, lines_cons_of_ne same restLines]
      rfl

theorem length_lines (t : Text) : t.lines.length = t.count newline + 1 := by
  induction t with
  | nil => rfl
  | cons unit rest ih =>
    by_cases same : unit = newline
    · subst same
      simp [lines_cons_newline, ih]
    · obtain ⟨part, parts, found⟩ := List.exists_cons_of_ne_nil (lines_ne_nil rest)
      rw [lines_cons_of_ne same found, List.count_cons_of_ne same, ← ih, found]
      rfl

/-- The first line of a text. -/
theorem lines_head? (t : Text) : t.lines.head? = some t.firstLine := by
  induction t with
  | nil => rfl
  | cons unit rest ih =>
    by_cases same : unit = newline
    · subst same
      simp [lines_cons_newline, firstLine]
    · obtain ⟨part, parts, found⟩ := List.exists_cons_of_ne_nil (lines_ne_nil rest)
      have part_eq : part = firstLine rest := by simpa [found] using ih
      simp [lines_cons_of_ne same found, firstLine, same, part_eq]

/-- The lines of a text, put together again, are the text. -/
theorem join_lines (t : Text) : join [newline] t.lines = t := by
  induction t with
  | nil => rfl
  | cons unit rest ih =>
    obtain ⟨part, parts, found⟩ := List.exists_cons_of_ne_nil (lines_ne_nil rest)
    by_cases same : unit = newline
    · subst same
      rw [found] at ih
      simp [lines_cons_newline, found, join, ih]
    · rw [lines_cons_of_ne same found]
      rw [found] at ih
      cases parts <;> simp_all [join]

/-! ### The line of a cut -/

theorem newline_notMem_lastLine (t : Text) : newline ∉ t.lastLine := fun inside => by
  simpa using List.mem_rtakeWhile_imp inside

theorem firstLine_append {left : Text} (t : Text) (inLine : newline ∉ left) :
    firstLine (left ++ t) = left ++ t.firstLine := by
  refine List.takeWhile_append_of_pos fun unit inside => ?_
  simpa using fun same : unit = newline => inLine (same ▸ inside)

theorem newline_notMem_firstLine (t : Text) : newline ∉ t.firstLine := fun inside => by
  simpa using List.mem_takeWhile_imp inside

theorem firstLine_prefix (t : Text) : t.firstLine <+: t :=
  List.takeWhile_prefix _

theorem count_append_of_notMem {above left : Text} (inLine : newline ∉ left) :
    (above ++ left).count newline = above.count newline := by
  rw [List.count_append, List.count_eq_zero_of_not_mem inLine, Nat.add_zero]

/-- A text is whole lines and the beginning of a line. -/
theorem exists_endsLine_append (t : Text) :
    ∃ above, EndsLine above ∧ t = above ++ t.lastLine ∧ t.count newline = above.count newline ∧
      t.length = above.length + t.lastLine.length := by
  have parts : t = t.rdropWhile (· != newline) ++ t.lastLine :=
    List.rdropWhile_append_rtakeWhile.symm
  have sameLine : t.count newline = (t.rdropWhile (· != newline)).count newline := by
    conv_lhs => rw [parts]
    exact count_append_of_notMem (newline_notMem_lastLine t)
  have size : t.length = (t.rdropWhile (· != newline)).length + t.lastLine.length := by
    rw [← List.length_append, ← parts]
  refine ⟨_, ?_, parts, sameLine, size⟩
  by_cases empty : t.rdropWhile (· != newline) = []
  · exact Or.inl empty
  · have last : (t.rdropWhile (· != newline)).getLast empty = newline := by
      simpa using List.rdropWhile_last_not (· != newline) t empty
    have parts := List.dropLast_append_getLast empty
    rw [last] at parts
    exact Or.inr ⟨_, parts.symm⟩

/-- The first line of a text goes up to a newline, if one is there. -/
theorem exists_firstLine_append (t : Text) :
    ∃ rest, t = t.firstLine ++ rest ∧ (rest = [] ∨ rest.head? = some newline) := by
  refine ⟨t.dropWhile (· != newline), (List.takeWhile_append_dropWhile).symm, ?_⟩
  cases parts : t.dropWhile (· != newline) with
  | nil => exact Or.inl rfl
  | cons unit rest =>
    have stops := List.head?_dropWhile_not (· != newline) t
    rw [parts] at stops
    exact Or.inr (congrArg some (by simpa using stops))

theorem lastLine_append {above left : Text} (whole : EndsLine above) (inLine : newline ∉ left) :
    lastLine (above ++ left) = left := by
  have plain : ∀ unit ∈ left.reverse, (unit != newline) = true := fun unit inside => by
    simpa using fun same : unit = newline => inLine (same ▸ List.mem_reverse.mp inside)
  rcases whole with rfl | ⟨rest, rfl⟩
  · rw [List.nil_append, lastLine, List.rtakeWhile_eq_self_iff]
    exact fun unit inside => plain unit (List.mem_reverse.mpr inside)
  · rw [lastLine, List.rtakeWhile, List.reverse_append, List.takeWhile_append_of_pos plain]
    simp

/-- The last line of a text goes on with what the text goes on with. -/
theorem lastLine_append_of_notMem (front : Text) {t : Text} (inLine : newline ∉ t) :
    (front ++ t).lastLine = front.lastLine ++ t := by
  obtain ⟨above, whole, parts, -⟩ := exists_endsLine_append front
  have inLast : newline ∉ front.lastLine ++ t := by
    rw [List.mem_append, not_or]
    exact ⟨newline_notMem_lastLine front, inLine⟩
  conv_lhs => rw [parts, List.append_assoc]
  exact lastLine_append whole inLast

/-- After whole lines, the line that starts is the first one of what follows. -/
theorem lines_getElem?_of_endsLine {above : Text} (whole : EndsLine above) (t : Text) :
    (lines (above ++ t))[above.count newline]? = some t.firstLine := by
  rw [← lines_head?, List.head?_eq_getElem?]
  rcases whole with rfl | ⟨rest, rfl⟩
  · rfl
  · rw [List.append_assoc, List.singleton_append, lines_append_newline,
      List.getElem?_append_right (by simp [length_lines])]
    simp [length_lines]

/-- The line of a cut is the last line before it and the first line after it. -/
theorem lines_getElem?_append (a b : Text) :
    (lines (a ++ b))[a.count newline]? = some (a.lastLine ++ b.firstLine) := by
  obtain ⟨above, whole, parts, sameLine, _⟩ := exists_endsLine_append a
  rw [← firstLine_append b (newline_notMem_lastLine a), ← lines_getElem?_of_endsLine whole, ← List.append_assoc, ← parts,
    sameLine]

end Text

/-! ### The line table of a cut -/

namespace LineTable

open Text

theorem startsAfter_append (offset : Nat) (a b : Text) :
    startsAfter offset (a ++ b) = startsAfter offset a ++ startsAfter (offset + a.length) b := by
  induction a generalizing offset with
  | nil => rfl
  | cons unit rest ih =>
    have shift : offset + 1 + rest.length = offset + (unit :: rest).length := by
      rw [List.length_cons]
      omega
    simp only [List.cons_append, startsAfter, ih, shift]
    split <;> rfl

theorem length_startsAfter (offset : Nat) (t : Text) :
    (startsAfter offset t).length = t.count newline := by
  induction t generalizing offset with
  | nil => rfl
  | cons unit rest ih => by_cases same : unit = newline <;> simp [startsAfter, same, ih]

/-- Each line but the first one starts after some unit of the text. -/
theorem mem_startsAfter {offset : Nat} {t : Text} {start : Int}
    (member : start ∈ startsAfter offset t) :
    (offset : Int) < start ∧ start ≤ offset + t.length := by
  induction t generalizing offset with
  | nil => simp [startsAfter] at member
  | cons unit rest ih =>
    have later : start ∈ startsAfter (offset + 1) rest →
        (offset : Int) < start ∧ start ≤ offset + (unit :: rest).length := fun inRest => by
      have := ih inRest
      rw [List.length_cons]
      omega
    unfold startsAfter at member
    split at member
    · rcases List.mem_cons.mp member with rfl | inRest
      · rw [List.length_cons]
        omega
      · exact later inRest
    · exact later member

/-- The first start after an offset follows the first newline. -/
theorem head?_startsAfter (offset : Nat) (t : Text) :
    (startsAfter offset t).head? =
      if newline ∈ t then some ((offset + t.firstLine.length + 1 : Nat) : Int) else none := by
  induction t generalizing offset with
  | nil => rfl
  | cons unit rest ih =>
    by_cases same : unit = newline
    · simp [startsAfter, firstLine, same]
    · have different : newline ≠ unit := fun equal => same equal.symm
      simp only [startsAfter, same, if_false, ih, firstLine, List.mem_cons, different, false_or,
        List.takeWhile_cons, bne_iff_ne, ne_eq, not_false_eq_true, if_true, List.length_cons]
      congr 3
      omega

/-- The starts up to a cut, then those after it. -/
theorem starts_ofText_append (a b : Text) :
    (ofText (a ++ b)).starts = (0 :: startsAfter 0 a) ++ startsAfter a.length b := by
  simp [ofText, startsAfter_append]

theorem length_starts_ofText (t : Text) : (ofText t).starts.length = t.count newline + 1 := by
  simp [ofText, length_startsAfter]

/-- Where the line of a cut starts. -/
theorem start?_append (a b : Text) :
    (ofText (a ++ b)).start? (a.count newline : Nat) = some ((a.length - a.lastLine.length : Nat) : Int) := by
  obtain ⟨above, whole, parts, sameLine, size⟩ := exists_endsLine_append a
  have front : a.length - a.lastLine.length = above.length := by omega
  rw [sameLine, front, start?, if_neg (by omega), Int.toNat_natCast, parts, List.append_assoc,
    starts_ofText_append]
  rcases whole with rfl | ⟨rest, rfl⟩
  · rfl
  · rw [startsAfter_append, List.getElem?_append_left (by simp [length_startsAfter])]
    simp [startsAfter, length_startsAfter]

/-- Where the line of a cut ends. -/
theorem stop_append (a b : Text) :
    (ofText (a ++ b)).stop (a.count newline : Nat) = (a.length + b.firstLine.length : Nat) := by
  have next : (ofText (a ++ b)).start? ((a.count newline : Nat) + 1 : Int) =
      (startsAfter a.length b).head? := by
    rw [start?, if_neg (by omega), starts_ofText_append, List.getElem?_append_right
      (by simp [length_startsAfter]), List.head?_eq_getElem?]
    congr 1
    rw [List.length_cons, length_startsAfter]
    omega
  rw [stop, next, head?_startsAfter]
  by_cases inside : newline ∈ b
  · rw [if_pos inside]
    show ((a.length + b.firstLine.length + 1 : Nat) : Int) - 1 = _
    omega
  · have whole : b.firstLine = b := List.takeWhile_eq_self_iff.mpr fun unit member => by
      simpa using fun same : unit = newline => inside (same ▸ member)
    rw [if_neg inside, whole]
    simp [ofText]

/-! ### Positions -/

/-- Halving finds the last line that starts at or before the target. -/
theorem lineBefore_eq {table : LineTable} {target : Int} {low high line : Nat} (above : low ≤ line)
    (below : line ≤ high) (early : ∀ other : Nat, other ≤ line → table.start other ≤ target)
    (late : ∀ other : Nat, line < other → other ≤ high → target < table.start other) :
    table.lineBefore target low high = line := by
  fun_induction lineBefore table target low high with
  | case1 low high proper middle starts ih =>
    refine ih ?_ below late
    by_contra beyond
    exact absurd starts (Int.not_le.mpr (late middle (not_le.mp beyond) (by omega)))
  | case2 low high proper middle starts ih =>
    have before : line < middle := by
      by_contra reached
      exact starts (early middle (not_lt.mp reached))
    exact ih above (by omega) fun other after inside => late other after (by omega)
  | case3 low high done => omega

theorem start_le_of_le_count {a b : Text} {line : Nat} (before : line ≤ a.count newline) :
    (ofText (a ++ b)).start line ≤ a.length := by
  have inside : line < (0 :: startsAfter 0 a).length := by
    rw [List.length_cons, length_startsAfter]
    omega
  rw [start, start?, if_neg (by omega), Int.toNat_natCast, starts_ofText_append,
    List.getElem?_append_left inside, List.getElem?_eq_getElem inside, Option.getD_some]
  rcases List.mem_cons.mp (List.getElem_mem inside) with first | later
  · rw [first]
    omega
  · have := mem_startsAfter later
    omega

theorem lt_start_of_count_lt {a b : Text} {line : Nat} (after : a.count newline < line)
    (inside : line ≤ (ofText (a ++ b)).starts.length - 1) :
    (a.length : Int) < (ofText (a ++ b)).start line := by
  have size := length_starts_ofText (a ++ b)
  rw [List.count_append] at size
  have shifted : line - (0 :: startsAfter 0 a).length < (startsAfter a.length b).length := by
    rw [List.length_cons, length_startsAfter, length_startsAfter]
    omega
  rw [start, start?, if_neg (by omega), Int.toNat_natCast, starts_ofText_append,
    List.getElem?_append_right (by rw [List.length_cons, length_startsAfter]; omega),
    List.getElem?_eq_getElem shifted, Option.getD_some]
  exact (mem_startsAfter (List.getElem_mem shifted)).1

end LineTable

namespace Text

open LineTable

theorem length_lastLine_le (t : Text) : t.lastLine.length ≤ t.length :=
  (List.rtakeWhile_suffix _ _).length_le

/-- The position of a cut: as many lines down as there are newlines before it, and as many columns
in as its line has units before it. -/
theorem positionAt_append (a b : Text) :
    (a ++ b).positionAt a.length = ⟨(a.count newline : Nat), (a.lastLine.length : Nat)⟩ := by
  have inside : min (max 0 (a.length : Int)) (ofText (a ++ b)).length = a.length := by
    simp only [ofText, List.length_append]
    omega
  have line : (ofText (a ++ b)).lineBefore a.length 0 ((ofText (a ++ b)).starts.length - 1) =
      a.count newline := by
    refine lineBefore_eq (Nat.zero_le _) ?_ (fun other before => start_le_of_le_count before)
      fun other after inside => lt_start_of_count_lt after inside
    rw [length_starts_ofText, List.count_append]
    omega
  have start : (ofText (a ++ b)).start (a.count newline : Nat) =
      ((a.length - a.lastLine.length : Nat) : Int) := by
    rw [LineTable.start, start?_append, Option.getD_some]
  have := length_lastLine_le a
  simp only [positionAt, LineTable.positionAt, inside, line, start]
  congr 1
  omega

/-- The line of the position of a cut. -/
theorem lineAt_append (a b : Text) :
    (a ++ b).lineAt ((a ++ b).positionAt a.length) = a.lastLine ++ b.firstLine := by
  rw [positionAt_append, lineAt, if_neg (Int.not_lt.mpr (Int.natCast_nonneg _)), Int.toNat_natCast,
    lines_getElem?_append, Option.getD_some]

theorem nearestLine_eq {t : Text} {line : Int} (nonneg : 0 ≤ line) (inside : line ≤ t.count newline) :
    (ofText t).nearestLine line = line := by
  rw [nearestLine, length_starts_ofText]
  omega

theorem nearestLine_inside (t : Text) (line : Int) :
    0 ≤ (ofText t).nearestLine line ∧ (ofText t).nearestLine line ≤ t.count newline := by
  rw [nearestLine, length_starts_ofText]
  omega

/-- The offset of a column on the line of a cut. -/
theorem offsetAt_of_endsLine {above : Text} (whole : EndsLine above) (t : Text) (column : Int) :
    (above ++ t).offsetAt ⟨(above.count newline : Nat), column⟩ =
      above.length + min (max 0 column) t.firstLine.length := by
  have line : (ofText (above ++ t)).nearestLine (above.count newline : Nat) =
      (above.count newline : Nat) :=
    nearestLine_eq (by omega) (by rw [List.count_append]; omega)
  have empty : above.lastLine = [] := by
    simpa using lastLine_append whole (List.not_mem_nil : newline ∉ ([] : Text))
  have start : (ofText (above ++ t)).start (above.count newline : Nat) = above.length := by
    rw [LineTable.start, start?_append, empty]
    simp
  simp only [offsetAt, LineTable.offsetAt, line, start, stop_append]
  omega

/-- An offset inside the text is the offset of its position. -/
theorem offsetAt_positionAt {t : Text} {offset : Nat} (inside : offset ≤ t.length) :
    t.offsetAt (t.positionAt offset) = offset := by
  obtain ⟨a, b, rfl, rfl⟩ : ∃ a b, t = a ++ b ∧ offset = a.length :=
    ⟨t.take offset, t.drop offset, by simp, by simp [inside]⟩
  obtain ⟨above, whole, parts, sameLine, size⟩ := exists_endsLine_append a
  have split : a ++ b = above ++ (a.lastLine ++ b) := by
    rw [← List.append_assoc, ← parts]
  rw [positionAt_append, sameLine, split, offsetAt_of_endsLine whole,
    firstLine_append b (newline_notMem_lastLine a), List.length_append, size]
  omega

/-! ### Positions beside the text -/

/-- Every line of a text starts after whole lines. -/
theorem exists_endsLine_of_le_count {t : Text} {line : Nat} (inside : line ≤ t.count newline) :
    ∃ above below, EndsLine above ∧ above.count newline = line ∧ t = above ++ below := by
  induction line with
  | zero => exact ⟨[], t, Or.inl rfl, rfl, rfl⟩
  | succ line ih =>
    obtain ⟨above, below, whole, count, rfl⟩ := ih (by omega)
    have more : newline ∈ below := by
      by_contra none
      rw [count_append_of_notMem none] at inside
      omega
    obtain ⟨left, rest, rfl, inLine⟩ := List.eq_append_cons_of_mem more
    refine ⟨above ++ left ++ [newline], rest, Or.inr ⟨_, rfl⟩, ?_, by simp⟩
    rw [List.count_append, count_append_of_notMem inLine, count]
    rfl

/-- The line after whole lines. -/
theorem lineAt_of_endsLine {above : Text} (whole : EndsLine above) (t : Text) (column : Int) :
    (above ++ t).lineAt ⟨(above.count newline : Nat), column⟩ = t.firstLine := by
  rw [lineAt, if_neg (Int.not_lt.mpr (Int.natCast_nonneg _)), Int.toNat_natCast,
    lines_getElem?_of_endsLine whole, Option.getD_some]

/-- Nothing stands on a line that is not there. -/
theorem lineAt_of_outside {t : Text} {line column : Int} (outside : line < 0 ∨ t.count newline < line) :
    t.lineAt ⟨line, column⟩ = [] := by
  by_cases before : line < 0
  · rw [lineAt, if_pos before]
  · rw [lineAt, if_neg before]
    show (t.lines[line.toNat]?).getD [] = _
    rw [List.getElem?_eq_none (by rw [length_lines]; omega), Option.getD_none]

/-- A position of any kind has an offset on the nearest line: as far into it as its column says, and not
beyond the end of it. -/
theorem exists_line (t : Text) (position : Position) :
    ∃ above below, EndsLine above ∧ (ofText t).nearestLine position.line = (above.count newline : Nat) ∧
      t = above ++ below ∧
      t.offsetAt position = above.length + min (max 0 position.column) below.firstLine.length := by
  obtain ⟨line, column⟩ := position
  obtain ⟨nonneg, reached⟩ := nearestLine_inside t line
  have inText : ((ofText t).nearestLine line).toNat ≤ t.count newline := by omega
  obtain ⟨above, below, whole, count, parts⟩ := exists_endsLine_of_le_count inText
  have nearest : (ofText t).nearestLine line = (above.count newline : Nat) := by omega
  refine ⟨above, below, whole, nearest, parts, ?_⟩
  rw [← offsetAt_of_endsLine whole, ← parts, ← nearest]
  simp only [offsetAt, LineTable.offsetAt, nearestLine_eq nonneg reached]

/-- A position of any kind cuts the text at its offset, and what stands next to it on its line stands
next to the cut. There is nothing next to a position on no line. -/
theorem exists_cut (t : Text) (position : Position) :
    ∃ a b, t = a ++ b ∧ t.offsetAt position = a.length ∧
      (t.lineAt position).take position.column.toNat <:+ a ∧
      (t.lineAt position).drop position.column.toNat <+: b := by
  obtain ⟨above, below, whole, nearest, parts, offset⟩ := exists_line t position
  obtain ⟨line, column⟩ := position
  dsimp only at nearest offset
  obtain ⟨rest, continued⟩ := firstLine_prefix below
  refine ⟨above ++ below.firstLine.take column.toNat, below.firstLine.drop column.toNat ++ rest, ?_,
    ?_, ?_⟩
  · rw [List.append_assoc, ← List.append_assoc (List.take _ _), List.take_append_drop, continued,
      parts]
  · rw [offset, List.length_append, List.length_take]
    omega
  · by_cases inside : 0 ≤ line ∧ line ≤ t.count newline
    · rw [nearestLine_eq inside.1 inside.2] at nearest
      rw [nearest, parts, lineAt_of_endsLine whole]
      exact ⟨List.suffix_append _ _, List.prefix_append _ _⟩
    · have outside : line < 0 ∨ t.count newline < line := by omega
      rw [lineAt_of_outside outside, List.take_nil, List.drop_nil]
      exact ⟨List.nil_suffix, List.nil_prefix⟩

/-- A position in the text: on one of its lines, and not beyond the end of that line. -/
structure Holds (t : Text) (position : Position) : Prop where
  /-- No line is before the first one. -/
  lineNonneg : 0 ≤ position.line
  /-- The line is there. -/
  lineInside : position.line < t.lines.length
  /-- No column is before the first one. -/
  columnNonneg : 0 ≤ position.column
  /-- The column is on the line. -/
  columnInside : position.column ≤ (t.lineAt position).length

/-- A position in the text is that of a cut. -/
theorem exists_cut_of_holds {t : Text} {position : Position} (holds : t.Holds position) :
    ∃ a b, t = a ++ b ∧ position = t.positionAt a.length := by
  obtain ⟨line, column⟩ := position
  obtain ⟨lineNonneg, lineInside, columnNonneg, columnInside⟩ := holds
  rw [length_lines] at lineInside
  dsimp only at lineNonneg lineInside columnNonneg columnInside
  have inText : line.toNat ≤ t.count newline := by omega
  obtain ⟨above, below, whole, count, rfl⟩ := exists_endsLine_of_le_count inText
  obtain rfl : line = (above.count newline : Nat) := by omega
  rw [lineAt_of_endsLine whole] at columnInside
  have inLine : newline ∉ below.firstLine.take column.toNat := fun inside =>
    newline_notMem_firstLine below (List.mem_of_mem_take inside)
  obtain ⟨rest, continued⟩ := firstLine_prefix below
  have parts : above ++ below = (above ++ below.firstLine.take column.toNat) ++
      (below.firstLine.drop column.toNat ++ rest) := by
    rw [List.append_assoc, ← List.append_assoc (List.take _ _), List.take_append_drop, continued]
  refine ⟨_, _, parts, ?_⟩
  rw [parts, positionAt_append, count_append_of_notMem inLine, lastLine_append whole inLine,
    List.length_take]
  congr 1
  omega

end Text

end Pairing
