/-
**The search for a line by halving.**

A line table is searched in rounds. Each round looks at the start of the line in the middle of those that are
left, and goes on with the half that the target is in:

* `LineTable.narrow`: one round;
* `LineTable.narrow_halves`, `LineTable.lineBefore_narrow`: a round leaves at most half of the width, and keeps
  what the search comes to;
* `LineTable.iterate_narrow`: the search ends for any table, once the rounds have halved its size away;
* `LineTable.Encloses`, `LineTable.Encloses.narrow`: what a round keeps true of a table whose starts ascend;
* `LineTable.isGreatest_lineBefore`: there, the search finds the last start that is not beyond the target.
-/

import Mathlib.Algebra.Ring.Nat
import Mathlib.Order.Bounds.Basic
import Pairing.Position

namespace Pairing.LineTable

variable {table : LineTable} {target : Int}

/-- One round of the search between two lines: the line in the middle bounds what is left. -/
def narrow (table : LineTable) (target : Int) (bounds : Nat × Nat) : Nat × Nat :=
  let middle := (bounds.1 + bounds.2 + 1) / 2
  if bounds.1 < bounds.2 then
    if table.start middle ≤ target then (middle, bounds.2) else (bounds.1, middle - 1)
  else bounds

/-! ### Any table -/

/-- A round keeps the bounds in order. -/
theorem narrow_ordered {bounds : Nat × Nat} (ordered : bounds.1 ≤ bounds.2) :
    (table.narrow target bounds).1 ≤ (table.narrow target bounds).2 := by
  unfold narrow
  dsimp only
  split
  · split <;> dsimp only <;> omega
  · exact ordered

/-- A round leaves at most half of the width. -/
theorem narrow_halves (bounds : Nat × Nat) :
    (table.narrow target bounds).2 - (table.narrow target bounds).1 ≤ (bounds.2 - bounds.1) / 2 := by
  unfold narrow
  dsimp only
  split
  · split <;> dsimp only <;> omega
  · omega

/-- A round keeps what the search comes to. -/
theorem lineBefore_narrow (bounds : Nat × Nat) :
    table.lineBefore target (table.narrow target bounds).1 (table.narrow target bounds).2 =
      table.lineBefore target bounds.1 bounds.2 := by
  unfold narrow
  dsimp only
  split
  · next proper =>
    conv_rhs => rw [lineBefore, if_pos proper]
    dsimp only
    split <;> rfl
  · rfl

/-- After enough rounds, the line that is left is what the search comes to. -/
theorem iterate_narrow {bounds : Nat × Nat} {rounds : Nat} (ordered : bounds.1 ≤ bounds.2)
    (few : bounds.2 - bounds.1 < 2 ^ rounds) :
    (table.narrow target)^[rounds] bounds =
      (table.lineBefore target bounds.1 bounds.2, table.lineBefore target bounds.1 bounds.2) := by
  induction rounds generalizing bounds with
  | zero =>
    obtain ⟨low, high⟩ := bounds
    obtain rfl : low = high := by
      dsimp only at ordered few
      omega
    rw [Function.iterate_zero_apply, lineBefore, if_neg (Nat.lt_irrefl low)]
  | succ rounds ih =>
    have half : (table.narrow target bounds).2 - (table.narrow target bounds).1 ≤ (bounds.2 - bounds.1) / 2 :=
      narrow_halves bounds
    rw [Nat.pow_succ] at few
    rw [Function.iterate_succ_apply, ih (narrow_ordered ordered) (by omega), lineBefore_narrow]

/-! ### Tables whose starts ascend -/

/-- The starts of a table ascend from the start of the text. -/
structure IsAscending (table : LineTable) : Prop where
  first : table.starts.head? = some 0
  ascends : table.starts.Pairwise (· < ·)

/-- The last line that starts at or before the target is one of those between two bounds. -/
structure Encloses (table : LineTable) (target : Int) (bounds : Nat × Nat) : Prop where
  inside : bounds.2 < table.starts.length
  early : table.start bounds.1 ≤ target
  late : ∀ line : Nat, bounds.2 < line → line < table.starts.length → target < table.start line

theorem start_eq_iff {line : Nat} (inside : line < table.starts.length) {start : Int} :
    table.start line = start ↔ table.starts[line]? = some start := by
  rw [LineTable.start, start?, if_neg (Int.not_lt.mpr (Int.natCast_nonneg line)), Int.toNat_natCast,
    List.getElem?_eq_getElem inside, Option.getD_some, Option.some_inj]

namespace IsAscending

variable (ascending : table.IsAscending)

include ascending

theorem length_pos : 0 < table.starts.length := by
  by_contra none
  have first := ascending.first
  rw [List.length_eq_zero_iff.mp (Nat.eq_zero_of_not_pos none)] at first
  cases first

/-- A later line starts later. -/
theorem start_le_start {line other : Nat} (before : line ≤ other) (inside : other < table.starts.length) :
    table.start line ≤ table.start other := by
  rcases Nat.lt_or_eq_of_le before with before | rfl
  · have isLine : line < table.starts.length := Nat.lt_trans before inside
    rw [(start_eq_iff isLine).mpr (List.getElem?_eq_getElem isLine),
      (start_eq_iff inside).mpr (List.getElem?_eq_getElem inside)]
    exact Int.le_of_lt (List.pairwise_iff_getElem.mp ascending.ascends line other isLine inside before)
  · exact Int.le_refl _

/-- The search starts with all lines. -/
theorem encloses (nonneg : 0 ≤ target) : table.Encloses target (0, table.starts.length - 1) where
  inside := Nat.sub_one_lt (Nat.pos_iff_ne_zero.mp ascending.length_pos)
  early := by
    have first : table.start ((0 : Nat) : Int) = 0 :=
      (start_eq_iff ascending.length_pos).mpr (List.head?_eq_getElem?.symm.trans ascending.first)
    rw [first]
    exact nonneg
  late line beyond inside := by
    dsimp only at beyond
    omega

/-- A round keeps the line that is looked for between the bounds. -/
theorem narrow_encloses {bounds : Nat × Nat} (encloses : table.Encloses target bounds) :
    table.Encloses target (table.narrow target bounds) := by
  unfold narrow
  dsimp only
  split
  · next proper =>
    split
    · next starts => exact ⟨encloses.inside, starts, encloses.late⟩
    · next later =>
      refine ⟨?_, encloses.early, fun line beyond inside => ?_⟩
      · have := encloses.inside
        dsimp only
        omega
      · dsimp only at beyond
        exact Int.lt_of_lt_of_le (not_le.mp later) (ascending.start_le_start (by omega) inside)
  · exact encloses

theorem iterate_encloses {bounds : Nat × Nat} (encloses : table.Encloses target bounds) (rounds : Nat) :
    table.Encloses target ((table.narrow target)^[rounds] bounds) := by
  induction rounds generalizing bounds with
  | zero => exact encloses
  | succ rounds ih =>
    rw [Function.iterate_succ_apply]
    exact ih (ascending.narrow_encloses encloses)

/-- The search finds the last start that is not beyond the target. -/
theorem isGreatest_lineBefore (nonneg : 0 ≤ target) :
    IsGreatest {line : Nat | ∃ start, table.starts[line]? = some start ∧ start ≤ target}
      (table.lineBefore target 0 (table.starts.length - 1)) := by
  have enclosed := ascending.iterate_encloses (ascending.encloses nonneg) table.starts.length
  have few : table.starts.length - 1 - 0 < 2 ^ table.starts.length :=
    Nat.lt_of_le_of_lt (by omega) Nat.lt_two_pow_self
  rw [iterate_narrow (Nat.zero_le _) few] at enclosed
  obtain ⟨inside, early, late⟩ := enclosed
  dsimp only at inside early late
  refine ⟨⟨_, (start_eq_iff inside).mp rfl, early⟩, ?_⟩
  rintro line ⟨start, found, notBeyond⟩
  obtain ⟨isLine, -⟩ := List.getElem?_eq_some_iff.mp found
  by_contra beyond
  have later := late line (not_le.mp beyond) isLine
  rw [(start_eq_iff isLine).mpr found] at later
  omega

end IsAscending

end Pairing.LineTable
