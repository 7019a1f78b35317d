/-
**The scan for delimiters of any length.**

Delimiters may be long, overlap each other, start with each other, or be the same. The scan reads a text in
rounds, each of which takes an opening, a closing, or a unit that belongs to neither:

* `Scan.advance`, `Scan.iterate_advance`: one round, and how many of them come to the end of a text;
* `Scan.IsCollected`: what is true of the delimiters that wait or are stray, wherever a round starts;
* `Scan.isCollected_advance`, `Scan.isCollected_leftover`: a round keeps this true, and so the scan does;
* `Scan.openingBefore_eq_none_or`: nothing waits before a stray closing;
* `Oracle.ofLines_reports_oneSide`: of any place in a buffer, the oracle that scans its lines reports an opening
  or a closing, but not both.
-/

import Pairing.Proofs.Scan.Unmatched

namespace Pairing.Scan

variable {delimiters : Delimiters} {t : Text}

/-! ### Rounds -/

/-- One round of the scan: from where it reads on, and with what is left over so far. -/
def advance (delimiters : Delimiters) (t : Text) (reached : Nat × Leftover) : Nat × Leftover :=
  let (index, found) := reached
  if index < t.length then
    if delimiters.opening.isPrefixOf (t.drop index) then
      (index + delimiters.opening.length, { found with openings := index :: found.openings })
    else if delimiters.closing.isPrefixOf (t.drop index) then
      (index + delimiters.closing.length, found.close index)
    else (index + 1, found)
  else reached

/-- What a round does: it takes an opening, a closing, or one unit, and does nothing at the end. -/
theorem advance_cases (delimiters : Delimiters) (t : Text) (index : Nat) (found : Leftover) :
    (index < t.length ∧ delimiters.opening <+: t.drop index ∧ advance delimiters t (index, found) =
      (index + delimiters.opening.length, { found with openings := index :: found.openings })) ∨
    (index < t.length ∧ delimiters.closing <+: t.drop index ∧ advance delimiters t (index, found) =
      (index + delimiters.closing.length, found.close index)) ∨
    (index < t.length ∧ advance delimiters t (index, found) = (index + 1, found)) ∨
    (t.length ≤ index ∧ advance delimiters t (index, found) = (index, found)) := by
  by_cases inside : index < t.length
  · by_cases opening : delimiters.opening.isPrefixOf (t.drop index)
    · refine Or.inl ⟨inside, List.isPrefixOf_iff_prefix.mp opening, ?_⟩
      simp only [advance, inside, opening, if_true]
    by_cases closing : delimiters.closing.isPrefixOf (t.drop index)
    · refine Or.inr (Or.inl ⟨inside, List.isPrefixOf_iff_prefix.mp closing, ?_⟩)
      simp only [advance, inside, opening, closing, if_true, if_false, Bool.false_eq_true]
    · refine Or.inr (Or.inr (Or.inl ⟨inside, ?_⟩))
      simp only [advance, inside, opening, closing, if_true, if_false, Bool.false_eq_true]
  · refine Or.inr (Or.inr (Or.inr ⟨not_lt.mp inside, ?_⟩))
    simp only [advance, inside, if_false]

/-- What is skipped is not read. -/
theorem run_skip (offset skip : Nat) (found : Leftover) (rest : Text) :
    run delimiters offset skip found rest = run delimiters (offset + skip) 0 found (rest.drop skip) := by
  induction rest generalizing offset skip with
  | nil => rw [List.drop_nil, run, run]
  | cons unit rest ih =>
    cases skip with
    | zero => rw [List.drop_zero, Nat.add_zero]
    | succ skip =>
      rw [run, ih, List.drop_succ_cons]
      congr 1
      omega

/-- After a delimiter, the scan goes on behind it. -/
theorem run_behind {part : Text} (nonempty : part ≠ []) (offset : Nat) (found : Leftover) (unit : UInt16)
    (rest : Text) : run delimiters (offset + 1) (part.length - 1) found rest =
      run delimiters (offset + part.length) 0 found ((unit :: rest).drop part.length) := by
  have size := List.length_pos_iff.mpr nonempty
  obtain ⟨skip, skipped⟩ := Nat.exists_eq_succ_of_ne_zero (Nat.ne_of_gt size)
  rw [skipped, run_skip, List.drop_succ_cons, Nat.succ_sub_one]
  congr 1
  omega

variable (opening : delimiters.opening ≠ []) (closing : delimiters.closing ≠ [])

include opening closing

/-- A round keeps what the scan comes to. -/
theorem run_advance (reached : Nat × Leftover) :
    run delimiters (advance delimiters t reached).1 0 (advance delimiters t reached).2
        (t.drop (advance delimiters t reached).1) =
      run delimiters reached.1 0 reached.2 (t.drop reached.1) := by
  obtain ⟨index, found⟩ := reached
  by_cases inside : index < t.length
  · unfold advance
    simp only [inside, if_true]
    rw [List.drop_eq_getElem_cons inside, run]
    split
    · rw [run_behind opening _ _ t[index], ← List.drop_eq_getElem_cons inside, List.drop_drop]
    split
    · rw [run_behind closing _ _ t[index], ← List.drop_eq_getElem_cons inside, List.drop_drop]
    · rfl
  · unfold advance
    simp only [inside, if_false]

/-- A round reads on, unless it is at the end, and never beyond it. -/
theorem advance_bounds {reached : Nat × Leftover} (inside : reached.1 ≤ t.length) :
    min (reached.1 + 1) t.length ≤ (advance delimiters t reached).1 ∧
      (advance delimiters t reached).1 ≤ t.length := by
  obtain ⟨index, found⟩ := reached
  have within {part : Text} (occurs : part <+: t.drop index) : index + part.length ≤ t.length := by
    have := occurs.length_le
    rw [List.length_drop] at this
    dsimp only at inside
    omega
  have sizes := And.intro (List.length_pos_iff.mpr opening) (List.length_pos_iff.mpr closing)
  obtain ⟨-, occurs, same⟩ | ⟨-, occurs, same⟩ | ⟨before, same⟩ | ⟨atEnd, same⟩ :=
    advance_cases delimiters t index found
  · rw [same]
    have := within occurs
    dsimp only
    omega
  · rw [same]
    have := within occurs
    dsimp only
    omega
  · rw [same]
    dsimp only
    omega
  · rw [same]
    exact ⟨(min_le_right _ _).trans atEnd, inside⟩

/-- As many rounds as there are units left come to the end of a text, and to what the scan comes to. -/
theorem iterate_advance {reached : Nat × Leftover} {rounds : Nat} (inside : reached.1 ≤ t.length)
    (enough : t.length - reached.1 ≤ rounds) : (advance delimiters t)^[rounds] reached =
      (t.length, run delimiters reached.1 0 reached.2 (t.drop reached.1)) := by
  induction rounds generalizing reached with
  | zero =>
    obtain ⟨index, found⟩ := reached
    obtain rfl : index = t.length := by
      dsimp only at inside enough
      omega
    rw [Function.iterate_zero_apply, List.drop_length, run]
  | succ rounds ih =>
    obtain ⟨advances, insideNext⟩ := advance_bounds opening closing inside
    rw [Function.iterate_succ_apply, ih insideNext (by omega), run_advance opening closing]

omit opening closing

/-! ### What is collected -/

/-- The delimiters that wait or are stray are occurrences, apart from each other and before what is read next,
the last ones first. Each stray closing ends before each opening that waits. -/
structure IsCollected (delimiters : Delimiters) (t : Text) (reached : Nat × Leftover) : Prop where
  opening : ∀ i ∈ reached.2.openings,
    delimiters.opening <+: t.drop i ∧ i + delimiters.opening.length ≤ reached.1
  closing : ∀ j ∈ reached.2.closings,
    delimiters.closing <+: t.drop j ∧ j + delimiters.closing.length ≤ reached.1
  openingsApart : reached.2.openings.Pairwise fun i earlier => earlier + delimiters.opening.length ≤ i
  closingsApart : reached.2.closings.Pairwise fun j earlier => earlier + delimiters.closing.length ≤ j
  straysFirst : ∀ j ∈ reached.2.closings, ∀ i ∈ reached.2.openings, j + delimiters.closing.length ≤ i

namespace IsCollected

variable {index : Nat} {found : Leftover} (collected : IsCollected delimiters t (index, found))

include collected

/-- What is collected stays so while the scan reads on. -/
theorem readOn {next : Nat} (behind : index ≤ next) : IsCollected delimiters t (next, found) where
  opening i member := (collected.opening i member).imp_right (le_trans · behind)
  closing j member := (collected.closing j member).imp_right (le_trans · behind)
  openingsApart := collected.openingsApart
  closingsApart := collected.closingsApart
  straysFirst := collected.straysFirst

/-- An opening waits behind all that was collected. -/
theorem push (occurs : delimiters.opening <+: t.drop index) : IsCollected delimiters t
    (index + delimiters.opening.length, { found with openings := index :: found.openings }) where
  opening := List.forall_mem_cons.mpr
    ⟨⟨occurs, le_refl _⟩, (collected.readOn (Nat.le_add_right _ _)).opening⟩
  closing := (collected.readOn (Nat.le_add_right _ _)).closing
  openingsApart := List.pairwise_cons.mpr
    ⟨fun i member => (collected.opening i member).2, collected.openingsApart⟩
  closingsApart := collected.closingsApart
  straysFirst j stray := List.forall_mem_cons.mpr
    ⟨(collected.closing j stray).2, collected.straysFirst j stray⟩

/-- A closing takes the last opening away, and is stray only where none waits. -/
theorem close (occurs : delimiters.closing <+: t.drop index) :
    IsCollected delimiters t (index + delimiters.closing.length, found.close index) := by
  have readOn := collected.readOn (Nat.le_add_right index delimiters.closing.length)
  obtain ⟨openings, closings⟩ := found
  cases openings with
  | cons last waiting =>
    exact ⟨(List.forall_mem_cons.mp readOn.opening).2, readOn.closing,
      (List.pairwise_cons.mp readOn.openingsApart).2, readOn.closingsApart,
      fun j stray => (List.forall_mem_cons.mp (readOn.straysFirst j stray)).2⟩
  | nil =>
    refine ⟨readOn.opening, List.forall_mem_cons.mpr ⟨⟨occurs, le_refl _⟩, readOn.closing⟩,
      readOn.openingsApart, List.pairwise_cons.mpr ⟨fun j stray => (collected.closing j stray).2,
        readOn.closingsApart⟩, fun j _ => List.forall_mem_nil _⟩

end IsCollected

/-- A round keeps true what is true of what is collected. -/
theorem isCollected_advance {reached : Nat × Leftover} (collected : IsCollected delimiters t reached) :
    IsCollected delimiters t (advance delimiters t reached) := by
  obtain ⟨index, found⟩ := reached
  obtain ⟨-, occurs, same⟩ | ⟨-, occurs, same⟩ | ⟨-, same⟩ | ⟨-, same⟩ := advance_cases delimiters t index found
  · rw [same]
    exact collected.push occurs
  · rw [same]
    exact collected.close occurs
  · rw [same]
    exact collected.readOn (Nat.le_succ index)
  · rwa [same]

theorem isCollected_iterate {reached : Nat × Leftover} (collected : IsCollected delimiters t reached)
    (rounds : Nat) : IsCollected delimiters t ((advance delimiters t)^[rounds] reached) := by
  induction rounds generalizing reached with
  | zero => exact collected
  | succ rounds ih =>
    rw [Function.iterate_succ_apply]
    exact ih (isCollected_advance collected)

theorem isCollected_start : IsCollected delimiters t (0, ⟨[], []⟩) :=
  ⟨List.forall_mem_nil _, List.forall_mem_nil _, .nil, .nil, List.forall_mem_nil _⟩

include opening closing

/-- The rounds of a scan end with what it leaves over. -/
theorem iterate_advance_leftover (t : Text) {rounds : Nat} (enough : t.length ≤ rounds) :
    (advance delimiters t)^[rounds] (0, ⟨[], []⟩) = (t.length, leftover delimiters t) :=
  iterate_advance opening closing (Nat.zero_le _) enough

/-- What a scan leaves over was collected. -/
theorem isCollected_leftover (t : Text) : IsCollected delimiters t (t.length, leftover delimiters t) := by
  rw [← iterate_advance_leftover opening closing t (le_refl _)]
  exact isCollected_iterate isCollected_start t.length

/-! ### The nearest ones -/

/-- The last opening left over before an offset. -/
theorem isGreatest_of_openingBefore {offset : Int} {i : Nat}
    (nearest : openingBefore delimiters t offset = some i) :
    IsGreatest {i : Nat | i ∈ (leftover delimiters t).openings ∧ (i : Int) < offset} i := by
  have size := List.length_pos_iff.mpr opening
  have descending : (leftover delimiters t).openings.Pairwise (· > ·) :=
    (isCollected_leftover opening closing t).openingsApart.imp fun apart => by omega
  obtain ⟨member, inside, last⟩ := (find?_eq_some_iff_of_pairwise descending _ _).mp nearest
  refine ⟨⟨member, of_decide_eq_true inside⟩, fun other left => ?_⟩
  have := last other left.1 (decide_eq_true left.2)
  omega

/-- The first closing left over at or after an offset. -/
theorem isLeast_of_closingFrom {offset : Int} {j : Nat}
    (nearest : closingFrom delimiters t offset = some j) :
    IsLeast {j : Nat | j ∈ (leftover delimiters t).closings ∧ offset ≤ j} j := by
  have size := List.length_pos_iff.mpr closing
  have descending : (leftover delimiters t).closings.Pairwise (· > ·) :=
    (isCollected_leftover opening closing t).closingsApart.imp fun apart => by omega
  have ascending : (leftover delimiters t).closings.reverse.Pairwise (· < ·) :=
    List.pairwise_reverse.mpr descending
  obtain ⟨member, inside, first⟩ := (find?_eq_some_iff_of_pairwise ascending _ _).mp nearest
  refine ⟨⟨List.mem_reverse.mp member, of_decide_eq_true inside⟩, fun other left => ?_⟩
  have := first other (List.mem_reverse.mpr left.1) (decide_eq_true left.2)
  omega

/-- No opening waits before an offset with a stray closing after it. -/
theorem openingBefore_eq_none_or (t : Text) (offset : Int) :
    openingBefore delimiters t offset = none ∨ closingFrom delimiters t offset = none := by
  cases before : openingBefore delimiters t offset with
  | none => exact Or.inl rfl
  | some i =>
    cases after : closingFrom delimiters t offset with
    | none => exact Or.inr rfl
    | some j =>
      obtain ⟨⟨waits, isBefore⟩, -⟩ := isGreatest_of_openingBefore opening closing before
      obtain ⟨⟨stray, isAfter⟩, -⟩ := isLeast_of_closingFrom opening closing after
      have := (isCollected_leftover opening closing t).straysFirst j stray i waits
      omega

end Pairing.Scan

namespace Pairing

open Scan

/-- **A place has an opening left over or a closing, but not both.** For any delimiters that are not empty, the scan
of the lines of a buffer ends, after no more rounds than there are units. What it leaves over are occurrences apart
from each other, each stray closing before each opening that waits. So of any place in the buffer the oracle reports
an opening or a closing but not both, and what it reports is the nearest one that was left over on that side. -/
theorem Oracle.ofLines_reports_oneSide {delimiters : Delimiters} (opening : delimiters.opening ≠ [])
    (closing : delimiters.closing ≠ []) (lines : List Text) (earlier : List OracleCall) (place : Position) :
    let t := Text.join [Text.newline] lines
    let here := t.offsetAt place
    let left := leftover delimiters t
    (∀ rounds, t.length ≤ rounds → (advance delimiters t)^[rounds] (0, ⟨[], []⟩) = (t.length, left)) ∧
      IsCollected delimiters t (t.length, left) ∧
      ∃ before after, (Oracle.ofLines lines).unmatchedOpening earlier delimiters place = .ok before ∧
        (Oracle.ofLines lines).unmatchedClosing earlier delimiters place = .ok after ∧
        (before = none ∨ after = none) ∧
        (before = none ↔ ∀ i ∈ left.openings, here ≤ i) ∧
        (after = none ↔ ∀ j ∈ left.closings, (j : Int) < here) ∧
        (∀ found, before = some found → ∃ i, found.StandsAt delimiters t i ∧
          delimiters.opening <+: t.drop i ∧ IsGreatest {i : Nat | i ∈ left.openings ∧ (i : Int) < here} i) ∧
        ∀ found, after = some found → ∃ j, found.StandsAt delimiters t j ∧
          delimiters.closing <+: t.drop j ∧ IsLeast {j : Nat | j ∈ left.closings ∧ here ≤ j} j := by
  intro t here left
  have collected := isCollected_leftover opening closing t
  refine ⟨fun rounds enough => iterate_advance_leftover opening closing t enough, collected, _, _, rfl, rfl,
    ?_, ?_, ?_, fun found reported => ?_, fun found reported => ?_⟩
  · rw [Option.map_eq_none_iff, Option.map_eq_none_iff]
    exact openingBefore_eq_none_or opening closing t here
  · rw [Option.map_eq_none_iff, openingBefore, List.find?_eq_none]
    simp only [decide_eq_true_eq, not_lt]
    exact Iff.rfl
  · rw [Option.map_eq_none_iff, closingFrom, List.find?_eq_none]
    simp only [decide_eq_true_eq, not_le, List.mem_reverse]
    exact Iff.rfl
  · obtain ⟨i, nearest, rfl⟩ := Option.map_eq_some_iff.mp reported
    have greatest := isGreatest_of_openingBefore opening closing nearest
    obtain ⟨occurs, inside⟩ := collected.opening i greatest.1.1
    exact ⟨i, unmatchedAt_standsAt _ (Nat.le_of_add_right_le inside), occurs, greatest⟩
  · obtain ⟨j, nearest, rfl⟩ := Option.map_eq_some_iff.mp reported
    have least := isLeast_of_closingFrom opening closing nearest
    obtain ⟨occurs, inside⟩ := collected.closing j least.1.1
    exact ⟨j, unmatchedAt_standsAt _ (Nat.le_of_add_right_le inside), occurs, least⟩

/-- The start and the end of a comment overlap: the second line opens one and does not end it. -/
theorem Oracle.ofLines_reports_oneSide_comment :
    let comment : Delimiters := ⟨Text.ofString "<!--", Text.ofString "-->"⟩
    let lines : List Text := ["a-->", "<!-->"]
    let t := Text.join [Text.newline] lines
    comment.opening ≠ [] ∧ comment.closing ≠ [] ∧ leftover comment t = ⟨[5], [1]⟩ ∧
      (∃ found, (Oracle.ofLines lines).unmatchedOpening [] comment ⟨1, 5⟩ = .ok (some found) ∧
        found.StandsAt comment t 5) ∧
      (Oracle.ofLines lines).unmatchedClosing [] comment ⟨1, 5⟩ = .ok none := by
  intro comment lines t
  have opening : comment.opening ≠ [] := by decide
  have closing : comment.closing ≠ [] := by decide
  have left : leftover comment t = ⟨[5], [1]⟩ := by decide +kernel
  have here : t.offsetAt ⟨1, 5⟩ = 10 := by decide +kernel
  obtain ⟨-, -, before, after, isBefore, isAfter, oneSide, noneBefore, -, reports, -⟩ :=
    Oracle.ofLines_reports_oneSide opening closing lines [] ⟨1, 5⟩
  cases before with
  | none =>
    have waits : (5 : Nat) ∈ (leftover comment t).openings := by rw [left]; exact List.mem_singleton_self 5
    have := noneBefore.mp rfl 5 waits
    rw [here] at this
    exact absurd this (by decide)
  | some found =>
    obtain ⟨i, stands, -, ⟨waits, -⟩, -⟩ := reports found rfl
    rw [left] at waits
    obtain rfl := List.mem_singleton.mp waits
    obtain rfl : after = none := oneSide.resolve_left (Option.some_ne_none found)
    exact ⟨opening, closing, left, ⟨found, isBefore, stands⟩, isAfter⟩

end Pairing
