/-
**Delimiters without a partner, one by one.**

The scan of a text keeps a stack and says what is left on it. Which delimiters these are can be told from
the text alone: an opening of one unit has no partner if the text from it on holds more openings than
closings wherever one stops reading, and a closing has none if the text up to it holds more closings than
openings wherever one starts:

* `Scan.IsUnclosed`, `Scan.IsUnopened`: the openings and the closings without a partner;
* `Scan.unopened_eq_zero_iff`, `Scan.unclosed_eq_zero_iff`: when a text leaves nothing over, said of its
  beginnings and of its ends;
* `Scan.mem_openings_iff`, `Scan.mem_closings_iff`: the scan leaves over exactly these;
* `Scan.leftover_descending`: each of them once, the last one first;
* `Scan.openingBefore_eq_some_iff`, `Scan.closingFrom_eq_some_iff`: the nearest one on a side of an offset;
* `Oracle.ofLines_reports_unmatched`: the oracle that scans the lines of a buffer reports the nearest one
  where there is one, and nothing where there is none.
-/

import Mathlib.Order.Bounds.Basic
import Pairing.Proofs.Position.Cut
import Pairing.Proofs.Scan.Balance

namespace Pairing.Scan

variable {o c : UInt16}

/-- An opening without a partner: each slice that starts with it holds more openings than closings. -/
structure IsUnclosed (o c : UInt16) (t : Text) (i : Nat) : Prop where
  /-- An opening stands there. -/
  isOpening : t[i]? = some o
  /-- The openings outnumber the closings, wherever the slice stops. -/
  outnumbers : ∀ j, i ≤ j → j < t.length →
    (t.slice i (j + 1 : Nat)).count c < (t.slice i (j + 1 : Nat)).count o

/-- A closing without a partner: each slice that ends with it holds more closings than openings. -/
structure IsUnopened (o c : UInt16) (t : Text) (j : Nat) : Prop where
  /-- A closing stands there. -/
  isClosing : t[j]? = some c
  /-- The closings outnumber the openings, wherever the slice starts. -/
  outnumbers : ∀ i, i ≤ j → (t.slice i (j + 1 : Nat)).count o < (t.slice i (j + 1 : Nat)).count c

/-! ### Texts that leave nothing over -/

/-- Units that are matched are as many on both sides. -/
theorem count_add_unclosed (different : o ≠ c) (t : Text) :
    t.count c + unclosed o c t = t.count o + unopened o c t := by
  induction t with
  | nil => rfl
  | cons unit rest ih =>
    by_cases opening : unit = o
    · subst opening
      rw [unopened_cons_opening, List.count_cons_self, List.count_cons_of_ne different, unclosed,
        if_pos rfl]
      omega
    by_cases closing : unit = c
    · subst closing
      rw [unopened_cons_closing different, List.count_cons_self, List.count_cons_of_ne opening, unclosed,
        if_neg opening]
      omega
    · rw [unopened_cons_other opening closing, List.count_cons_of_ne closing,
        List.count_cons_of_ne opening, unclosed, if_neg opening]
      exact ih

/-- How many closings of a text are without an opening: as many as some beginning has too many. -/
theorem unopened_le_iff (different : o ≠ c) (t : Text) (bound : Nat) :
    unopened o c t ≤ bound ↔ ∀ n, (t.take n).count c ≤ (t.take n).count o + bound := by
  induction t generalizing bound with
  | nil => simp [unopened]
  | cons unit rest ih =>
    -- The beginnings are the empty one and those that go on with the rest.
    rw [← Nat.and_forall_add_one]
    simp only [List.take_zero, List.take_succ_cons, List.count_nil, Nat.zero_le, true_and]
    by_cases opening : unit = o
    · subst opening
      rw [unopened_cons_opening, Nat.sub_le_iff_le_add, ih]
      simp only [List.count_cons_self, List.count_cons_of_ne different]
      exact forall_congr' fun n => by omega
    by_cases closing : unit = c
    · subst closing
      rw [unopened_cons_closing different]
      simp only [List.count_cons_self, List.count_cons_of_ne opening]
      cases bound with
      | zero => exact ⟨fun none => by omega, fun all => absurd (all 0) (by simp)⟩
      | succ bound =>
        rw [Nat.add_le_add_iff_right, ih]
        exact forall_congr' fun n => by omega
    · rw [unopened_cons_other opening closing, ih]
      simp only [List.count_cons_of_ne closing, List.count_cons_of_ne opening]

theorem unopened_eq_zero_iff (different : o ≠ c) (t : Text) :
    unopened o c t = 0 ↔ ∀ n, (t.take n).count c ≤ (t.take n).count o := by
  rw [← Nat.le_zero, unopened_le_iff different]
  rfl

theorem unclosed_eq_zero_iff (different : o ≠ c) (t : Text) :
    unclosed o c t = 0 ↔ ∀ n, (t.drop n).count o ≤ (t.drop n).count c := by
  induction t with
  | nil => simp [unclosed]
  | cons unit rest ih =>
    have counts := count_add_unclosed different rest
    -- The ends are the whole text and those of the rest.
    rw [← Nat.and_forall_add_one]
    simp only [List.drop_zero, List.drop_succ_cons, ← ih]
    by_cases opening : unit = o
    · subst opening
      rw [unclosed, if_pos rfl, List.count_cons_self, List.count_cons_of_ne different]
      omega
    by_cases closing : unit = c
    · subst closing
      rw [unclosed, if_neg opening, List.count_cons_self, List.count_cons_of_ne opening]
      omega
    · rw [unclosed, if_neg opening, List.count_cons_of_ne closing, List.count_cons_of_ne opening]
      omega

/-! ### Partners and counts -/

/-- A slice from a cut on. -/
theorem slice_append_left (a b : Text) {j : Nat} (from_ : a.length ≤ j) (inside : j < (a ++ b).length) :
    (a ++ b).slice a.length (j + 1 : Nat) = b.take (j + 1 - a.length) := by
  rw [Text.slice_of_le _ (by omega) inside, List.take_append, List.take_of_length_le (by omega),
    List.drop_left]

/-- A slice up to the unit after a cut. -/
theorem slice_append_cons (a : Text) (unit : UInt16) (b : Text) {i : Nat} (upTo : i ≤ a.length) :
    (a ++ unit :: b).slice i (a.length + 1 : Nat) = a.drop i ++ [unit] := by
  have parts : a ++ unit :: b = (a ++ [unit]) ++ b := by simp
  have length : (a ++ [unit]).length = a.length + 1 := by simp
  rw [Text.slice_of_le _ (by omega) (by simp), parts, ← length, List.take_left,
    List.drop_append_of_le_length upTo]

/-- An opening has no partner if nothing after it is without an opening. -/
theorem isUnclosed_append_iff (different : o ≠ c) (a b : Text) (unit : UInt16) :
    IsUnclosed o c (a ++ unit :: b) a.length ↔ unit = o ∧ unopened o c b = 0 := by
  have place : (a ++ unit :: b)[a.length]? = some unit := by simp
  have length : (a ++ unit :: b).length = a.length + b.length + 1 := by simp [Nat.add_assoc]
  constructor
  · rintro ⟨isOpening, outnumbers⟩
    obtain rfl : unit = o := Option.some.inj (place.symm.trans isOpening)
    refine ⟨rfl, (unopened_eq_zero_iff different b).mpr fun n => ?_⟩
    have slice := outnumbers (a.length + min n b.length) (by omega) (by omega)
    rw [slice_append_left a _ (by omega) (by omega),
      show a.length + min n b.length + 1 - a.length = min n b.length + 1 by omega,
      List.take_succ_cons, List.count_cons_self, List.count_cons_of_ne different,
      List.take_eq_take_iff.mpr (show min (min n b.length) b.length = min n b.length by omega)] at slice
    omega
  · rintro ⟨rfl, none⟩
    refine ⟨place, fun j from_ inside => ?_⟩
    have beginning := (unopened_eq_zero_iff different b).mp none (j - a.length)
    rw [slice_append_left a _ from_ inside,
      show j + 1 - a.length = (j - a.length) + 1 by omega, List.take_succ_cons,
      List.count_cons_self, List.count_cons_of_ne different]
    omega

/-- A closing has no partner if nothing before it is without a closing. -/
theorem isUnopened_append_iff (different : o ≠ c) (a b : Text) (unit : UInt16) :
    IsUnopened o c (a ++ unit :: b) a.length ↔ unit = c ∧ unclosed o c a = 0 := by
  have place : (a ++ unit :: b)[a.length]? = some unit := by simp
  have counts (ending : Text) : (ending ++ [c]).count o = ending.count o ∧
      (ending ++ [c]).count c = ending.count c + 1 := by
    simp [List.count_append, different.symm]
  constructor
  · rintro ⟨isClosing, outnumbers⟩
    obtain rfl : unit = c := Option.some.inj (place.symm.trans isClosing)
    refine ⟨rfl, (unclosed_eq_zero_iff different a).mpr fun n => ?_⟩
    have slice := outnumbers (min n a.length) (by omega)
    rw [slice_append_cons a unit b (by omega), (counts _).1, (counts _).2,
      List.drop_eq_drop_iff.mpr (show min (min n a.length) a.length = min n a.length by omega)] at slice
    omega
  · rintro ⟨rfl, none⟩
    refine ⟨place, fun i upTo => ?_⟩
    have ending := (unclosed_eq_zero_iff different a).mp none i
    rw [slice_append_cons a unit b upTo, (counts _).1, (counts _).2]
    omega

/-! ### What the scan leaves over -/

/-- The scan of a text with one unit more. -/
theorem leftover_append_singleton (t : Text) (unit : UInt16) :
    leftover (delimitersOf o c) (t ++ [unit]) =
      if unit = o then { leftover (delimitersOf o c) t with
        openings := t.length :: (leftover (delimitersOf o c) t).openings }
      else if unit = c then (leftover (delimitersOf o c) t).close t.length
      else leftover (delimitersOf o c) t := by
  rw [leftover, run_append, run_cons, run, Nat.zero_add]
  rfl

theorem mem_close {found : Leftover} {offset i : Nat} :
    (i ∈ (found.close offset).openings → i ∈ found.openings) ∧
      (i ∈ (found.close offset).closings ↔
        i = offset ∧ found.openings = [] ∨ i ∈ found.closings) := by
  obtain ⟨waiting, strays⟩ := found
  cases waiting with
  | nil => simp [Leftover.close]
  | cons last others => exact ⟨List.mem_cons_of_mem last, by simp [Leftover.close]⟩

theorem lt_length_of_mem_leftover {t : Text} {i : Nat}
    (member : i ∈ (leftover (delimitersOf o c) t).openings ∨
      i ∈ (leftover (delimitersOf o c) t).closings) : i < t.length := by
  induction t using List.reverseRecOn with
  | nil => simp [leftover, run] at member
  | append_singleton rest unit ih =>
    rw [List.length_append, List.length_singleton]
    by_contra beyond
    have new : ¬ (i ∈ (leftover (delimitersOf o c) rest).openings ∨
        i ∈ (leftover (delimitersOf o c) rest).closings) := fun old => beyond (by have := ih old; omega)
    have different : i ≠ rest.length := by omega
    rw [leftover_append_singleton] at member
    split at member
    · exact new (by simpa [different] using member)
    split at member
    · refine new (member.imp mem_close.1 fun stray => ?_)
      exact (mem_close.2.mp stray).resolve_left fun last => different last.1
    · exact new member

/-- The scan leaves over each delimiter once, the last one first. -/
theorem leftover_descending (t : Text) :
    (leftover (delimitersOf o c) t).openings.Pairwise (· > ·) ∧
      (leftover (delimitersOf o c) t).closings.Pairwise (· > ·) := by
  induction t using List.reverseRecOn with
  | nil => exact ⟨.nil, .nil⟩
  | append_singleton rest unit ih =>
    obtain ⟨openings, closings⟩ := ih
    rw [leftover_append_singleton]
    split
    · exact ⟨List.pairwise_cons.mpr ⟨fun i old => lt_length_of_mem_leftover (Or.inl old), openings⟩,
        closings⟩
    split
    · unfold Leftover.close
      split
      · next last waiting found =>
        rw [found] at openings
        exact ⟨(List.pairwise_cons.mp openings).2, closings⟩
      · exact ⟨openings, List.pairwise_cons.mpr
          ⟨fun i old => lt_length_of_mem_leftover (Or.inr old), closings⟩⟩
    · exact ⟨openings, closings⟩

/-- As many openings and closings are left over as have no partner. -/
theorem length_leftover (different : o ≠ c) (t : Text) :
    (leftover (delimitersOf o c) t).openings.length = unclosed o c t ∧
      (leftover (delimitersOf o c) t).closings.length = unopened o c t := by
  obtain ⟨waiting, strays, adds⟩ := exists_adds different 0 ⟨[], []⟩ t
  rw [leftover, adds.openings, adds.closings, List.drop_nil, List.append_nil, List.append_nil,
    adds.numberWaiting, adds.numberStrays]
  exact ⟨rfl, rfl⟩

/-- What the scan of a text leaves over after a unit: nothing after it concerns the units before. -/
theorem exists_leftover_append_cons (different : o ≠ c) (a b : Text) (unit : UInt16) :
    ∃ waiting strays : List Nat,
      leftover (delimitersOf o c) (a ++ unit :: b) =
        ⟨waiting ++ (leftover (delimitersOf o c) (a ++ [unit])).openings.drop (unopened o c b),
          strays ++ (leftover (delimitersOf o c) (a ++ [unit])).closings⟩ ∧
      ∀ i ∈ waiting ++ strays, a.length < i := by
  obtain ⟨waiting, strays, adds⟩ := exists_adds different (a.length + 1)
    (leftover (delimitersOf o c) (a ++ [unit])) b
  have parts : a ++ unit :: b = (a ++ [unit]) ++ b := by simp
  have length : (a ++ [unit]).length = a.length + 1 := by simp
  refine ⟨waiting, strays, ?_, fun i member => (adds.inside i member).1⟩
  rw [← adds.openings, ← adds.closings, parts, leftover, run_append, Nat.zero_add, length]
  rfl

/-- The scan leaves over exactly the openings without a partner. -/
theorem mem_openings_iff (different : o ≠ c) (t : Text) (i : Nat) :
    i ∈ (leftover (delimitersOf o c) t).openings ↔ IsUnclosed o c t i := by
  by_cases inside : i < t.length
  · obtain ⟨a, unit, b, rfl, rfl⟩ : ∃ a unit b, t = a ++ unit :: b ∧ i = a.length :=
      ⟨t.take i, t[i], t.drop (i + 1), by simp, by simp [inside.le]⟩
    obtain ⟨waiting, strays, scanned, later⟩ := exists_leftover_append_cons different a b unit
    have notWaiting : a.length ∉ waiting := fun member =>
      lt_irrefl _ (later _ (List.mem_append_left _ member))
    have notBefore : a.length ∉ (leftover (delimitersOf o c) a).openings := fun member =>
      lt_irrefl _ (lt_length_of_mem_leftover (Or.inl member))
    rw [isUnclosed_append_iff different, scanned, List.mem_append, or_iff_right notWaiting,
      leftover_append_singleton]
    split
    · next opening =>
      cases unopened o c b with
      | zero => simp [opening]
      | succ closings =>
        rw [List.drop_succ_cons]
        exact ⟨fun member => absurd (List.mem_of_mem_drop member) notBefore, fun none => by simp at none⟩
    · next notOpening =>
      refine ⟨fun member => absurd (List.mem_of_mem_drop member) ?_, fun none => absurd none.1 notOpening⟩
      split
      · exact fun member => notBefore (mem_close.1 member)
      · exact notBefore
  · refine ⟨fun member => absurd (lt_length_of_mem_leftover (Or.inl member)) inside, fun none => ?_⟩
    exact absurd (List.getElem?_eq_some_iff.mp none.isOpening).1 inside

/-- The scan leaves over exactly the closings without a partner. -/
theorem mem_closings_iff (different : o ≠ c) (t : Text) (i : Nat) :
    i ∈ (leftover (delimitersOf o c) t).closings ↔ IsUnopened o c t i := by
  by_cases inside : i < t.length
  · obtain ⟨a, unit, b, rfl, rfl⟩ : ∃ a unit b, t = a ++ unit :: b ∧ i = a.length :=
      ⟨t.take i, t[i], t.drop (i + 1), by simp, by simp [inside.le]⟩
    obtain ⟨waiting, strays, scanned, later⟩ := exists_leftover_append_cons different a b unit
    have notStray : a.length ∉ strays := fun member =>
      lt_irrefl _ (later _ (List.mem_append_right _ member))
    have notBefore : a.length ∉ (leftover (delimitersOf o c) a).closings := fun member =>
      lt_irrefl _ (lt_length_of_mem_leftover (Or.inr member))
    rw [isUnopened_append_iff different, scanned, List.mem_append, or_iff_right notStray,
      leftover_append_singleton, ← (length_leftover different a).1, List.length_eq_zero_iff]
    split
    · next opening => simp [opening, different, notBefore]
    split
    · next closing => simp [mem_close.2, closing, notBefore]
    · next notClosing => simp [notClosing, notBefore]
  · refine ⟨fun member => absurd (lt_length_of_mem_leftover (Or.inr member)) inside, fun none => ?_⟩
    exact absurd (List.getElem?_eq_some_iff.mp none.isClosing).1 inside

/-! ### The nearest one -/

/-- What is found first in an ordered list comes before all else that could be found. -/
theorem find?_eq_some_iff_of_pairwise {α : Type} {before : α → α → Prop} [Std.Asymm before]
    {found : List α} (ordered : found.Pairwise before) (p : α → Bool) (x : α) :
    found.find? p = some x ↔ x ∈ found ∧ p x = true ∧ ∀ y ∈ found, p y = true → y = x ∨ before x y := by
  induction found with
  | nil => simp
  | cons first rest ih =>
    obtain ⟨firstBefore, restOrdered⟩ := List.pairwise_cons.mp ordered
    rw [List.find?_cons]
    split
    · next holds =>
      rw [Option.some_inj]
      constructor
      · rintro rfl
        exact ⟨List.mem_cons_self, holds, fun y member _ =>
          (List.mem_cons.mp member).imp_right (firstBefore y)⟩
      · rintro ⟨member, _, nearest⟩
        obtain same | later := List.mem_cons.mp member
        · exact same.symm
        · refine (nearest first List.mem_cons_self holds).resolve_right fun after => ?_
          exact Std.Asymm.asymm _ _ after (firstBefore x later)
    · next fails =>
      rw [ih restOrdered]
      constructor
      · rintro ⟨member, holds, nearest⟩
        refine ⟨List.mem_cons_of_mem _ member, holds, fun y inside given => ?_⟩
        obtain rfl | later := List.mem_cons.mp inside
        · simp [given] at fails
        · exact nearest y later given
      · rintro ⟨member, holds, nearest⟩
        refine ⟨(List.mem_cons.mp member).resolve_left fun same => ?_, holds,
          fun y inside => nearest y (List.mem_cons_of_mem _ inside)⟩
        simp [← same, holds] at fails

/-- The last opening without a partner before an offset. -/
theorem openingBefore_eq_some_iff (different : o ≠ c) (t : Text) (offset : Int) (i : Nat) :
    openingBefore (delimitersOf o c) t offset = some i ↔
      IsGreatest {i : Nat | (i : Int) < offset ∧ IsUnclosed o c t i} i := by
  rw [openingBefore, find?_eq_some_iff_of_pairwise (leftover_descending t).1]
  simp only [mem_openings_iff different, decide_eq_true_eq, IsGreatest, upperBounds, Set.mem_ofPred_eq]
  constructor
  · rintro ⟨none, inside, nearest⟩
    refine ⟨⟨inside, none⟩, fun j unclosed => ?_⟩
    have := nearest j unclosed.2 unclosed.1
    omega
  · rintro ⟨⟨inside, none⟩, nearest⟩
    refine ⟨none, inside, fun j other before => ?_⟩
    have := nearest ⟨before, other⟩
    omega

/-- The first closing without a partner from an offset on. -/
theorem closingFrom_eq_some_iff (different : o ≠ c) (t : Text) (offset : Int) (j : Nat) :
    closingFrom (delimitersOf o c) t offset = some j ↔
      IsLeast {j : Nat | offset ≤ j ∧ IsUnopened o c t j} j := by
  have ascending : (leftover (delimitersOf o c) t).closings.reverse.Pairwise (· < ·) :=
    List.pairwise_reverse.mpr (leftover_descending t).2
  rw [closingFrom, find?_eq_some_iff_of_pairwise ascending]
  simp only [List.mem_reverse, mem_closings_iff different, decide_eq_true_eq, IsLeast, lowerBounds,
    Set.mem_ofPred_eq]
  constructor
  · rintro ⟨none, inside, nearest⟩
    refine ⟨⟨inside, none⟩, fun i unopened => ?_⟩
    have := nearest i unopened.2 unopened.1
    omega
  · rintro ⟨⟨inside, none⟩, nearest⟩
    refine ⟨none, inside, fun i other after => ?_⟩
    have := nearest ⟨after, other⟩
    omega

theorem openingBefore_eq_none_iff_forall (different : o ≠ c) (t : Text) (offset : Int) :
    openingBefore (delimitersOf o c) t offset = none ↔
      ∀ i : Nat, (i : Int) < offset → ¬ IsUnclosed o c t i := by
  rw [openingBefore, List.find?_eq_none]
  simp only [mem_openings_iff different, decide_eq_true_eq]
  exact forall_congr' fun i => imp_not_comm

theorem closingFrom_eq_none_iff_forall (different : o ≠ c) (t : Text) (offset : Int) :
    closingFrom (delimitersOf o c) t offset = none ↔
      ∀ j : Nat, offset ≤ j → ¬ IsUnopened o c t j := by
  rw [closingFrom, List.find?_eq_none]
  simp only [List.mem_reverse, mem_closings_iff different, decide_eq_true_eq]
  exact forall_congr' fun j => imp_not_comm

theorem IsUnclosed.inside {t : Text} {i : Nat} (none : IsUnclosed o c t i) : i ≤ t.length :=
  (List.getElem?_eq_some_iff.mp none.isOpening).1.le

theorem IsUnopened.inside {t : Text} {j : Nat} (none : IsUnopened o c t j) : j ≤ t.length :=
  (List.getElem?_eq_some_iff.mp none.isClosing).1.le

end Pairing.Scan

namespace Pairing

open Scan

/-- A reported delimiter stands at an offset of a text: on the line that has so many newlines before it,
and in the column that has so many units of its line before it. -/
structure Unmatched.StandsAt (found : Unmatched) (delimiters : Delimiters) (t : Text) (i : Nat) :
    Prop where
  /-- It is one of these delimiters. -/
  delimiters : found.delimiters = delimiters
  /-- Its line and its column. -/
  position : found.position =
    ⟨((t.take i).count Text.newline : Nat), ((Text.lastLine (t.take i)).length : Nat)⟩
  /-- The offset of its position. -/
  offset : t.offsetAt found.position = i

theorem Scan.unmatchedAt_standsAt (delimiters : Delimiters) {t : Text} {i : Nat} (inside : i ≤ t.length) :
    (unmatchedAt delimiters t i).StandsAt delimiters t i := by
  refine ⟨rfl, ?_, Text.offsetAt_positionAt inside⟩
  have position := Text.positionAt_append (t.take i) (t.drop i)
  rw [List.take_append_drop, List.length_take, Nat.min_eq_left inside] at position
  exact position

/-- **The scan reports the nearest delimiters without a partner.** For an opening and a closing of one
unit, the oracle that scans the lines of a buffer reports the last opening without a partner before a
place and the first closing without one from there on. It reports nothing only where there is none. -/
theorem Oracle.ofLines_reports_unmatched {o c : UInt16} (different : o ≠ c) (lines : List Text)
    (earlier : List OracleCall) (place : Position) :
    let oracle := Oracle.ofLines lines
    let t := Text.join [Text.newline] lines
    let here := t.offsetAt place
    (∃ answer, oracle.unmatchedOpening earlier ⟨[o], [c]⟩ place = .ok answer ∧
      (answer = none ↔ ∀ i : Nat, (i : Int) < here → ¬ IsUnclosed o c t i) ∧
      ∀ found, answer = some found → ∃ i,
        IsGreatest {i : Nat | (i : Int) < here ∧ IsUnclosed o c t i} i ∧
          found.StandsAt ⟨[o], [c]⟩ t i) ∧
    ∃ answer, oracle.unmatchedClosing earlier ⟨[o], [c]⟩ place = .ok answer ∧
      (answer = none ↔ ∀ j : Nat, here ≤ j → ¬ IsUnopened o c t j) ∧
      ∀ found, answer = some found → ∃ j,
        IsLeast {j : Nat | here ≤ j ∧ IsUnopened o c t j} j ∧ found.StandsAt ⟨[o], [c]⟩ t j := by
  intro oracle t here
  refine ⟨⟨_, rfl, ?_, fun found reported => ?_⟩, _, rfl, ?_, fun found reported => ?_⟩
  · rw [Option.map_eq_none_iff]
    exact openingBefore_eq_none_iff_forall different t here
  · obtain ⟨i, nearest, rfl⟩ := Option.map_eq_some_iff.mp reported
    have greatest := (openingBefore_eq_some_iff different t here i).mp nearest
    exact ⟨i, greatest, unmatchedAt_standsAt _ greatest.1.2.inside⟩
  · rw [Option.map_eq_none_iff]
    exact closingFrom_eq_none_iff_forall different t here
  · obtain ⟨j, nearest, rfl⟩ := Option.map_eq_some_iff.mp reported
    have least := (closingFrom_eq_some_iff different t here j).mp nearest
    exact ⟨j, least, unmatchedAt_standsAt _ least.1.2.inside⟩

/-- Two openings of the first line have no partner. The one nearer to the place is reported. -/
theorem Oracle.ofLines_reports_nearest :
    let lines : List Text := ["((a)(", "  ((b))", "("]
    let t := Text.join [Text.newline] lines
    (0x28 : UInt16) ≠ 0x29 ∧
      ∃ found, (Oracle.ofLines lines).unmatchedOpening [] ⟨[0x28], [0x29]⟩ ⟨1, 7⟩ = .ok (some found) ∧
        found.StandsAt ⟨[0x28], [0x29]⟩ t 4 ∧
        IsGreatest {i : Nat | (i : Int) < 13 ∧ IsUnclosed 0x28 0x29 t i} 4 := by
  intro lines t
  have different : (0x28 : UInt16) ≠ 0x29 := by decide
  have here : t.offsetAt ⟨1, 7⟩ = 13 := by decide +kernel
  have last : openingBefore ⟨[0x28], [0x29]⟩ t (t.offsetAt ⟨1, 7⟩) = some 4 := by decide +kernel
  have scanned : (Oracle.ofLines lines).unmatchedOpening [] ⟨[0x28], [0x29]⟩ ⟨1, 7⟩ =
      .ok (some (unmatchedAt ⟨[0x28], [0x29]⟩ t 4)) := by
    show Except.ok ((openingBefore ⟨[0x28], [0x29]⟩ t (t.offsetAt ⟨1, 7⟩)).map
      (unmatchedAt ⟨[0x28], [0x29]⟩ t)) = _
    rw [last]
    rfl
  obtain ⟨⟨answer, answered, _, reports⟩, _⟩ :=
    Oracle.ofLines_reports_unmatched different lines [] ⟨1, 7⟩
  obtain ⟨i, greatest, stands⟩ := reports _ (Except.ok.inj (answered.symm.trans scanned))
  have stands4 := unmatchedAt_standsAt ⟨[0x28], [0x29]⟩ (show 4 ≤ t.length by decide)
  obtain rfl : i = 4 := by
    have := stands.offset.symm.trans stands4.offset
    omega
  rw [here] at greatest
  exact ⟨different, _, scanned, stands, greatest⟩

end Pairing
