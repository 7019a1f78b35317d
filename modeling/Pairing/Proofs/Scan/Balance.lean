/-
**Counting what a scan leaves over.**

For an opening and a closing of one unit each, what a scan leaves over of a text is a number of closings
and then a number of openings, and these two numbers say how the text fits between others:

* `Scan.unopened`, `Scan.unclosed`: the closings and the openings left over;
* `Scan.unopened_append`, `Scan.unclosed_append`: openings on the left are used up by closings on the
  right;
* `Scan.Adds`, `Scan.exists_adds`: the scan itself, from any leftover on;
* `Scan.openingBefore_eq_none_iff`, `Scan.closingFrom_eq_none_iff`: when nothing is left over on one side
  of a cut;
* `Scan.Fits`: as many openings wait before a cut as closings come after it.
-/

import Pairing.Oracle.Scan

namespace Pairing.Scan

variable {o c : UInt16}

/-- The closings without an opening in a text. -/
def unopened (o c : UInt16) : Text → Nat
  | [] => 0
  | unit :: rest =>
    if unit = o then unopened o c rest - 1
    else if unit = c then unopened o c rest + 1
    else unopened o c rest

/-- The openings without a closing in a text. -/
def unclosed (o c : UInt16) : Text → Nat
  | [] => 0
  | unit :: rest =>
    if unit = o then unclosed o c rest + (1 - unopened o c rest)
    else unclosed o c rest

theorem unopened_append (o c : UInt16) (a b : Text) :
    unopened o c (a ++ b) = unopened o c a + (unopened o c b - unclosed o c a) := by
  induction a with
  | nil => simp [unopened, unclosed]
  | cons unit rest ih =>
    simp only [List.cons_append, unopened, unclosed]
    split
    · omega
    split
    · omega
    · exact ih

theorem unclosed_append (o c : UInt16) (a b : Text) :
    unclosed o c (a ++ b) = unclosed o c b + (unclosed o c a - unopened o c b) := by
  induction a with
  | nil => simp [unclosed]
  | cons unit rest ih =>
    have strays := unopened_append o c rest b
    simp only [List.cons_append, unclosed]
    split
    · omega
    · exact ih

/-! ### One more unit -/

theorem unopened_cons_opening (t : Text) : unopened o c (o :: t) = unopened o c t - 1 := by
  simp [unopened]

theorem unopened_cons_closing (different : o ≠ c) (t : Text) :
    unopened o c (c :: t) = unopened o c t + 1 := by
  simp [unopened, different.symm]

theorem unopened_cons_other {unit : UInt16} (notOpening : unit ≠ o) (notClosing : unit ≠ c)
    (t : Text) : unopened o c (unit :: t) = unopened o c t := by
  simp [unopened, notOpening, notClosing]

theorem unclosed_append_opening (t : Text) : unclosed o c (t ++ [o]) = unclosed o c t + 1 := by
  rw [unclosed_append]
  simp only [unclosed, unopened, if_true]
  omega

theorem unclosed_append_closing (different : o ≠ c) (t : Text) :
    unclosed o c (t ++ [c]) = unclosed o c t - 1 := by
  rw [unclosed_append]
  simp [unclosed, unopened, different.symm]

theorem unclosed_append_other {unit : UInt16} (notOpening : unit ≠ o) (notClosing : unit ≠ c)
    (t : Text) : unclosed o c (t ++ [unit]) = unclosed o c t := by
  rw [unclosed_append]
  simp [unclosed, unopened, notOpening, notClosing]

/-! ### The scan -/

/-- The delimiters of a pair of units. -/
def delimitersOf (o c : UInt16) : Delimiters :=
  ⟨[o], [c]⟩

/-- With delimiters of one unit, no unit is skipped. -/
theorem run_cons (offset : Nat) (found : Leftover) (unit : UInt16) (rest : Text) :
    run (delimitersOf o c) offset 0 found (unit :: rest) =
      run (delimitersOf o c) (offset + 1) 0
        (if unit = o then { found with openings := offset :: found.openings }
        else if unit = c then found.close offset
        else found) rest := by
  rw [run]
  by_cases opening : unit = o
  · simp [delimitersOf, opening]
  by_cases closing : unit = c
  · subst closing
    simp [delimitersOf, opening, Ne.symm opening]
  · simp [delimitersOf, opening, closing, Ne.symm opening, Ne.symm closing]

theorem run_append (offset : Nat) (found : Leftover) (a b : Text) :
    run (delimitersOf o c) offset 0 found (a ++ b) =
      run (delimitersOf o c) (offset + a.length) 0 (run (delimitersOf o c) offset 0 found a) b := by
  induction a generalizing offset found with
  | nil => rfl
  | cons unit rest ih =>
    rw [List.cons_append, run_cons, run_cons, ih, List.length_cons]
    congr 1
    omega

/-- How a text at an offset changes what is left over: by openings and closings of its own. -/
structure Adds (o c : UInt16) (offset : Nat) (t : Text) (before after : Leftover)
    (waiting strays : List Nat) : Prop where
  /-- The openings before the text are used up by its closings, the last one first. -/
  openings : after.openings = waiting ++ before.openings.drop (unopened o c t)
  /-- The closings are added to those before the text. -/
  closings : after.closings = strays ++ before.closings
  /-- How many openings the text adds. -/
  numberWaiting : waiting.length = unclosed o c t
  /-- How many closings find no opening. -/
  numberStrays : strays.length = unopened o c t - before.openings.length
  /-- All of them are in the text. -/
  inside : ∀ i ∈ waiting ++ strays, offset ≤ i ∧ i < offset + t.length

namespace Adds

variable {offset : Nat} {rest : Text} {before after : Leftover} {waiting strays : List Nat}

/-- What is in the rest of a text is in the text. -/
theorem inside_cons (unit : UInt16) (adds : Adds o c (offset + 1) rest before after waiting strays) :
    ∀ i ∈ waiting ++ strays, offset ≤ i ∧ i < offset + (unit :: rest).length := by
  intro i member
  have := adds.inside i member
  rw [List.length_cons]
  omega

/-- An opening waits for the rest of the text to close it. -/
theorem cons_opening {found : Leftover}
    (adds : Adds o c (offset + 1) rest { found with openings := offset :: found.openings } after
      waiting strays) : ∃ waiting, Adds o c offset (o :: rest) found after waiting strays := by
  have openings := adds.openings
  have numberWaiting := adds.numberWaiting
  have numberStrays := adds.numberStrays
  have inside := adds.inside_cons o
  have counts := unopened_cons_opening (o := o) (c := c) rest
  have counted : unclosed o c (o :: rest) = unclosed o c rest + (1 - unopened o c rest) := by
    simp [unclosed]
  cases closings : unopened o c rest with
  | zero =>
    simp only [closings, List.drop_zero, List.length_cons] at openings numberStrays counts counted
    refine ⟨waiting ++ [offset], ?_, adds.closings, ?_, ?_, ?_⟩
    · rw [openings, counts, List.append_assoc, List.singleton_append, List.drop_zero]
    · rw [List.length_append, numberWaiting, counted, List.length_singleton]
    · rw [numberStrays, counts]
      omega
    · rw [List.length_cons] at inside ⊢
      intro i member
      rw [List.append_assoc, List.singleton_append, List.mem_append, List.mem_cons] at member
      rcases member with isWaiting | rfl | isStray
      · exact inside i (List.mem_append_left _ isWaiting)
      · omega
      · exact inside i (List.mem_append_right _ isStray)
  | succ others =>
    simp only [closings, List.drop_succ_cons, List.length_cons] at openings numberStrays counts counted
    refine ⟨waiting, ?_, adds.closings, ?_, ?_, inside⟩
    · rw [openings, counts, Nat.add_sub_cancel]
    · rw [numberWaiting, counted]
      omega
    · rw [numberStrays, counts]
      omega

/-- A closing uses up the last opening before it, or is stray. -/
theorem cons_closing (different : o ≠ c)
    (adds : Adds o c (offset + 1) rest (before.close offset) after waiting strays) :
    ∃ strays, Adds o c offset (c :: rest) before after waiting strays := by
  obtain ⟨waitingBefore, straysBefore⟩ := before
  have openings := adds.openings
  have closings := adds.closings
  have numberStrays := adds.numberStrays
  have inside := adds.inside_cons c
  have counts := unopened_cons_closing different rest
  have numberWaiting : waiting.length = unclosed o c (c :: rest) := by
    simp [adds.numberWaiting, unclosed, different.symm]
  cases waitingBefore with
  | nil =>
    simp only [Leftover.close, List.drop_nil, List.length_nil] at openings closings numberStrays
    refine ⟨strays ++ [offset], ?_, ?_, numberWaiting, ?_, ?_⟩
    · rw [openings, List.drop_nil]
    · rw [closings, List.append_assoc, List.singleton_append]
    · rw [List.length_append, numberStrays, counts, List.length_singleton, List.length_nil]
      omega
    · rw [List.length_cons] at inside ⊢
      intro i member
      rw [← List.append_assoc, List.mem_append, List.mem_singleton] at member
      rcases member with isInside | rfl
      · exact inside i isInside
      · omega
  | cons last others =>
    simp only [Leftover.close] at openings closings numberStrays
    refine ⟨strays, ?_, closings, numberWaiting, ?_, inside⟩
    · rw [openings, counts, List.drop_succ_cons]
    · rw [numberStrays, counts, List.length_cons]
      omega

/-- Another unit changes nothing. -/
theorem cons_other {unit : UInt16} (notOpening : unit ≠ o) (notClosing : unit ≠ c)
    (adds : Adds o c (offset + 1) rest before after waiting strays) :
    Adds o c offset (unit :: rest) before after waiting strays := by
  have counts := unopened_cons_other notOpening notClosing rest
  refine ⟨counts ▸ adds.openings, adds.closings, ?_, counts ▸ adds.numberStrays,
    adds.inside_cons unit⟩
  simp [adds.numberWaiting, unclosed, notOpening]

end Adds

/-- The scan of a text, whatever was left over before it. -/
theorem exists_adds (different : o ≠ c) (offset : Nat) (found : Leftover) (t : Text) :
    ∃ waiting strays,
      Adds o c offset t found (run (delimitersOf o c) offset 0 found t) waiting strays := by
  induction t generalizing offset found with
  | nil => exact ⟨[], [], by simp [unopened, run], by simp [run], rfl, by simp [unopened], by simp⟩
  | cons unit rest ih =>
    rw [run_cons]
    split
    · next opening =>
      subst opening
      obtain ⟨waiting, strays, adds⟩ := ih (offset + 1) { found with openings := offset :: found.openings }
      obtain ⟨waiting, adds⟩ := adds.cons_opening
      exact ⟨waiting, strays, adds⟩
    next notOpening =>
    split
    · next closing =>
      subst closing
      obtain ⟨waiting, strays, adds⟩ := ih (offset + 1) (found.close offset)
      obtain ⟨strays, adds⟩ := adds.cons_closing different
      exact ⟨waiting, strays, adds⟩
    · next notClosing =>
      obtain ⟨waiting, strays, adds⟩ := ih (offset + 1) found
      exact ⟨waiting, strays, adds.cons_other notOpening notClosing⟩

/-! ### A cut -/

/-- What the scan of a cut text leaves over: openings and closings on both sides of the cut. -/
theorem exists_leftover_append (different : o ≠ c) (a b : Text) :
    ∃ waitingLeft waitingRight straysLeft straysRight : List Nat,
      leftover (delimitersOf o c) (a ++ b) =
        ⟨waitingRight ++ waitingLeft.drop (unopened o c b), straysRight ++ straysLeft⟩ ∧
      waitingLeft.length = unclosed o c a ∧
      straysRight.length = unopened o c b - unclosed o c a ∧
      (∀ i ∈ waitingLeft ++ straysLeft, i < a.length) ∧
      ∀ i ∈ waitingRight ++ straysRight, a.length ≤ i := by
  obtain ⟨waitingLeft, straysLeft, left⟩ := exists_adds different 0 ⟨[], []⟩ a
  obtain ⟨waitingRight, straysRight, right⟩ := exists_adds different a.length
    (run (delimitersOf o c) 0 0 ⟨[], []⟩ a) b
  have openingsLeft := left.openings
  have closingsLeft := left.closings
  rw [List.drop_nil, List.append_nil] at openingsLeft
  rw [List.append_nil] at closingsLeft
  refine ⟨waitingLeft, waitingRight, straysLeft, straysRight, ?_, left.numberWaiting, ?_, ?_, ?_⟩
  · have openings := right.openings
    have closings := right.closings
    rw [openingsLeft] at openings
    rw [closingsLeft] at closings
    rw [leftover, run_append, Nat.zero_add, ← openings, ← closings]
  · rw [right.numberStrays, openingsLeft, left.numberWaiting]
  · intro i member
    have := left.inside i member
    omega
  · exact fun i member => (right.inside i member).1

/-- No opening is left over before a cut if the closings after it use them up. -/
theorem openingBefore_eq_none_iff (different : o ≠ c) (a b : Text) :
    openingBefore (delimitersOf o c) (a ++ b) a.length = none ↔ unclosed o c a ≤ unopened o c b := by
  obtain ⟨waitingLeft, waitingRight, straysLeft, straysRight, scanned, number, _, left, right⟩ :=
    exists_leftover_append different a b
  rw [openingBefore, scanned, List.find?_eq_none, ← number, ← List.drop_eq_nil_iff]
  simp only [decide_eq_true_eq, Int.ofNat_lt, List.mem_append] at left right ⊢
  constructor
  · intro none
    refine List.eq_nil_iff_forall_not_mem.mpr fun i member => ?_
    exact none i (Or.inr member) (left i (Or.inl (List.mem_of_mem_drop member)))
  · intro usedUp i member
    rw [usedUp] at member
    have := right i (Or.inl (member.resolve_right List.not_mem_nil))
    omega

/-- No closing is left over after a cut if the openings before it use them up. -/
theorem closingFrom_eq_none_iff (different : o ≠ c) (a b : Text) :
    closingFrom (delimitersOf o c) (a ++ b) a.length = none ↔ unopened o c b ≤ unclosed o c a := by
  obtain ⟨waitingLeft, waitingRight, straysLeft, straysRight, scanned, _, number, left, right⟩ :=
    exists_leftover_append different a b
  rw [closingFrom, scanned, List.find?_eq_none, ← Nat.sub_eq_zero_iff_le, ← number,
    List.length_eq_zero_iff]
  simp only [decide_eq_true_eq, Int.ofNat_le, List.mem_reverse, List.mem_append] at left right ⊢
  constructor
  · intro none
    refine List.eq_nil_iff_forall_not_mem.mpr fun i member => ?_
    exact none i (Or.inl member) (right i (Or.inr member))
  · intro usedUp i member
    rw [usedUp] at member
    have := left i (Or.inr (member.resolve_left List.not_mem_nil))
    omega

/-! ### Cuts where nothing is left over -/

/-- As many openings wait before a cut as closings come after it. -/
def Fits (o c : UInt16) (a b : Text) : Prop :=
  unclosed o c a = unopened o c b

theorem fits_iff (different : o ≠ c) (a b : Text) :
    Fits o c a b ↔ openingBefore (delimitersOf o c) (a ++ b) a.length = none ∧
      closingFrom (delimitersOf o c) (a ++ b) a.length = none := by
  rw [openingBefore_eq_none_iff different, closingFrom_eq_none_iff different, Fits]
  omega

namespace Fits

variable {a b : Text}

/-- An opening before a cut fits a closing after it. -/
theorem insertPair (different : o ≠ c) (fits : Fits o c a b) : Fits o c (a ++ [o]) (c :: b) := by
  rw [Fits, unclosed_append_opening, unopened_cons_closing different, fits]

/-- The cut moves over a closing. -/
theorem passClosing (different : o ≠ c) (fits : Fits o c a (c :: b)) : Fits o c (a ++ [c]) b := by
  rw [Fits, unopened_cons_closing different] at fits
  rw [Fits, unclosed_append_closing different, fits, Nat.add_sub_cancel]

/-- Units that are no delimiters fit anywhere. -/
theorem append_other {unit : UInt16} (notOpening : unit ≠ o) (notClosing : unit ≠ c) :
    Fits o c (a ++ [unit]) b ↔ Fits o c a b := by
  rw [Fits, unclosed_append_other notOpening notClosing, Fits]

theorem cons_other {unit : UInt16} (notOpening : unit ≠ o) (notClosing : unit ≠ c) :
    Fits o c a (unit :: b) ↔ Fits o c a b := by
  rw [Fits, unopened_cons_other notOpening notClosing, Fits]

end Fits

end Pairing.Scan
