/-
**Cuts between code points.**

A text is cut into units, and a cut may part a surrogate pair. It does so only between a unit that opens a pair
and one that closes it. All other cuts leave the code points on both sides as they are:

* `Text.MeetInPair`: two texts of which the first ends in a pair that the second ends;
* `Text.codePoints_append`: the code points of two texts that do not meet so;
* `Text.isWellFormed_append_iff`: such texts hold no unpaired surrogate if they hold none together;
* `Text.IsWellFormed.not_meetInPair_of_suffix`, `Text.IsWellFormed.not_meetInPair_of_prefix`: the ends of a text
  without unpaired surrogates meet no text so;
* `Text.IsBoundary`: a place between two code points.
-/

import Pairing.Proofs.Position.Cut
import Pairing.Text.CodePoint

namespace Pairing.Text

/-- A surrogate pair lies across the place where two texts meet. -/
def MeetInPair (a b : Text) : Prop :=
  ∃ leading trailing, a.getLast? = some leading ∧ b.head? = some trailing ∧
    isLeading leading = true ∧ isTrailing trailing = true

/-- A place between two code points of a text. -/
def IsBoundary (t : Text) (n : Nat) : Prop :=
  t.codePoints = codePoints (t.take n) ++ codePoints (t.drop n)

instance (t : Text) (n : Nat) : Decidable (t.IsBoundary n) :=
  inferInstanceAs (Decidable (t.codePoints = codePoints (t.take n) ++ codePoints (t.drop n)))

variable {a b t : Text}

/-! ### Units -/

theorem isSurrogate_toNat (unit : UInt16) : isSurrogate unit.toNat = (isLeading unit || isTrailing unit) := by
  rw [Bool.eq_iff_iff]
  simp only [isSurrogate, isLeading, isTrailing, UInt16.le_iff_toNat_le, UInt16.reduceToNat, Bool.or_eq_true,
    Bool.and_eq_true, decide_eq_true_eq]
  omega

theorem isTrailing_of_isLeading {unit : UInt16} (leading : isLeading unit = true) : isTrailing unit = false := by
  simp only [isLeading, isTrailing, UInt16.le_iff_toNat_le, UInt16.reduceToNat, Bool.and_eq_true,
    Bool.and_eq_false_iff, decide_eq_true_eq, decide_eq_false_iff_not] at leading ⊢
  omega

/-! ### Texts put together -/

theorem MeetInPair.cons (meet : MeetInPair a b) (unit : UInt16) : MeetInPair (unit :: a) b := by
  obtain ⟨leading, trailing, last, first, pair⟩ := meet
  exact ⟨leading, trailing, by rw [List.getLast?_cons, last, Option.getD_some], first, pair⟩

/-- Where no pair lies across, the code points of two texts stay as they are. -/
theorem codePoints_append (apart : ¬ MeetInPair a b) : codePoints (a ++ b) = a.codePoints ++ b.codePoints := by
  fun_induction codePoints a with
  | case1 => rfl
  | case2 unit =>
    cases b with
    | nil => rfl
    | cons next rest =>
      have notPair : ¬ (isLeading unit && isTrailing next) = true := fun pair =>
        apart ⟨unit, next, rfl, rfl, Bool.and_eq_true_iff.mp pair⟩
      rw [List.singleton_append, codePoints, if_neg notPair]
      rfl
  | case3 first second rest pair ih =>
    rw [List.cons_append, List.cons_append, codePoints, if_pos pair,
      ih fun meet => apart ((meet.cons second).cons first)]
    rfl
  | case4 first second rest notPair ih =>
    have restApart : ¬ MeetInPair (second :: rest) b := fun meet => apart (meet.cons first)
    rw [List.cons_append, List.cons_append, codePoints, if_neg notPair, ← List.cons_append, ih restApart]
    rfl

/-- Where no pair lies across, two texts hold no unpaired surrogate if they hold none together. -/
theorem isWellFormed_append_iff (apart : ¬ MeetInPair a b) :
    (a ++ b).IsWellFormed ↔ a.IsWellFormed ∧ b.IsWellFormed := by
  rw [IsWellFormed, codePoints_append apart, List.forall_mem_append]
  rfl

theorem isBoundary_append (apart : ¬ MeetInPair a b) : (a ++ b).IsBoundary a.length := by
  rw [IsBoundary, List.take_left, List.drop_left]
  exact codePoints_append apart

theorem isWellFormed_space : IsWellFormed [space] := by
  decide

theorem isWellFormed_newline : IsWellFormed [newline] := by
  decide

namespace IsWellFormed

theorem nil : IsWellFormed [] :=
  List.forall_mem_nil _

/-- Between two code points, a text is cut into two that hold no unpaired surrogate. -/
theorem split (whole : t.IsWellFormed) {n : Nat} (boundary : t.IsBoundary n) :
    IsWellFormed (t.take n) ∧ IsWellFormed (t.drop n) := by
  rw [IsWellFormed, boundary] at whole
  exact List.forall_mem_append.mp whole

/-- The last unit of a text does not open a pair. -/
theorem isLeading_last (whole : t.IsWellFormed) {unit : UInt16} (last : t.getLast? = some unit) :
    isLeading unit = false := by
  rw [IsWellFormed] at whole
  fun_induction codePoints t with
  | case1 => cases last
  | case2 only =>
    obtain rfl := Option.some.inj last
    have plain := whole only.toNat (List.mem_singleton_self _)
    rw [isSurrogate_toNat, Bool.or_eq_false_iff] at plain
    exact plain.1
  | case3 first second rest pair ih =>
    cases rest with
    | nil =>
      obtain rfl : second = unit := Option.some.inj last
      by_contra leading
      rw [Bool.not_eq_false] at leading
      rw [isTrailing_of_isLeading leading, Bool.and_false] at pair
      exact Bool.false_ne_true pair
    | cons next others => exact ih (List.forall_mem_cons.mp whole).2 last
  | case4 first second rest notPair ih => exact ih (List.forall_mem_cons.mp whole).2 last

/-- The first unit of a text does not close a pair. -/
theorem isTrailing_first (whole : t.IsWellFormed) {unit : UInt16} (first : t.head? = some unit) :
    isTrailing unit = false := by
  rw [IsWellFormed] at whole
  have plain {only : UInt16} (alone : isSurrogate only.toNat = false) : isTrailing only = false := by
    rw [isSurrogate_toNat, Bool.or_eq_false_iff] at alone
    exact alone.2
  fun_cases codePoints t with
  | case1 => cases first
  | case2 only =>
    obtain rfl := Option.some.inj first
    exact plain (whole only.toNat (List.mem_singleton_self _))
  | case3 leading second rest pair =>
    obtain rfl := Option.some.inj first
    exact isTrailing_of_isLeading (Bool.and_eq_true_iff.mp pair).1
  | case4 only second rest notPair =>
    obtain rfl := Option.some.inj first
    rw [codePoints, if_neg notPair] at whole
    exact plain (List.forall_mem_cons.mp whole).1

/-- No pair goes on behind what a text without unpaired surrogates ends with. -/
theorem not_meetInPair_of_suffix (whole : t.IsWellFormed) (ends : a <:+ t) : ¬ MeetInPair a b := by
  rintro ⟨leading, trailing, last, -, opens, -⟩
  obtain ⟨front, rfl⟩ := ends
  have lastOfAll : (front ++ a).getLast? = some leading := by rw [List.getLast?_append, last, Option.some_or]
  rw [whole.isLeading_last lastOfAll] at opens
  exact Bool.false_ne_true opens

/-- No pair starts in front of what a text without unpaired surrogates starts with. -/
theorem not_meetInPair_of_prefix (whole : t.IsWellFormed) (starts : b <+: t) : ¬ MeetInPair a b := by
  rintro ⟨leading, trailing, -, first, -, closes⟩
  obtain ⟨rest, rfl⟩ := starts
  have firstOfAll : (b ++ rest).head? = some trailing := by rw [List.head?_append, first, Option.some_or]
  rw [whole.isTrailing_first firstOfAll] at closes
  exact Bool.false_ne_true closes

theorem not_meetInPair (whole : a.IsWellFormed) : ¬ MeetInPair a b :=
  whole.not_meetInPair_of_suffix (List.suffix_refl a)

theorem not_meetInPair_left (whole : b.IsWellFormed) : ¬ MeetInPair a b :=
  whole.not_meetInPair_of_prefix (List.prefix_refl b)

theorem append (left : a.IsWellFormed) (right : b.IsWellFormed) : (a ++ b).IsWellFormed :=
  (isWellFormed_append_iff left.not_meetInPair).mpr ⟨left, right⟩

/-- What a text without unpaired surrogates starts with can be taken off. -/
theorem of_append (whole : (a ++ b).IsWellFormed) (left : a.IsWellFormed) : b.IsWellFormed :=
  ((isWellFormed_append_iff left.not_meetInPair).mp whole).2

/-- So can what it ends with. -/
theorem of_append_left (whole : (a ++ b).IsWellFormed) (right : b.IsWellFormed) : a.IsWellFormed :=
  ((isWellFormed_append_iff right.not_meetInPair_left).mp whole).1

/-- A text of units that are no surrogates. -/
theorem of_plain (plain : ∀ unit ∈ t, isSurrogate unit.toNat = false) : t.IsWellFormed := by
  induction t with
  | nil => exact nil
  | cons unit rest ih =>
    obtain ⟨first, others⟩ := List.forall_mem_cons.mp plain
    have alone : IsWellFormed [unit] := List.forall_mem_singleton.mpr first
    exact alone.append (ih others)

end IsWellFormed

/-! ### Lines -/

/-- No pair goes on behind a newline. -/
theorem EndsLine.not_meetInPair (whole : EndsLine a) : ¬ MeetInPair a b := by
  rintro ⟨leading, trailing, last, -, opens, -⟩
  obtain rfl | ⟨rest, rfl⟩ := whole
  · cases last
  · rw [List.getLast?_concat, Option.some_inj] at last
    rw [← last] at opens
    exact absurd opens (by decide)

/-- The end of a text, from after its last newline, is cut off between code points. -/
theorem IsWellFormed.lastLine (whole : t.IsWellFormed) : t.lastLine.IsWellFormed := by
  obtain ⟨above, endsLine, parts, -, -⟩ := exists_endsLine_append t
  rw [parts] at whole
  exact ((isWellFormed_append_iff endsLine.not_meetInPair).mp whole).2

/-- So is its beginning, up to the first newline. -/
theorem IsWellFormed.firstLine (whole : t.IsWellFormed) : t.firstLine.IsWellFormed := by
  obtain ⟨rest, parts, ends⟩ := exists_firstLine_append t
  have apart : ¬ MeetInPair t.firstLine rest := by
    rintro ⟨leading, trailing, -, first, -, closes⟩
    obtain rfl | next := ends
    · cases first
    · rw [next, Option.some_inj] at first
      rw [← first] at closes
      exact absurd closes (by decide)
  rw [parts] at whole
  exact ((isWellFormed_append_iff apart).mp whole).1

end Pairing.Text
