/-
**Brackets and the balance of a text.**

Who types an opening or a closing wants the text to be balanced, so a press never leaves more over than
there was, but for a closing that nothing asks for. With one pair of single units as the rules, whatever
the text and wherever in it the cursor stands:

* `Scan.balance_insertPair`, `Scan.balance_insertOpening`, `Scan.balance_insertClosing`: what an insertion
  at a cut does to what is left over, through the whole rest of the text;
* `IsBracketPair`: the two units, with `IsBracketPair.compile` and `IsBracketPair.reachesPair`;
* `IsBracketPair.editOn_opening`, `IsBracketPair.editOn_closing`: the edits, told by what is left over;
* `IsBracketPair.press_balance`: what a press does to the numbers of openings and closings left over.
-/

import Pairing.Proofs.Scan.Unmatched
import Pairing.Proofs.Typing.Press

namespace Pairing

open Text Scan Buffer

/-! ### Insertions at a cut -/

namespace Scan

variable {o c : UInt16}

/-- What is left over of a text: so many openings, and so many closings. -/
def balance (o c : UInt16) (t : Text) : Nat × Nat :=
  ((leftover (delimitersOf o c) t).openings.length, (leftover (delimitersOf o c) t).closings.length)

theorem balance_append (different : o ≠ c) (a b : Text) :
    balance o c (a ++ b) = (unclosed o c b + (unclosed o c a - unopened o c b),
      unopened o c a + (unopened o c b - unclosed o c a)) := by
  rw [balance, (length_leftover different _).1, (length_leftover different _).2, unclosed_append,
    unopened_append]

/-- A pair leaves nothing over and changes nothing. -/
theorem balance_insertPair (different : o ≠ c) (a b : Text) :
    balance o c (a ++ [o, c] ++ b) = balance o c (a ++ b) := by
  have added : unclosed o c (a ++ [o, c]) = unclosed o c a ∧ unopened o c (a ++ [o, c]) = unopened o c a := by
    rw [unclosed_append, unopened_append]
    simp [unclosed, unopened, different.symm]
  rw [balance_append different, balance_append different, added.1, added.2]

/-- An opening is used up by a closing that waits for one after the cut. -/
theorem balance_insertOpening (different : o ≠ c) {a b : Text} (waits : unclosed o c a < unopened o c b) :
    (balance o c (a ++ [o] ++ b)).1 = (balance o c (a ++ b)).1 ∧
      (balance o c (a ++ [o] ++ b)).2 + 1 = (balance o c (a ++ b)).2 := by
  have strays : unopened o c (a ++ [o]) = unopened o c a := by
    rw [unopened_append]
    simp [unopened]
  rw [balance_append different, balance_append different, unclosed_append_opening, strays]
  dsimp only
  omega

/-- A closing uses up an opening that waits for one before the cut, and otherwise is one too many. -/
theorem balance_insertClosing (different : o ≠ c) (a b : Text) :
    if unopened o c b < unclosed o c a then
      (balance o c (a ++ [c] ++ b)).1 + 1 = (balance o c (a ++ b)).1 ∧
        (balance o c (a ++ [c] ++ b)).2 = (balance o c (a ++ b)).2
    else
      (balance o c (a ++ [c] ++ b)).1 = (balance o c (a ++ b)).1 ∧
        (balance o c (a ++ [c] ++ b)).2 = (balance o c (a ++ b)).2 + 1 := by
  have strays : unopened o c (a ++ [c]) = unopened o c a + (1 - unclosed o c a) := by
    rw [unopened_append]
    simp [unopened, different.symm]
  rw [balance_append different, balance_append different, unclosed_append_closing different, strays]
  dsimp only
  split <;> omega

/-- An opening left over before a cut waits for a closing that does not come after it. -/
theorem exists_opening_iff (different : o ≠ c) (a b : Text) :
    (∃ i ∈ (leftover (delimitersOf o c) (a ++ b)).openings, (i : Int) < a.length) ↔
      unopened o c b < unclosed o c a := by
  rw [← not_le, ← openingBefore_eq_none_iff different, openingBefore, List.find?_eq_none]
  simp

/-- A closing left over after a cut waits for an opening that does not come before it. -/
theorem exists_closing_iff (different : o ≠ c) (a b : Text) :
    (∃ j ∈ (leftover (delimitersOf o c) (a ++ b)).closings, (a.length : Int) ≤ j) ↔
      unclosed o c a < unopened o c b := by
  rw [← not_le, ← closingFrom_eq_none_iff different, closingFrom, List.find?_eq_none]
  simp

end Scan

/-- A text that ends no line stands at the beginning of a text if it does so on the first line. -/
theorem Text.prefix_firstLine_iff {t rest : Text} (inLine : newline ∉ t) :
    t <+: rest.firstLine ↔ t <+: rest := by
  refine ⟨fun start => start.trans <| firstLine_prefix rest, fun ⟨others, parts⟩ => ?_⟩
  rw [← parts, firstLine_append others inLine]
  exact List.prefix_append t _

/-! ### The pair -/

/-- Two different units that stand for themselves in composed form, of which the closing ends no line. -/
structure IsBracketPair (o c : UInt16) : Prop where
  /-- The units are different. -/
  different : o ≠ c
  /-- The opening stands for itself. -/
  openingComposed : Text.composed [o] = [o]
  /-- The closing stands for itself. -/
  closingComposed : Text.composed [c] = [c]
  /-- The closing ends no line. -/
  closingInLine : c ≠ newline

/-- The definitions that declare a pair and nothing else. -/
def Definitions.ofPair (o c : UInt16) : Definitions :=
  [([o], .text [c])]

/-- The edit that is decided on for a key that inserts a character. The whole text is scanned for it. -/
def Buffer.editOn (index : RuleIndex) (situation : Situation) (buffer : Buffer) (unit : UInt16) : Edit :=
  (index.decide .printable [unit] (buffer.context situation (.ofLines buffer.text.lines))).edit

theorem Buffer.press_eq (index : RuleIndex) (situation : Situation) (buffer : Buffer) (unit : UInt16) :
    buffer.press index situation unit = buffer.apply (buffer.editOn index situation unit) := rfl

namespace IsBracketPair

variable {o c : UInt16}

/-- The definitions of a pair compile. -/
theorem compile (pair : IsBracketPair o c) :
    RuleIndex.compile (.ofPair o c) = .ok (.ofClosings [([o], [c])]) := by
  show RuleIndex.compile (.ofClosings [([o], [c])]) = _
  refine RuleIndex.compile_ofClosings fun key closing member => ?_
  obtain ⟨rfl, rfl⟩ := Prod.mk.inj (List.mem_singleton.mp member)
  refine ⟨?_, List.cons_ne_nil c []⟩
  simp [Text.isSingleCluster, pair.openingComposed, Text.clusters_singleton]

/-- Both units reach the rule of the pair. -/
theorem reachesPair (pair : IsBracketPair o c) {unit : UInt16} (ofPair : unit = o ∨ unit = c) :
    (RuleIndex.ofClosings [([o], [c])]).ReachesPair unit o c := by
  have reaches := (Rule.mem_reachingKeys_of_composed (o := o) pair.closingComposed 0).mpr ofPair
  constructor
  · refine List.ne_nil_of_mem (a := .ofClosing [o] [c] 0) ?_
    refine RuleIndex.mem_rulesFor_ofClosings.mpr ⟨⟨0, by simp, ?_⟩, reaches⟩
    simp [pair.openingComposed]
  · intro rule reached
    obtain ⟨⟨order, inside, rfl⟩, _⟩ := RuleIndex.mem_rulesFor_ofClosings.mp reached
    obtain rfl : order = 0 := by simpa using inside
    exact ⟨0, by simp [pair.openingComposed]⟩

variable {a b : Text} {situation : Situation}

/-- The edit for the opening, told by what is left over on both sides of the cut. -/
theorem editOn_opening (pair : IsBracketPair o c) :
    (ofOffset (a ++ b) a.length).editOn (.ofClosings [([o], [c])]) situation o =
      if a.trailingBackslashes % 2 = 1 ∨ unclosed o c a < unopened o c b then .passThrough [o]
      else .insertPair [o, c] 1 := by
  have edit := (pair.reachesPair (Or.inl rfl)).edit_opening pair.different
    (cutContext_unmatched a b situation (delimitersOf o c)).2
  have waits : ((closingFrom (delimitersOf o c) (a ++ b) a.length).map
      (unmatchedAt (delimitersOf o c) (a ++ b))).isSome = true ↔ unclosed o c a < unopened o c b := by
    rw [Option.isSome_map, Option.isSome_iff_ne_none, ne_eq, closingFrom_eq_none_iff pair.different,
      not_le]
  simp only [waits, cutContext_isEscaped, beq_iff_eq] at edit
  exact edit

/-- The edit for the closing, told by what is left over on both sides of the cut and by what comes next. -/
theorem editOn_closing (pair : IsBracketPair o c) :
    (ofOffset (a ++ b) a.length).editOn (.ofClosings [([o], [c])]) situation c =
      if unopened o c b < unclosed o c a then .insertText [c]
      else if [c] <+: b then .move 1
      else if [space, c] <+: b then .move 2
      else .insertText [c] := by
  have edit := (pair.reachesPair (Or.inr rfl)).edit_closing pair.different
    (cutContext_unmatched a b situation (delimitersOf o c)).1
  have waits : ((openingBefore (delimitersOf o c) (a ++ b) a.length).map
      (unmatchedAt (delimitersOf o c) (a ++ b))).isSome = true ↔ unopened o c b < unclosed o c a := by
    rw [Option.isSome_map, Option.isSome_iff_ne_none, ne_eq, openingBefore_eq_none_iff pair.different,
      not_le]
  have next : (cutContext a b situation).startsAfter [c] = true ↔ [c] <+: b := by
    rw [Context.startsAfter, cutContext_after, List.isPrefixOf_iff_prefix]
    exact prefix_firstLine_iff (by simpa using pair.closingInLine.symm)
  have afterSpace : (cutContext a b situation).startsAfter [space, c] = true ↔ [space, c] <+: b := by
    rw [Context.startsAfter, cutContext_after, List.isPrefixOf_iff_prefix]
    exact prefix_firstLine_iff (by simpa using ⟨by decide, pair.closingInLine.symm⟩)
  simp only [waits, next, afterSpace] at edit
  exact edit

/-! ### Presses -/

/-- The opening keeps the number of openings left over. -/
theorem press_opening_balance (pair : IsBracketPair o c) (notEscaped : a.trailingBackslashes % 2 ≠ 1) :
    let buffer := ofOffset (a ++ b) a.length
    let opened := buffer.press (.ofClosings [([o], [c])]) situation o
    if unclosed o c a < unopened o c b then
      buffer.editOn (.ofClosings [([o], [c])]) situation o = .passThrough [o] ∧
        (balance o c opened.text).1 = (balance o c (a ++ b)).1 ∧
        (balance o c opened.text).2 + 1 = (balance o c (a ++ b)).2
    else
      buffer.editOn (.ofClosings [([o], [c])]) situation o = .insertPair [o, c] 1 ∧
        balance o c opened.text = balance o c (a ++ b) := by
  intro buffer opened
  have edit : buffer.editOn (.ofClosings [([o], [c])]) situation o = _ := pair.editOn_opening
  split
  · next waits =>
    rw [if_pos (Or.inr waits)] at edit
    have text : opened.text = a ++ [o] ++ b := by
      rw [show opened = buffer.apply _ from press_eq .., edit, apply_passThrough_unit, text_ofOffset]
    rw [text]
    exact ⟨edit, balance_insertOpening pair.different waits⟩
  · next none =>
    rw [if_neg (not_or.mpr ⟨notEscaped, none⟩)] at edit
    have text : opened.text = a ++ [o, c] ++ b := by
      rw [show opened = buffer.apply _ from press_eq .., edit]
      exact congrArg Buffer.text (apply_insert a b [o, c] 1)
    rw [text]
    exact ⟨edit, balance_insertPair pair.different a b⟩

/-- The closing uses up an opening, is passed over, or is one too many. -/
theorem press_closing_balance (pair : IsBracketPair o c) :
    let closed := (ofOffset (a ++ b) a.length).press (.ofClosings [([o], [c])]) situation c
    if unopened o c b < unclosed o c a then
      (balance o c closed.text).1 + 1 = (balance o c (a ++ b)).1 ∧
        (balance o c closed.text).2 = (balance o c (a ++ b)).2
    else if [c] <+: b ∨ [space, c] <+: b then closed.text = a ++ b
    else
      (balance o c closed.text).1 = (balance o c (a ++ b)).1 ∧
        (balance o c closed.text).2 = (balance o c (a ++ b)).2 + 1 := by
  intro closed
  have press : closed = (ofOffset (a ++ b) a.length).apply _ := press_eq ..
  rw [pair.editOn_closing] at press
  have inserted : ((ofOffset (a ++ b) a.length).apply (.insertText [c])).text = a ++ [c] ++ b :=
    congrArg Buffer.text (apply_insert a b [c] 1)
  have counts := balance_insertClosing pair.different a b
  split
  · next waits =>
    rw [if_pos waits] at press counts
    rw [press, inserted]
    exact counts
  next none =>
  rw [if_neg none] at press counts
  split
  · next comes =>
    -- The cursor moves over the closing, with or without the space.
    rw [press]
    split
    · rfl
    · next notNext =>
      rw [if_pos (comes.resolve_left notNext)]
      rfl
  · next comesNot =>
    rw [if_neg fun next => comesNot (Or.inl next), if_neg fun next => comesNot (Or.inr next)] at press
    rw [press, inserted]
    exact counts

/-- **How the keys of a pair change its balance.** With the definitions of a pair compiled, and with the
cursor anywhere in a text: the opening, unless it is escaped, keeps the number of openings left over; it
is let through where a closing is left over from the cursor on, of which there is then one fewer, and it
inserts the pair where there is none. The closing uses up an opening left over before the cursor; where
there is none, it is passed over if it comes next, perhaps after a space, and the text stays as it is,
and otherwise it is one closing more that is left over. -/
theorem press_balance (pair : IsBracketPair o c) :
    ∃ index, RuleIndex.compile (.ofPair o c) = .ok index ∧
      ∀ (situation : Situation) (buffer : Buffer), buffer.text.Holds buffer.cursor →
        let before := buffer.text.take buffer.offset.toNat
        let after := buffer.text.drop buffer.offset.toNat
        let found := leftover (delimitersOf o c) buffer.text
        let opened := buffer.press index situation o
        let closed := buffer.press index situation c
        (trailingBackslashes before % 2 ≠ 1 →
          if ∃ j ∈ found.closings, buffer.offset ≤ j then
            buffer.editOn index situation o = .passThrough [o] ∧
              (balance o c opened.text).1 = (balance o c buffer.text).1 ∧
              (balance o c opened.text).2 + 1 = (balance o c buffer.text).2
          else
            buffer.editOn index situation o = .insertPair [o, c] 1 ∧
              balance o c opened.text = balance o c buffer.text) ∧
        if ∃ i ∈ found.openings, (i : Int) < buffer.offset then
          (balance o c closed.text).1 + 1 = (balance o c buffer.text).1 ∧
            (balance o c closed.text).2 = (balance o c buffer.text).2
        else if [c] <+: after ∨ [space, c] <+: after then closed.text = buffer.text
        else
          (balance o c closed.text).1 = (balance o c buffer.text).1 ∧
            (balance o c closed.text).2 = (balance o c buffer.text).2 + 1 := by
  refine ⟨_, pair.compile, fun situation buffer holds => ?_⟩
  obtain ⟨t, cursor⟩ := buffer
  obtain ⟨a, b, rfl, rfl⟩ : ∃ a b, t = a ++ b ∧ cursor = t.positionAt a.length :=
    exists_cut_of_holds holds
  have offset : (⟨a ++ b, (a ++ b).positionAt a.length⟩ : Buffer).offset = a.length :=
    offset_ofOffset_append a b
  simp only [offset, Int.toNat_natCast, List.take_left, List.drop_left,
    exists_opening_iff pair.different, exists_closing_iff pair.different]
  exact ⟨fun notEscaped => pair.press_opening_balance notEscaped, pair.press_closing_balance⟩

/-- An opening typed where a parenthesis is one too many is let through and makes up for it, and another
closing there is one more. -/
theorem press_balance_strayClosing :
    let buffer : Buffer := ⟨"(a))", ⟨0, 1⟩⟩
    IsBracketPair 0x28 0x29 ∧ buffer.text.Holds buffer.cursor ∧
      ∃ index, RuleIndex.compile (.ofPair 0x28 0x29) = .ok index ∧ ∀ situation,
        buffer.editOn index situation 0x28 = .passThrough [0x28] ∧
        balance 0x28 0x29 (buffer.press index situation 0x28).text = (0, 0) ∧
        balance 0x28 0x29 (buffer.press index situation 0x29).text = (0, 2) := by
  intro buffer
  have pair : IsBracketPair 0x28 0x29 := ⟨by decide, by decide +kernel, by decide +kernel, by decide⟩
  have holds : buffer.text.Holds buffer.cursor := ⟨by decide, by decide, by decide, by decide⟩
  obtain ⟨index, compiled, presses⟩ := press_balance pair
  refine ⟨pair, holds, index, compiled, fun situation => ?_⟩
  obtain ⟨opening, closing⟩ := presses situation buffer holds
  have counts : balance 0x28 0x29 buffer.text = (0, 1) := by decide +kernel
  have opened := opening (by decide +kernel)
  rw [if_pos (by decide +kernel)] at opened
  rw [if_neg (by decide +kernel), if_neg (by decide +kernel)] at closing
  rw [counts] at opened closing
  exact ⟨opened.1, Prod.ext opened.2.1 (Nat.succ.inj opened.2.2), Prod.ext closing.1 closing.2⟩

end IsBracketPair

end Pairing
