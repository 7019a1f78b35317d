/-
**Pressing one key.**

What a press does to a buffer with the pairs of single units as its rules, where the whole buffer is
scanned anew for each key. The cursor cuts the text in two:

* `Buffer.press`: the buffer after a key that inserts a character;
* `Buffer.cutContext_isEscaped`: whether the cursor is escaped;
* `Buffer.cutContext_unmatched`: what the scan answers there;
* `RuleIndex.edit_of_always`: the edit for a key whose rules always apply;
* `RuleIndex.ReachesPair`: a unit reaches the rule of a pair and no other rule;
* `RuleIndex.ReachesPair.edit_opening`, `RuleIndex.ReachesPair.edit_closing`: the edits for its two units,
  whatever the scan answers;
* `Pairs.IsSettled`: nothing is left over on either side of the cut, and the cursor is not escaped;
* `Pairs.ArePlain.press_opening`: an opening inserts the pair;
* `Pairs.ArePlain.press_closing`: a closing is passed over where it comes next;
* `Pairs.ArePlain.press_other`: any other unit goes in as it is.
-/

import Pairing.Proofs.Buffer.Cursor
import Pairing.Proofs.Decision.Escaped
import Pairing.Proofs.Scan.Balance
import Pairing.Proofs.Typing.Pairs

namespace Pairing

open Text Scan

/-- A buffer after a key that inserts a character was pressed. Its whole text is scanned for the key. -/
def Buffer.press (index : RuleIndex) (situation : Situation) (buffer : Buffer) (unit : UInt16) : Buffer :=
  buffer.apply
    (index.decide .printable [unit] (buffer.context situation (.ofLines buffer.text.lines))).edit

/-! ### The cursor is escaped -/

/-- A run of backslashes stays in its line. -/
theorem Text.trailingBackslashes_lastLine (t : Text) :
    t.lastLine.trailingBackslashes = t.trailingBackslashes := by
  have reversed : t.lastLine.reverse = t.reverse.takeWhile (· != newline) := List.reverse_reverse _
  rw [trailingBackslashes, reversed, List.takeWhile_takeWhile, trailingBackslashes]
  congr 2
  funext unit
  by_cases same : unit = backslash
  · rw [same]
    rfl
  · simp [same]

/-! ### The context at a cut -/

namespace Buffer

variable (a b : Text) (situation : Situation)

/-- The context of a press where the cursor cuts the text in two. -/
def cutContext : Context :=
  (ofOffset (a ++ b) a.length).context situation (.ofLines (a ++ b).lines)

theorem cutContext_before : (cutContext a b situation).before = a.lastLine := by
  rw [cutContext, context_ofOffset]

theorem cutContext_after : (cutContext a b situation).after = b.firstLine := by
  rw [cutContext, context_ofOffset]

/-- The oracle scans the text, and is asked about the cut. -/
theorem cutContext_oracle : (cutContext a b situation).oracle = .ofText (a ++ b) ∧
    (a ++ b).offsetAt (cutContext a b situation).cursor = a.length := by
  have cursor : (cutContext a b situation).cursor = (a ++ b).positionAt a.length := by
    rw [positionAt_append, cutContext, context_ofOffset]
    rfl
  rw [cursor, offsetAt_positionAt (by simp), cutContext, context_ofOffset]
  refine ⟨?_, rfl⟩
  show Oracle.ofText (join [newline] (a ++ b).lines) = _
  rw [join_lines]

/-- What the scan answers about the openings before the cut and about the closings after it. -/
theorem cutContext_unmatched (delimiters : Delimiters) :
    (Query.unmatchedOpening delimiters).Ends (cutContext a b situation)
      (· = (openingBefore delimiters (a ++ b) a.length).map (unmatchedAt delimiters (a ++ b)))
      (fun _ => False) ∧
    (Query.unmatchedClosing delimiters).Ends (cutContext a b situation)
      (· = (closingFrom delimiters (a ++ b) a.length).map (unmatchedAt delimiters (a ++ b)))
      fun _ => False := by
  obtain ⟨oracle, cursor⟩ := cutContext_oracle a b situation
  constructor
  all_goals
    refine .read (.ask_of_ok fun earlier => ?_)
    rw [oracle]
    simp only [Oracle.ofText, cursor]

theorem cutContext_isEscaped :
    (cutContext a b situation).isEscaped = (a.trailingBackslashes % 2 == 1) := by
  rw [Context.isEscaped, cutContext_before, ← trailingBackslashes_lastLine, trailingBackslashes]

end Buffer

open Buffer

/-! ### Nothing is left over -/

/-- Nothing of a pair is left over on either side of a cut, and the cut is not escaped. -/
structure Pairs.IsSettled (pairs : Pairs) (a b : Text) : Prop where
  /-- As many openings wait before the cut as closings come after it. -/
  fits : ∀ o c, (o, c) ∈ pairs → Fits o c a b
  /-- No backslash escapes what is typed. -/
  notEscaped : a.trailingBackslashes % 2 ≠ 1

namespace Pairs.ArePlain

variable {pairs : Pairs} {a b : Text} {o c : UInt16} {situation : Situation}

/-- No opening of a pair is left over before the cut, and no closing after it. -/
theorem unmatched_ends (plain : pairs.ArePlain) (settled : pairs.IsSettled a b) (member : (o, c) ∈ pairs) :
    (Query.unmatchedOpening (delimitersOf o c)).Ends (cutContext a b situation) (· = none) (fun _ => False) ∧
      (Query.unmatchedClosing (delimitersOf o c)).Ends (cutContext a b situation) (· = none)
        fun _ => False := by
  obtain ⟨noOpening, noClosing⟩ := (fits_iff (plain.ne member) a b).mp (settled.fits o c member)
  have ends := cutContext_unmatched a b situation (delimitersOf o c)
  rwa [noOpening, noClosing, Option.map_none] at ends

end Pairs.ArePlain

/-! ### The decision on a unit -/

/-- Rules that always apply are all active. -/
theorem allActive_ends_of_always {ctx : Context} {rules : List Rule}
    (always : ∀ rule ∈ rules, rule.applies = .always true) :
    (Rule.allActive rules none).Ends ctx (· = rules) fun _ => False := by
  induction rules with
  | nil => exact .pure rfl
  | cons rule rest ih =>
    have restEnds := ih fun other member => always other (List.mem_cons_of_mem _ member)
    have isActive : (rule.isActive none).Ends ctx (· = true) fun _ => False := by
      unfold Rule.isActive
      rw [always rule List.mem_cons_self]
      exact .pure rfl
    unfold Rule.allActive
    refine isActive.bind fun active given => ?_
    rw [if_pos given]
    refine restEnds.bind fun active same => .pure ?_
    rw [same]

/-- A verdict on a query that ends in one edit. -/
theorem Verdict.edit_of_ends {key : Text} {kind : KeyKind} {query : Query Outcome} {ctx : Context}
    {edit : Edit} (ends : query.Ends ctx (fun outcome => outcome.edit = edit) fun _ => False) :
    (ofQuery key kind query ctx).edit = edit := by
  have run := ends {}
  unfold ofQuery
  cases given : query.run' ctx {} with
  | mk outcome after =>
    rw [given] at run
    cases outcome with
    | ok outcome => exact run
    | error fault => exact run.elim

namespace RuleIndex

variable {index : RuleIndex} {unit o c : UInt16} {ctx : Context}

/-- Where the rules that a key reaches always apply, the edit is what they come to. -/
theorem edit_of_always {key : Text} {edit : Edit}
    (always : ∀ rule ∈ index.rulesFor key, rule.applies = .always true)
    (decides : (decideAmong key (index.rulesFor key)).Ends ctx (fun outcome => outcome.edit = edit)
      fun _ => False) : (index.decide .printable key ctx).edit = edit := by
  refine Verdict.edit_of_ends ((allActive_ends_of_always always).bind fun active same => ?_)
  rw [same]
  exact decides

/-- A unit reaches the rule of a pair and no other rule. -/
def ReachesPair (index : RuleIndex) (unit o c : UInt16) : Prop :=
  index.rulesFor [unit] ≠ [] ∧
    ∀ rule ∈ index.rulesFor [unit], ∃ order, rule = .ofClosing [o] [c] order

/-- The edit for a unit of a pair is what the rule of the pair comes to. -/
theorem ReachesPair.edit_eq (reaches : index.ReachesPair unit o c) {edit : Edit}
    (decides : ∀ order rest, (decideAmong [unit] (.ofClosing [o] [c] order :: rest)).Ends ctx
      (fun outcome => outcome.edit = edit) fun _ => False) :
    (index.decide .printable [unit] ctx).edit = edit := by
  obtain ⟨reachesSome, reached⟩ := reaches
  obtain ⟨first, rest, rules⟩ := List.exists_cons_of_ne_nil reachesSome
  obtain ⟨order, rfl⟩ := reached first (by rw [rules]; exact List.mem_cons_self)
  refine edit_of_always (fun rule place => ?_) ?_
  · obtain ⟨order, rfl⟩ := reached rule place
    rfl
  · rw [rules]
    exact decides order rest

theorem not_isSymmetric_ofClosing (different : o ≠ c) (order : Nat) :
    ¬ (Rule.ofClosing [o] [c] order).isSymmetric = true := by
  simp [Rule.isSymmetric, Rule.ofClosing, different]

/-- An opening inserts the pair, unless the cursor is escaped or a closing waits for it. -/
theorem ReachesPair.edit_opening (reaches : index.ReachesPair o o c) (different : o ≠ c)
    {answer : Option Unmatched} (closing : (Query.unmatchedClosing (delimitersOf o c)).Ends ctx
      (· = answer) fun _ => False) :
    (index.decide .printable [o] ctx).edit =
      if ctx.isEscaped = true ∨ answer.isSome = true then .passThrough [o] else .insertPair [o, c] 1 := by
  refine reaches.edit_eq fun order rest => ?_
  have oneUnit : (Rule.ofClosing [o] [c] order).opening.length = 1 := rfl
  have isOpening : (Rule.ofClosing [o] [c] order).opening = [o] := rfl
  rw [decideAmong, if_neg (not_isSymmetric_ofClosing different order), if_pos oneUnit,
    if_pos isOpening]
  have opens : (openPair [o] (.ofClosing [o] [c] order) 0).Ends ctx (· =
      if ctx.isEscaped = true ∨ answer.isSome = true then .passThrough [o] else .insertPair [o, c] 1)
      fun _ => False := by
    have allows : ((Rule.ofClosing [o] [c] order).allows .opening).Ends ctx (· = true)
        fun _ => False := .pure rfl
    unfold openPair
    refine allows.bind fun allowed given => ?_
    rw [given, if_neg (by decide)]
    refine .read ?_
    split
    · next escaped => exact .pure (if_pos (Or.inl escaped)).symm
    next notEscaped =>
    refine closing.bind fun unmatched same => ?_
    rw [same]
    split
    · next waits => exact .pure (if_pos (Or.inr waits)).symm
    · next none => exact .pure (if_neg (not_or.mpr ⟨notEscaped, none⟩)).symm
  exact opens.bind fun edit same => .pure same

/-- A closing is inserted where an opening waits for it. Else one that comes next, perhaps after a space,
is passed over. -/
theorem ReachesPair.edit_closing (reaches : index.ReachesPair c o c) (different : o ≠ c)
    {answer : Option Unmatched} (opening : (Query.unmatchedOpening (delimitersOf o c)).Ends ctx
      (· = answer) fun _ => False) :
    (index.decide .printable [c] ctx).edit =
      if answer.isSome = true then .insertText [c]
      else if ctx.startsAfter [c] = true then .move 1
      else if ctx.startsAfter [space, c] = true then .move 2
      else .insertText [c] := by
  refine reaches.edit_eq fun order rest => ?_
  have oneUnit : (Rule.ofClosing [o] [c] order).opening.length = 1 := rfl
  have isClosing : ¬ (Rule.ofClosing [o] [c] order).opening = [c] := by
    simp [Rule.ofClosing, different]
  rw [decideAmong, if_neg (not_isSymmetric_ofClosing different order), if_pos oneUnit,
    if_neg isClosing]
  have closes : (closePair [c] (.ofClosing [o] [c] order)).Ends ctx (· =
      if answer.isSome = true then .insertText [c]
      else if ctx.startsAfter [c] = true then .move 1
      else if ctx.startsAfter [space, c] = true then .move 2
      else .insertText [c]) fun _ => False := by
    have allows : ((Rule.ofClosing [o] [c] order).allows .closing).Ends ctx (· = true)
        fun _ => False := .pure rfl
    have next : ctx.isAfter [c] false = .ok (ctx.startsAfter [c]) := rfl
    have afterSpace : ctx.isAfter [space, c] false = .ok (ctx.startsAfter [space, c]) := rfl
    unfold closePair
    refine allows.bind fun allowed given => ?_
    rw [given, if_neg (by decide)]
    refine opening.bind fun unmatched same => ?_
    rw [same]
    split
    · exact .pure rfl
    refine .ofExcept_bind next ?_
    split
    · exact .pure rfl
    refine .ofExcept_bind afterSpace ?_
    split
    · exact .pure rfl
    · exact .pure rfl
  exact closes.bind fun edit same => .pure same

end RuleIndex

namespace Pairs.ArePlain

variable {pairs : Pairs} {a b : Text} {o c : UInt16} {situation : Situation} {ctx : Context}

/-- The edit for a unit of no pair. -/
theorem edit_of_other (plain : pairs.ArePlain) {unit : UInt16} (ofNoPair : unit ∉ pairs.units) :
    (pairs.index.decide .printable [unit] ctx).edit = .passThrough [unit] := by
  have none := plain.rulesFor_other ofNoPair
  refine RuleIndex.edit_of_always ?_ ?_
  · rw [none]
    exact List.forall_mem_nil _
  · rw [none]
    exact .pure rfl

/-! ### Three kinds of presses -/

/-- An opening inserts the pair and leaves the cursor in it. -/
theorem press_opening (plain : pairs.ArePlain) (settled : pairs.IsSettled a b)
    (member : (o, c) ∈ pairs) :
    (ofOffset (a ++ b) a.length).press pairs.index situation o =
      ofOffset ((a ++ [o]) ++ c :: b) (a ++ [o]).length := by
  have notEscaped : ¬ (cutContext a b situation).isEscaped = true := by
    rw [cutContext_isEscaped, beq_iff_eq]
    exact settled.notEscaped
  have reaches : pairs.index.ReachesPair o o c := plain.rulesFor_unit member (Or.inl rfl)
  have closing : (Query.unmatchedClosing (delimitersOf o c)).Ends (cutContext a b situation) (· = none)
      fun _ => False := (plain.unmatched_ends settled member).2
  have edit := reaches.edit_opening (plain.ne member) closing
  rw [if_neg (by simpa using notEscaped)] at edit
  show (ofOffset (a ++ b) a.length).apply
    (pairs.index.decide .printable [o] (cutContext a b situation)).edit = _
  rw [edit]
  refine (apply_insert a b [o, c] 1).trans ?_
  simp

/-- A closing that comes next is passed over. -/
theorem press_closing (plain : pairs.ArePlain) (settled : pairs.IsSettled a (c :: b))
    (member : (o, c) ∈ pairs) :
    (ofOffset (a ++ c :: b) a.length).press pairs.index situation c =
      ofOffset ((a ++ [c]) ++ b) (a ++ [c]).length := by
  have isNext : (cutContext a (c :: b) situation).startsAfter [c] = true := by
    have notNewline : c ≠ newline := fun same => plain.noNewline (same ▸ closing_mem member)
    have first : firstLine (c :: b) = c :: firstLine b := by simp [firstLine, notNewline]
    simp [Context.startsAfter, cutContext_after, first]
  have reaches : pairs.index.ReachesPair c o c := plain.rulesFor_unit member (Or.inr rfl)
  have opening : (Query.unmatchedOpening (delimitersOf o c)).Ends (cutContext a (c :: b) situation)
      (· = none) fun _ => False := (plain.unmatched_ends settled member).1
  have edit := reaches.edit_closing (plain.ne member) opening
  rw [if_neg (by decide), if_pos isNext] at edit
  show (ofOffset (a ++ c :: b) a.length).apply
    (pairs.index.decide .printable [c] (cutContext a (c :: b) situation)).edit = _
  have offset := offset_ofOffset_append a (c :: b)
  have length : (ofOffset (a ++ c :: b) a.length).text.length = a.length + (b.length + 1) := by
    rw [text_ofOffset, List.length_append, List.length_cons]
  rw [edit, apply_move (by omega) (by omega), offset]
  simp

/-- A unit of no pair goes in as it is. -/
theorem press_other (plain : pairs.ArePlain) {unit : UInt16} (ofNoPair : unit ∉ pairs.units) :
    (ofOffset (a ++ b) a.length).press pairs.index situation unit =
      ofOffset ((a ++ [unit]) ++ b) (a ++ [unit]).length := by
  have edit : (pairs.index.decide .printable [unit] (cutContext a b situation)).edit =
      .passThrough [unit] := plain.edit_of_other ofNoPair
  show (ofOffset (a ++ b) a.length).apply
    (pairs.index.decide .printable [unit] (cutContext a b situation)).edit = _
  rw [edit, apply_passThrough_unit]

end Pairs.ArePlain

end Pairing
