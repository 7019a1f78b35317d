/-
**Edits keep code points whole.**

Edits are computed on units, and delimiters may be pairs of surrogates or hold some. Whatever part of a delimiter is
there already, an edit takes away, passes over and inserts whole code points, and leaves the cursor between two:

* `Buffer.IsWellFormed`: a text without unpaired surrogates, with its cursor between two code points;
* `Buffer.isWellFormed_ofOffset`, `Buffer.IsWellFormed.exists_cut`: that is a cut into two such texts;
* `Edit.WritesPoints`: what an edit passes over or inserts;
* `Buffer.isWellFormed_apply`: an edit of whole code points is carried out so;
* `Rule.missingParts_isWellFormed`, `Rule.drop_isWellFormed_of_turn`: what is missing of a delimiter is whole;
* `RuleIndex.decide_erasesPoints`, `RuleIndex.decide_writesPoints`: every verdict is such an edit.

`RuleIndex.decide_keepsPoints` puts this together.
-/

import Pairing.Proofs.Decision.Completed
import Pairing.Proofs.Decision.LineEdits
import Pairing.Proofs.Decision.Writing
import Pairing.Proofs.Definition.Closings
import Pairing.Proofs.RuleIndex.Lookup
import Pairing.Proofs.Text.WellFormed

namespace Pairing

open Text

/-! ### Buffers -/

/-- The text of a buffer holds no unpaired surrogate, and its cursor is on one of its lines, between two code
points. -/
structure Buffer.IsWellFormed (buffer : Buffer) : Prop where
  text : buffer.text.IsWellFormed
  holds : buffer.text.Holds buffer.cursor
  boundary : buffer.line.IsBoundary buffer.cursor.column.toNat

/-- The position of a cut is in the text. -/
theorem Text.holds_positionAt (a b : Text) : (a ++ b).Holds ((a ++ b).positionAt a.length) := by
  have position := positionAt_append a b
  refine ⟨?_, ?_, ?_, ?_⟩
  · rw [position]
    exact Int.natCast_nonneg _
  · rw [position, length_lines, List.count_append]
    dsimp only
    omega
  · rw [position]
    exact Int.natCast_nonneg _
  · rw [lineAt_append, position, List.length_append]
    dsimp only
    omega

namespace Buffer

variable {a b : Text}

/-- The line of a cursor at a cut. -/
theorem line_ofOffset (a b : Text) : (ofOffset (a ++ b) a.length).line = a.lastLine ++ b.firstLine :=
  lineAt_append a b

/-- Its column. -/
theorem column_ofOffset (a b : Text) :
    (ofOffset (a ++ b) a.length).cursor.column.toNat = a.lastLine.length := by
  rw [ofOffset, positionAt_append]
  rfl

/-- A text that is cut into two without unpaired surrogates is cut between code points. -/
theorem isWellFormed_ofOffset (left : a.IsWellFormed) (right : b.IsWellFormed) :
    (ofOffset (a ++ b) a.length).IsWellFormed where
  text := left.append right
  holds := holds_positionAt a b
  boundary := by
    rw [line_ofOffset, column_ofOffset]
    exact isBoundary_append left.lastLine.not_meetInPair

/-- Between code points of its line, the cursor cuts the whole text into two without unpaired surrogates. -/
theorem IsWellFormed.exists_cut {buffer : Buffer} (whole : buffer.IsWellFormed) :
    ∃ a b, a.IsWellFormed ∧ b.IsWellFormed ∧ buffer = ofOffset (a ++ b) a.length := by
  obtain ⟨text, holds, boundary⟩ := whole
  obtain ⟨a, b, isText, isCursor⟩ := exists_cut_of_holds holds
  obtain rfl : buffer = ofOffset (a ++ b) a.length := by
    obtain ⟨t, cursor⟩ := buffer
    dsimp only at isText isCursor
    rw [isCursor, isText]
    rfl
  rw [text_ofOffset] at text
  rw [line_ofOffset, column_ofOffset] at boundary
  obtain ⟨above, endsLine, parts, -, -⟩ := exists_endsLine_append a
  have together : Text.IsWellFormed (above ++ (a.lastLine ++ b)) := by
    rw [← List.append_assoc, ← parts]
    exact text
  obtain ⟨aboveWhole, below⟩ := (isWellFormed_append_iff endsLine.not_meetInPair).mp together
  -- The line of the cursor is whole, and so are its parts.
  have line : Text.IsWellFormed (a.lastLine ++ b.firstLine) := by
    rw [← firstLine_append b (newline_notMem_lastLine a)]
    exact below.firstLine
  have left : a.lastLine.IsWellFormed := by
    have halves := line.split boundary
    rw [List.take_left] at halves
    exact halves.1
  have front : a.IsWellFormed := by
    rw [parts]
    exact aboveWhole.append left
  exact ⟨a, b, front, IsWellFormed.of_append text front, rfl⟩

end Buffer

/-! ### Edits -/

namespace Edit

variable {ctx : Context} {left right : Text}

/-- What an edit passes over is whole code points, and so is what it inserts before and after the cursor. -/
def WritesPoints (ctx : Context) : Edit → Prop
  | .passThrough _ => True
  | .move distance => ∃ passed : Text, passed.IsWellFormed ∧ passed <+: ctx.after ∧ distance = passed.length
  | .replace _ _ text cursorOffset => ∃ left right : Text, left.IsWellFormed ∧ right.IsWellFormed ∧
      text = left ++ right ∧ cursorOffset = left.length

theorem insertPair_writesPoints (leftWhole : left.IsWellFormed) (rightWhole : right.IsWellFormed) :
    (insertPair (left ++ right) right.length).WritesPoints ctx := by
  refine ⟨left, right, leftWhole, rightWhole, rfl, ?_⟩
  rw [List.length_append]
  omega

theorem insertText_writesPoints (whole : left.IsWellFormed) : (insertText left).WritesPoints ctx :=
  ⟨left, [], whole, .nil, (List.append_nil left).symm, rfl⟩

end Edit

/-- An edit of whole code points leaves the code points of a text whole, and the cursor between two of them. -/
theorem Buffer.isWellFormed_apply {a b : Text} {situation : Situation} {oracle : Oracle} {edit : Edit}
    (left : a.IsWellFormed) (right : b.IsWellFormed) (acts : edit.kind ≠ .passThrough)
    (erases : edit.Erases ((ofOffset (a ++ b) a.length).context situation oracle) fun x y =>
      x.IsWellFormed ∧ y.IsWellFormed)
    (writes : edit.WritesPoints ((ofOffset (a ++ b) a.length).context situation oracle)) :
    ((ofOffset (a ++ b) a.length).apply edit).IsWellFormed := by
  have offset := offset_ofOffset_append a b
  have line := firstLine_prefix b
  rw [context_ofOffset] at erases writes
  cases edit with
  | passThrough key => exact absurd rfl acts
  | move distance =>
    obtain ⟨passed, passedWhole, next, rfl⟩ := writes
    obtain ⟨rest, rfl⟩ := next.trans line
    have restWhole := IsWellFormed.of_append right passedWhole
    have place : (a.length : Int) + passed.length = (a ++ passed).length := by
      rw [List.length_append, Int.natCast_add]
    have inside : (a ++ passed).length ≤ (a ++ (passed ++ rest)).length := by
      simp only [List.length_append]
      omega
    rw [apply_move (by omega) (by rw [offset, place, text_ofOffset]; omega), offset, place, text_ofOffset,
      ← List.append_assoc]
    exact isWellFormed_ofOffset (left.append passedWhole) restWhole
  | replace deleteBefore deleteAfter text cursorOffset =>
    obtain ⟨x, y, ⟨xWhole, yWhole⟩, ends, starts, rfl, rfl⟩ := erases
    obtain ⟨inserted, behind, insertedWhole, behindWhole, rfl, rfl⟩ := writes
    obtain ⟨front, rfl⟩ := ends.trans (List.rtakeWhile_suffix _ a)
    obtain ⟨rest, rfl⟩ := starts.trans line
    have frontWhole := IsWellFormed.of_append_left left xWhole
    have restWhole := IsWellFormed.of_append right yWhole
    have parts : front ++ (inserted ++ behind) ++ rest = (front ++ inserted) ++ (behind ++ rest) := by
      simp only [List.append_assoc]
    have place : (front.length : Int) + inserted.length = (front ++ inserted).length := by
      rw [List.length_append, Int.natCast_add]
    rw [apply_replace (text_ofOffset _ _) offset, parts, place]
    exact isWellFormed_ofOffset (frontWhole.append insertedWhole) (behindWhole.append restWhole)

/-! ### What is missing of a delimiter -/

variable {ctx : Context} {key : Text} {rule : Rule} {index : RuleIndex}

/-- What stands next to the cursor of a delimiter ends with whole code points, so what is missing does too. -/
theorem Rule.missingParts_isWellFormed (opening : rule.opening.IsWellFormed) (before : ctx.before.IsWellFormed)
    (after : ctx.after.IsWellFormed) :
    (rule.missingParts ctx).1.IsWellFormed ∧ (rule.missingParts ctx).2.IsWellFormed := by
  obtain ⟨⟨-, typed⟩, -⟩ := overlap_isGreatest ctx.before rule.opening
  obtain ⟨⟨inside, start, present⟩, -⟩ := overlap_isGreatest rule.opening ctx.after
  constructor
  · have whole := opening
    rw [← List.take_append_drop (overlap ctx.before rule.opening) rule.opening] at whole
    exact ((isWellFormed_append_iff (before.not_meetInPair_of_suffix typed)).mp whole).2
  · have apart : ¬ MeetInPair start (ctx.after.take (overlap rule.opening ctx.after)) :=
      after.not_meetInPair_of_prefix (List.take_prefix _ _)
    have length : rule.opening.length - overlap rule.opening ctx.after = start.length := by
      have lengths := congrArg List.length present
      rw [List.length_append, List.length_take_of_le inside] at lengths
      omega
    have missing : (rule.missingParts ctx).2 = start := by
      show rule.opening.take (rule.opening.length - overlap rule.opening ctx.after) = start
      rw [length]
      conv_lhs => rw [← present]
      exact List.take_left
    rw [← present] at opening
    rw [missing]
    exact ((isWellFormed_append_iff apart).mp opening).1

theorem Text.indexOf?_nil (t : Text) : indexOf? [] t = some 0 := by
  cases t <;> rfl

/-- The empty key opens at the start of an opening. -/
theorem Rule.eq_zero_of_turn_nil {typed : Nat} (opens : rule.turn [] ctx = .opens typed) : typed = 0 := by
  unfold turn at opens
  rw [indexOf?_nil] at opens
  split at opens
  · cases opens
  split at opens
  · split at opens
    · exact (Turn.opens.inj opens).symm
    · cases opens
  · dsimp only at opens
    rw [if_pos (Or.inl rfl)] at opens
    exact (Turn.opens.inj opens).symm

/-- The part of an opening from the key on starts with a code point, as the key does. -/
theorem Rule.drop_isWellFormed_of_turn (opening : rule.opening.IsWellFormed) (keyWhole : key.IsWellFormed)
    {typed : Nat} (opens : rule.turn key ctx = .opens typed) : IsWellFormed (rule.opening.drop typed) := by
  by_cases empty : key = []
  · subst empty
    rw [eq_zero_of_turn_nil opens]
    exact opening
  · obtain ⟨rest, starts⟩ := prefix_of_turn opens
    obtain ⟨first, others, rfl⟩ := List.exists_cons_of_ne_nil empty
    have apart : ¬ MeetInPair (rule.opening.take typed) (rule.opening.drop typed) := by
      rintro ⟨leading, trailing, -, head, -, closes⟩
      rw [← starts] at head
      rw [keyWhole.isTrailing_first head] at closes
      exact Bool.false_ne_true closes
    rw [← List.take_append_drop typed rule.opening] at opening
    exact ((isWellFormed_append_iff apart).mp opening).2

/-! ### Every verdict -/

/-- What a decision among rules writes is whole code points, if their delimiters, the key and the line are. -/
theorem decideAmong_writesPoints {rules : List Rule}
    (delimiters : ∀ rule ∈ rules, rule.opening.IsWellFormed ∧ rule.closing.IsWellFormed)
    (keyWhole : key.IsWellFormed) (before : ctx.before.IsWellFormed) (after : ctx.after.IsWellFormed) :
    (decideAmong key rules).Ends ctx (fun outcome => outcome.edit.WritesPoints ctx) fun _ => True := by
  induction rules with
  | nil => exact .pure trivial
  | cons rule rest ih =>
    obtain ⟨⟨opening, closing⟩, others⟩ := List.forall_mem_cons.mp delimiters
    refine decideAmong_cons_ends ?_
    cases turn : rule.turn key ctx with
    | either =>
      refine openOrClosePair_ends.mono (fun edit ends => ?_) fun _ => id
      obtain rfl | ⟨-, next, rfl⟩ | ⟨left, right, rfl, parts⟩ := ends
      · trivial
      · exact ⟨_, opening, next, rfl⟩
      · have whole : left.IsWellFormed ∧ right.IsWellFormed := by
          rcases parts with same | same <;> obtain ⟨rfl, rfl⟩ := Prod.mk.inj same
          · exact Rule.missingParts_isWellFormed opening before after
          · exact ⟨opening, opening⟩
        exact Edit.insertPair_writesPoints whole.1 whole.2
    | opens typed =>
      refine (openPair_ends typed).mono (fun edit ends => ?_) fun _ => id
      obtain rfl | rfl := ends
      · trivial
      · exact Edit.insertPair_writesPoints (Rule.drop_isWellFormed_of_turn opening keyWhole turn) closing
    | closes =>
      refine closePair_ends.mono (fun edit ends => ?_) fun _ => id
      obtain rfl | rfl | ⟨-, next, rfl⟩ | ⟨next, rfl⟩ := ends
      · trivial
      · exact Edit.insertText_writesPoints closing
      · exact ⟨_, closing, next, rfl⟩
      · exact ⟨_, isWellFormed_space.append closing, next, rfl⟩
    | passes => exact ih others
    | fails => trivial

/-- The indentation of a line holds no surrogates. -/
theorem Context.baseIndent_isWellFormed (ctx : Context) : ctx.baseIndent.IsWellFormed := by
  refine .of_plain fun unit inside => ?_
  have blank := List.mem_takeWhile_imp inside
  rw [Bool.or_eq_true, beq_iff_eq, beq_iff_eq] at blank
  rcases blank with rfl | rfl <;> decide

namespace RuleIndex

/-- What a verdict takes away is whole code points, if the delimiters are. -/
theorem decide_erasesPoints
    (delimiters : ∀ rule ∈ index.all, rule.opening.IsWellFormed ∧ rule.closing.IsWellFormed) (kind : KeyKind)
    (key : Text) : (index.decide kind key ctx).edit.Erases ctx fun x y => x.IsWellFormed ∧ y.IsWellFormed := by
  refine (index.decide_erases ctx kind key).2.mono fun x y may => ?_
  cases kind with
  | printable | space =>
    obtain ⟨rfl, rfl⟩ := may
    exact ⟨.nil, .nil⟩
  | enter =>
    obtain ⟨rfl, rfl⟩ | ⟨rfl, rfl⟩ := may
    · exact ⟨.nil, .nil⟩
    · exact ⟨isWellFormed_space, isWellFormed_space⟩
  | backspace =>
    obtain ⟨rfl, rfl⟩ | ⟨rule, ⟨earlier, later, -, -, parts, -⟩, rfl, rfl⟩ := may
    · exact ⟨isWellFormed_space, isWellFormed_space⟩
    · refine delimiters rule ?_
      rw [parts]
      exact List.mem_append_right _ List.mem_cons_self

/-- What a verdict writes is whole code points, if the delimiters, the key, the indentation and the line are. -/
theorem decide_writesPoints
    (delimiters : ∀ rule ∈ index.rulesFor key, rule.opening.IsWellFormed ∧ rule.closing.IsWellFormed)
    (keyWhole : key.IsWellFormed) (indentUnit : ctx.indentUnit.IsWellFormed)
    (before : ctx.before.IsWellFormed) (after : ctx.after.IsWellFormed) (kind : KeyKind) :
    (index.decide kind key ctx).edit.WritesPoints ctx := by
  cases kind with
  | printable =>
    have ends : (Pairing.decidePrintable index key).Ends ctx (fun outcome => outcome.edit.WritesPoints ctx)
        fun _ => True :=
      decidePrintable_ends fun active isSome => decideAmong_writesPoints
        (fun rule member => delimiters rule (isSome.subset member)) keyWhole before after
    exact Verdict.edit_ofQuery (Edit.WritesPoints ctx) trivial fun outcome last run => ends.of_run' run
  | space =>
    refine Verdict.edit_ofQuery (Edit.WritesPoints ctx) trivial fun outcome last run => ?_
    obtain rfl | ⟨found, rfl, -, -⟩ := decideBetween_cases run
    · trivial
    · exact Edit.insertPair_writesPoints isWellFormed_space isWellFormed_space
  | enter =>
    refine Verdict.edit_ofQuery (Edit.WritesPoints ctx) trivial fun outcome last run => ?_
    obtain rfl | ⟨found, rfl, -, -⟩ := decideBetween_cases run
    · trivial
    · have inner := ctx.baseIndent_isWellFormed.append indentUnit
      refine ⟨[newline] ++ (ctx.baseIndent ++ ctx.indentUnit), [newline] ++ ctx.baseIndent,
        isWellFormed_newline.append inner, isWellFormed_newline.append ctx.baseIndent_isWellFormed, ?_, ?_⟩
      · simp only [List.append_assoc]
      · simp only [List.length_append, List.length_singleton]
        omega
  | backspace =>
    refine Verdict.edit_ofQuery (Edit.WritesPoints ctx) trivial fun outcome last run => ?_
    obtain rfl | ⟨found, rfl, -, -⟩ := decideBetween_cases run
    · trivial
    · show (backspaceEdit ctx found).WritesPoints ctx
      unfold backspaceEdit
      split <;> exact ⟨[], [], .nil, .nil, rfl, rfl⟩

/-- **Edits split no surrogate pair.** Where the delimiters of an index, the text, the key and the indentation hold no
unpaired surrogate and the cursor stands between two code points, all of this is so after each edit that a key of any
kind comes to, whatever the host answers. -/
theorem decide_keepsPoints {definitions : Definitions} (compiled : compile definitions = .ok index)
    (delimiters : ∀ rule ∈ index.all, rule.opening.IsWellFormed ∧ rule.closing.IsWellFormed) {buffer : Buffer}
    (whole : buffer.IsWellFormed) (keyWhole : key.IsWellFormed) (situation : Situation)
    (indentUnit : ∀ unit : Text, situation.indentUnit = some unit → unit.IsWellFormed) (oracle : Oracle)
    (kind : KeyKind)
    (acts : (index.decide kind key (buffer.context situation oracle)).edit.kind ≠ .passThrough) :
    (buffer.apply (index.decide kind key (buffer.context situation oracle)).edit).IsWellFormed := by
  have reached : ∀ rule ∈ index.rulesFor key, rule ∈ index.all := by
    obtain ⟨-, rules, -, rfl⟩ := compile_eq_ok_iff.mp compiled
    exact fun rule member => mem_all_ofRules.mpr (mem_rulesFor_ofRules.mp member).1
  have indentWhole : (situation.indentUnit.getD defaultIndentUnit).IsWellFormed := by
    cases given : situation.indentUnit with
    | none =>
      rw [Option.getD_none]
      decide
    | some unit => exact indentUnit unit given
  obtain ⟨a, b, left, right, rfl⟩ := whole.exists_cut
  refine Buffer.isWellFormed_apply left right acts (index.decide_erasesPoints delimiters kind key) ?_
  refine decide_writesPoints (fun rule member => delimiters rule (reached rule member)) keyWhole ?_ ?_ ?_ kind
  · rw [Buffer.context_ofOffset]
    exact indentWhole
  · rw [Buffer.context_ofOffset]
    exact left.lastLine
  · rw [Buffer.context_ofOffset]
    exact right.firstLine

/-- A face that is opening and closing at once stands before the cursor, and another one with the same leading
surrogate after it. -/
theorem decide_keepsPoints_faces :
    let face : Text := "😀"
    let index := ofClosings [(face, face)]
    let buffer : Buffer := ⟨"a😀😁", ⟨0, 3⟩⟩
    let edit := (index.decide .printable face (buffer.context ⟨"text", .insert, none⟩ .silent)).edit
    compile (.ofClosings [(face, face)]) = .ok index ∧ buffer.IsWellFormed ∧ edit = .replace 0 0 face 0 ∧
      buffer.apply edit = ⟨"a😀😀😁", ⟨0, 3⟩⟩ ∧ (buffer.apply edit).IsWellFormed := by
  intro face index buffer edit
  have compiled : compile (.ofClosings [(face, face)]) = .ok index := by
    refine compile_ofClosings fun key closing member => ?_
    obtain ⟨rfl, rfl⟩ := Prod.mk.inj (List.mem_singleton.mp member)
    exact ⟨by decide +kernel, by decide⟩
  have whole : buffer.IsWellFormed := ⟨by decide, ⟨by decide, by decide, by decide, by decide⟩, by decide⟩
  have completes : edit = .replace 0 0 face 0 := by decide +kernel
  have keyWhole : face.IsWellFormed := by decide
  have kept := decide_keepsPoints compiled (by decide +kernel) whole keyWhole ⟨"text", .insert, none⟩
    (fun unit given => by cases given) .silent .printable
    (fun passes => EditKind.noConfusion ((congrArg Edit.kind completes).symm.trans passes))
  exact ⟨compiled, whole, completes, by decide +kernel, kept⟩

end RuleIndex

end Pairing
