/-
**Edits stay in the line of the cursor.**

Whatever rules an index holds, whatever the host answers and wherever the cursor is, the edit for a key
takes away and passes over only what stands next to the cursor on its line:

* `Edit.StaysInLine`: a move goes forward and not past the line, a replacement takes away no more than the
  line holds and puts the cursor into what it inserts;
* `Edit.Erases`: what exactly a replacement takes away on each side;
* `RuleIndex.MayErase`: what each kind of key may take away. A printable key and the space bar take away
  nothing, the enter key at most a space on each side, the backspace key such spaces or the delimiters of
  the first active rule that stand around the cursor;
* `Buffer.CarriesOut`: an edit is carried out in full, none of it cut off at an end of the text;
* `Context.surroundedBy_eq_true_iff`, `Context.surroundedBy_eq_false_iff`: how the delimiters of a rule stand
  around the cursor.

`RuleIndex.decide_staysInLine` says that all of this holds of every verdict. No rule needs to be checked
for it: an empty delimiter is refused where it would be passed over, and takes nothing away.
-/

import Pairing.Proofs.Buffer.Cursor
import Pairing.Proofs.Decision.Turn
import Pairing.Verdict

namespace Pairing

open Text

/-! ### What an edit may touch -/

namespace Edit

/-- The edit keeps to the line of the cursor, and the cursor to what is inserted. -/
def StaysInLine (ctx : Context) : Edit → Prop
  | .passThrough _ => True
  | .move distance => 1 ≤ distance ∧ distance ≤ ctx.after.length
  | .replace deleteBefore deleteAfter text cursorOffset =>
    (0 ≤ deleteBefore ∧ deleteBefore ≤ ctx.before.length) ∧
      (0 ≤ deleteAfter ∧ deleteAfter ≤ ctx.after.length) ∧
      0 ≤ cursorOffset ∧ cursorOffset ≤ text.length

/-- A replacement takes away exactly two texts that may be taken away, one on each side of the
cursor. -/
def Erases (ctx : Context) (mayErase : Text → Text → Prop) : Edit → Prop
  | .passThrough _ | .move _ => True
  | .replace deleteBefore deleteAfter _ _ =>
    ∃ x y, mayErase x y ∧ x <:+ ctx.before ∧ y <+: ctx.after ∧
      deleteBefore = x.length ∧ deleteAfter = y.length

theorem Erases.mono {ctx : Context} {edit : Edit} {mayErase mayErase' : Text → Text → Prop}
    (erases : edit.Erases ctx mayErase) (wider : ∀ x y, mayErase x y → mayErase' x y) :
    edit.Erases ctx mayErase' := by
  cases edit with
  | passThrough key => trivial
  | move distance => trivial
  | replace deleteBefore deleteAfter text cursorOffset =>
    obtain ⟨x, y, may, place⟩ := erases
    exact ⟨x, y, wider x y may, place⟩

/-- The edit keeps to the line and takes nothing away. -/
def OnlyInserts (ctx : Context) (edit : Edit) : Prop :=
  edit.StaysInLine ctx ∧ edit.Erases ctx fun x y => x = [] ∧ y = []

variable {ctx : Context}

theorem passThrough_onlyInserts (key : Text) : OnlyInserts ctx (.passThrough key) :=
  ⟨trivial, trivial⟩

theorem insertPair_onlyInserts {text : Text} {closingLength : Nat}
    (inside : closingLength ≤ text.length) : OnlyInserts ctx (insertPair text closingLength) := by
  refine ⟨⟨⟨by omega, by omega⟩, ⟨by omega, by omega⟩, by omega, by omega⟩, ?_⟩
  exact ⟨[], [], ⟨rfl, rfl⟩, List.nil_suffix, List.nil_prefix, rfl, rfl⟩

theorem insertText_onlyInserts (text : Text) : OnlyInserts ctx (insertText text) := by
  have inserts : OnlyInserts ctx (insertPair text 0) := insertPair_onlyInserts (Nat.zero_le _)
  rwa [insertPair, Int.natCast_zero, Int.sub_zero] at inserts

theorem move_onlyInserts {t : Text} (nonempty : t ≠ []) (next : t <+: ctx.after) :
    OnlyInserts ctx (.move t.length) := by
  have positive := List.length_pos_of_ne_nil nonempty
  have bound := next.length_le
  exact ⟨⟨by omega, by omega⟩, trivial⟩

end Edit

/-- The rules before a rule were tried and none stood around the cursor, and then the rule was found to
be active. -/
def Rule.IsFoundActive (rule : Rule) (action : Action) (rules : List Rule) (ctx : Context)
    (memo : Memo) : Prop :=
  ∃ earlier later between after, rules = earlier ++ rule :: later ∧
    (surrounding (some action) earlier).run' ctx memo = (.ok none, between) ∧
    (rule.isActive (some action)).run' ctx between = (.ok true, after)

/-- What a key of a kind may take away before and after the cursor. -/
def RuleIndex.MayErase (index : RuleIndex) (ctx : Context) (kind : KeyKind) (x y : Text) : Prop :=
  match kind with
  | .printable | .space => x = [] ∧ y = []
  | .enter => (x = [] ∧ y = []) ∨ (x = [space] ∧ y = [space])
  | .backspace =>
    (x = [space] ∧ y = [space]) ∨
      ∃ rule : Rule, rule.IsFoundActive .backspace index.all ctx {} ∧ x = rule.opening ∧ y = rule.closing

/-! ### Printable keys -/

variable {ctx : Context} {key : Text} {rule : Rule}

theorem openPair_onlyInserts (typed : Nat) :
    (openPair key rule typed).Ends ctx (Edit.OnlyInserts ctx) fun _ => True := by
  refine (openPair_ends typed).mono (fun edit ends => ?_) fun _ => id
  rcases ends with rfl | rfl
  · exact Edit.passThrough_onlyInserts key
  · exact Edit.insertPair_onlyInserts (by simp)

theorem closePair_onlyInserts :
    (closePair key rule).Ends ctx (Edit.OnlyInserts ctx) fun _ => True := by
  refine closePair_ends.mono (fun edit ends => ?_) fun _ => id
  rcases ends with rfl | rfl | ⟨nonempty, next, rfl⟩ | ⟨next, rfl⟩
  · exact Edit.passThrough_onlyInserts key
  · exact Edit.insertText_onlyInserts _
  · exact Edit.move_onlyInserts nonempty next
  · exact Edit.move_onlyInserts (List.cons_ne_nil _ _) next

theorem openOrClosePair_onlyInserts :
    (openOrClosePair key rule).Ends ctx (Edit.OnlyInserts ctx) fun _ => True := by
  refine openOrClosePair_ends.mono (fun edit ends => ?_) fun _ => id
  rcases ends with rfl | ⟨nonempty, next, rfl⟩ | ⟨opening, closing, rfl, -⟩
  · exact Edit.passThrough_onlyInserts key
  · exact Edit.move_onlyInserts nonempty next
  · exact Edit.insertPair_onlyInserts (by simp)

theorem decideAmong_onlyInserts (rules : List Rule) :
    (decideAmong key rules).Ends ctx (fun outcome => outcome.edit.OnlyInserts ctx)
      fun _ => True := by
  induction rules with
  | nil => exact .pure (Edit.passThrough_onlyInserts key)
  | cons rule rest ih =>
    refine decideAmong_cons_ends ?_
    cases rule.turn key ctx with
    | either => exact openOrClosePair_onlyInserts
    | opens typed => exact openPair_onlyInserts typed
    | closes => exact closePair_onlyInserts
    | passes => exact ih
    | fails => trivial

/-! ### Between delimiters -/

/-- The delimiters are one space apart from the cursor on each side, and that is accepted. -/
theorem Context.surroundedBy_eq_true_iff {acceptsPadding : Bool} :
    ctx.surroundedBy rule acceptsPadding = some true ↔ acceptsPadding = true ∧
      ∃ x y, ctx.before = x ++ [space] ∧ ctx.after = space :: y ∧ rule.opening <:+ x ∧ rule.closing <+: y := by
  have stands : (acceptsPadding && (ctx.before.getLast? == some space && ctx.after.head? == some space) &&
        rule.opening.isSuffixOf ctx.before.dropLast && rule.closing.isPrefixOf ctx.after.tail) = true ↔
      acceptsPadding = true ∧ ∃ x y, ctx.before = x ++ [space] ∧ ctx.after = space :: y ∧
        rule.opening <:+ x ∧ rule.closing <+: y := by
    simp only [Bool.and_eq_true, beq_iff_eq, List.isSuffixOf_iff_suffix, List.isPrefixOf_iff_prefix,
      List.getLast?_eq_some_iff, List.head?_eq_some_iff]
    constructor
    · rintro ⟨⟨⟨accepts, ⟨x, before⟩, y, after⟩, opens⟩, closes⟩
      rw [before, List.dropLast_concat] at opens
      rw [after, List.tail_cons] at closes
      exact ⟨accepts, x, y, before, after, opens, closes⟩
    · rintro ⟨accepts, x, y, before, after, opens, closes⟩
      rw [before, after, List.dropLast_concat, List.tail_cons]
      exact ⟨⟨⟨accepts, ⟨x, rfl⟩, y, rfl⟩, opens⟩, closes⟩
  rw [← stands, Context.surroundedBy]
  split
  · next apart => exact iff_of_true rfl apart
  · next notApart =>
    refine iff_of_false (fun same => ?_) notApart
    split at same <;> cases same

/-- The delimiters are next to the cursor, and not accepted as one space apart from it. -/
theorem Context.surroundedBy_eq_false_iff {acceptsPadding : Bool} :
    ctx.surroundedBy rule acceptsPadding = some false ↔ rule.opening <:+ ctx.before ∧
      rule.closing <+: ctx.after ∧ ctx.surroundedBy rule acceptsPadding ≠ some true := by
  rw [Context.surroundedBy]
  split
  · simp
  · split
    · next stands =>
      simp only [Bool.and_eq_true, List.isSuffixOf_iff_suffix, List.isPrefixOf_iff_prefix] at stands
      simpa using stands
    · next standsNot =>
      simp only [Bool.and_eq_true, List.isSuffixOf_iff_suffix, List.isPrefixOf_iff_prefix] at standsNot
      simpa using standsNot

/-- Padding is a space on each side of the cursor. -/
theorem Context.spaces_of_surroundedBy {acceptsPadding : Bool}
    (padded : ctx.surroundedBy rule acceptsPadding = some true) :
    [space] <:+ ctx.before ∧ [space] <+: ctx.after := by
  obtain ⟨-, x, y, before, after, -, -⟩ := Context.surroundedBy_eq_true_iff.mp padded
  rw [before, after]
  exact ⟨List.suffix_append _ _, List.prefix_append [space] y⟩

/-- Without padding the delimiters stand next to the cursor. -/
theorem Context.delimiters_of_surroundedBy {acceptsPadding : Bool}
    (close : ctx.surroundedBy rule acceptsPadding = some false) :
    rule.opening <:+ ctx.before ∧ rule.closing <+: ctx.after := by
  obtain ⟨opens, closes, -⟩ := Context.surroundedBy_eq_false_iff.mp close
  exact ⟨opens, closes⟩

/-- The rule that is found is active when it is tried, and its delimiters stand around the cursor. -/
theorem surrounding_eq_some {action : Action} {rules : List Rule} {memo after : Memo}
    {found : Surrounding}
    (run : (surrounding (some action) rules).run' ctx memo = (.ok (some found), after)) :
    found.rule.IsFoundActive action rules ctx memo ∧
      ctx.surroundedBy found.rule (acceptsPadding (some action)) = some found.padded := by
  induction rules generalizing memo with
  | nil => simp [surrounding] at run
  | cons rule rest ih =>
    unfold surrounding at run
    obtain ⟨isActive, between, active, next⟩ := Query.exists_of_run'_bind run
    -- A rule that is passed over is one more of those that were tried.
    have later (goesOn : (surrounding (some action) rest).run' ctx between = (.ok (some found), after))
        (passed : ∀ earlier last, (surrounding (some action) earlier).run' ctx between = (.ok none, last) →
          (surrounding (some action) (rule :: earlier)).run' ctx memo = (.ok none, last)) :
        found.rule.IsFoundActive action (rule :: rest) ctx memo ∧
          ctx.surroundedBy found.rule (acceptsPadding (some action)) = some found.padded := by
      obtain ⟨⟨earlier, later, last, end_, parts, tried, activeThen⟩, stands⟩ := ih goesOn
      exact ⟨⟨rule :: earlier, later, last, end_, by rw [parts, List.cons_append],
        passed earlier last tried, activeThen⟩, stands⟩
    cases isActive with
    | false =>
      refine later next fun earlier last tried => ?_
      rw [surrounding, Query.run'_bind_of_ok active]
      exact tried
    | true =>
      simp only [if_true, Query.run'_read_bind] at next
      cases place : ctx.surroundedBy rule (acceptsPadding (some action)) with
      | some padded =>
        rw [place] at next
        obtain ⟨rfl, rfl⟩ : ⟨rule, padded⟩ = found ∧ between = after := by simpa using next
        exact ⟨⟨[], rest, memo, between, rfl, rfl, active⟩, place⟩
      | none =>
        rw [place] at next
        refine later next fun earlier last tried => ?_
        rw [surrounding, Query.run'_bind_of_ok active]
        simp only [if_true, Query.run'_read_bind, place]
        exact tried

/-- Between delimiters a key is let through, or a rule that was found decides. -/
theorem decideBetween_cases {index : RuleIndex} {action : Action}
    {edit : Context → Surrounding → Edit} {memo after : Memo} {outcome : Outcome}
    (run : (decideBetween index key action edit).run' ctx memo = (.ok outcome, after)) :
    outcome = ⟨.passThrough key, none⟩ ∨ ∃ found, outcome = ⟨edit ctx found, some found.rule⟩ ∧
      found.rule.IsFoundActive action index.all ctx memo ∧
      ctx.surroundedBy found.rule (acceptsPadding (some action)) = some found.padded := by
  unfold decideBetween at run
  obtain ⟨result, between, tried, next⟩ := Query.exists_of_run'_bind run
  cases result with
  | none => exact Or.inl (Query.of_run'_pure ctx next).1.symm
  | some found =>
    exact Or.inr ⟨found, (Query.of_run'_pure ctx next).1.symm, surrounding_eq_some tried⟩

theorem backspaceEdit_staysInLine {found : Surrounding} {acceptsPadding : Bool}
    (stands : ctx.surroundedBy found.rule acceptsPadding = some found.padded) :
    (backspaceEdit ctx found).StaysInLine ctx ∧ (backspaceEdit ctx found).Erases ctx fun x y =>
      (x = [space] ∧ y = [space]) ∨ (x = found.rule.opening ∧ y = found.rule.closing) := by
  unfold backspaceEdit
  cases padded : found.padded with
  | true =>
    rw [padded] at stands
    obtain ⟨before, after⟩ := Context.spaces_of_surroundedBy stands
    have := before.length_le
    have := after.length_le
    simp only [List.length_singleton] at *
    refine ⟨⟨⟨by omega, by omega⟩, ⟨by omega, by omega⟩, by simp⟩, [space], [space],
      Or.inl ⟨rfl, rfl⟩, before, after, rfl, rfl⟩
  | false =>
    rw [padded] at stands
    obtain ⟨before, after⟩ := Context.delimiters_of_surroundedBy stands
    have := before.length_le
    have := after.length_le
    refine ⟨⟨⟨by simp, by simpa⟩, ⟨by simp, by simpa⟩, by simp⟩,
      found.rule.opening, found.rule.closing, Or.inr ⟨rfl, rfl⟩, before, after, rfl, rfl⟩

theorem enterEdit_staysInLine {found : Surrounding} {acceptsPadding : Bool}
    (stands : ctx.surroundedBy found.rule acceptsPadding = some found.padded) :
    (enterEdit ctx found).StaysInLine ctx ∧ (enterEdit ctx found).Erases ctx fun x y =>
      (x = [] ∧ y = []) ∨ (x = [space] ∧ y = [space]) := by
  unfold enterEdit
  cases padded : found.padded with
  | true =>
    rw [padded] at stands
    obtain ⟨before, after⟩ := Context.spaces_of_surroundedBy stands
    have := before.length_le
    have := after.length_le
    simp only [List.length_singleton] at *
    refine ⟨⟨⟨by simp, by simp; omega⟩, ⟨by simp, by simp; omega⟩, by omega, ?_⟩, [space], [space],
      Or.inr ⟨rfl, rfl⟩, before, after, rfl, rfl⟩
    simp only [List.length_append, List.length_singleton]
    omega
  | false =>
    refine ⟨⟨by simp, by simp, by omega, ?_⟩, [], [], Or.inl ⟨rfl, rfl⟩, List.nil_suffix,
      List.nil_prefix, rfl, rfl⟩
    simp only [List.length_append, List.length_singleton]
    omega

/-! ### Carrying edits out -/

/-- An edit is carried out in full: the cursor moves by the whole distance, and what is replaced is in
the text. -/
def Buffer.CarriesOut (buffer : Buffer) : Edit → Prop
  | .passThrough _ => True
  | .move distance =>
    (buffer.apply (.move distance)).text = buffer.text ∧
      (buffer.apply (.move distance)).offset = buffer.offset + distance
  | .replace deleteBefore deleteAfter text cursorOffset =>
    let start := buffer.offset - deleteBefore
    let stop := buffer.offset + deleteAfter
    let after := buffer.apply (.replace deleteBefore deleteAfter text cursorOffset)
    0 ≤ start ∧ stop ≤ buffer.text.length ∧
      after.text = buffer.text.take start.toNat ++ text ++ buffer.text.drop stop.toNat ∧
      after.offset = start + cursorOffset

/-- What stays in the line is in the text, wherever the cursor is. -/
theorem Buffer.carriesOut_of_staysInLine {buffer : Buffer} {situation : Situation} {oracle : Oracle}
    {edit : Edit} (stays : edit.StaysInLine (buffer.context situation oracle)) :
    buffer.CarriesOut edit := by
  obtain ⟨a, b, text, offset, before, after⟩ := buffer.exists_cut situation oracle
  have beforeLength := before.length_le
  have afterLength := after.length_le
  have length : buffer.text.length = a.length + b.length := by rw [text, List.length_append]
  cases edit with
  | passThrough key => trivial
  | move distance =>
    obtain ⟨forward, inLine⟩ := stays
    obtain ⟨target, atTarget⟩ : ∃ target : Nat, buffer.offset + distance = target :=
      ⟨(buffer.offset + distance).toNat, by omega⟩
    simp only [CarriesOut]
    rw [apply_move (by omega) (by omega), atTarget]
    exact ⟨rfl, offset_ofOffset (by omega)⟩
  | replace deleteBefore deleteAfter inserted cursorOffset =>
    obtain ⟨⟨_, _⟩, ⟨_, _⟩, _, _⟩ := stays
    -- The erased units are the last ones before the cut and the first ones after it.
    obtain ⟨a', x, rfl, xLength⟩ : ∃ a' x, a = a' ++ x ∧ deleteBefore = (x.length : Int) :=
      ⟨a.take (a.length - deleteBefore.toNat), a.drop (a.length - deleteBefore.toNat),
        (List.take_append_drop _ _).symm, by rw [List.length_drop]; omega⟩
    obtain ⟨y, b', rfl, yLength⟩ : ∃ y b', b = y ++ b' ∧ deleteAfter = (y.length : Int) :=
      ⟨b.take deleteAfter.toNat, b.drop deleteAfter.toNat, (List.take_append_drop _ _).symm, by
        rw [List.length_take]; omega⟩
    obtain ⟨place, rfl⟩ : ∃ place : Nat, cursorOffset = place := ⟨cursorOffset.toNat, by omega⟩
    subst xLength yLength
    have start : buffer.offset - x.length = (a'.length : Nat) := by
      rw [offset, List.length_append]
      omega
    have stop : buffer.offset + y.length = ((a' ++ x ++ y).length : Nat) := by
      rw [offset]
      simp only [List.length_append]
      omega
    have parts : buffer.text = (a' ++ x ++ y) ++ b' := by
      rw [text]
      simp only [List.append_assoc]
    simp only [CarriesOut]
    rw [apply_replace text offset, start, stop, Int.toNat_natCast, Int.toNat_natCast, parts,
      List.drop_left, text_ofOffset]
    refine ⟨by omega, by simp only [List.length_append]; omega, by simp, ?_⟩
    rw [← Int.natCast_add]
    exact offset_ofOffset (by simp only [List.length_append]; omega)

/-! ### Every verdict -/

/-- A verdict is to let the key through, or comes from a run that gave it. -/
theorem Verdict.edit_ofQuery {query : Query Outcome} {kind : KeyKind} (meets : Edit → Prop)
    (letThrough : meets (.passThrough key))
    (given : ∀ outcome after, query.run' ctx {} = (.ok outcome, after) → meets outcome.edit) :
    meets (ofQuery key kind query ctx).edit := by
  unfold ofQuery
  cases run : query.run' ctx {} with
  | mk outcome after =>
    cases outcome with
    | ok outcome => exact given outcome after run
    | error fault => exact letThrough

/-- The edit for a key keeps to the line and takes away only what the key may take away. -/
theorem RuleIndex.decide_erases (index : RuleIndex) (ctx : Context) (kind : KeyKind) (key : Text) :
    (index.decide kind key ctx).edit.StaysInLine ctx ∧
      (index.decide kind key ctx).edit.Erases ctx (index.MayErase ctx kind) := by
  cases kind with
  | printable =>
    refine Verdict.edit_ofQuery (Edit.OnlyInserts ctx) (Edit.passThrough_onlyInserts key) ?_
    intro outcome after run
    exact ((Query.Ends.any _ _).bind fun rules _ => decideAmong_onlyInserts rules).of_run' run
  | space =>
    refine Verdict.edit_ofQuery (Edit.OnlyInserts ctx)
      (Edit.passThrough_onlyInserts spaceKey) ?_
    intro outcome after run
    obtain through | ⟨found, decided, _⟩ := decideBetween_cases run
    · rw [through]
      exact Edit.passThrough_onlyInserts spaceKey
    · rw [decided]
      exact Edit.insertPair_onlyInserts (by simp)
  | enter =>
    refine Verdict.edit_ofQuery (fun edit => edit.StaysInLine ctx ∧ edit.Erases ctx _)
      ⟨trivial, trivial⟩ ?_
    intro outcome after run
    obtain through | ⟨found, decided, _, stands⟩ := decideBetween_cases run
    · rw [through]
      exact ⟨trivial, trivial⟩
    · rw [decided]
      exact enterEdit_staysInLine stands
  | backspace =>
    refine Verdict.edit_ofQuery (fun edit => edit.StaysInLine ctx ∧ edit.Erases ctx _)
      ⟨trivial, trivial⟩ ?_
    intro outcome after run
    obtain through | ⟨found, decided, active, stands⟩ := decideBetween_cases run
    · rw [through]
      exact ⟨trivial, trivial⟩
    · rw [decided]
      obtain ⟨stays, erases⟩ := backspaceEdit_staysInLine stands
      exact ⟨stays, erases.mono fun _ _ what =>
        what.imp_right fun delimiters => ⟨found.rule, active, delimiters⟩⟩

/-- **The edit for a key keeps to the line of the cursor.** It takes away only what the key may take away, and is
carried out in full. -/
theorem RuleIndex.decide_staysInLine (index : RuleIndex) (buffer : Buffer) (situation : Situation)
    (oracle : Oracle) (kind : KeyKind) (key : Text) :
    let ctx := buffer.context situation oracle
    let edit := (index.decide kind key ctx).edit
    edit.StaysInLine ctx ∧ edit.Erases ctx (index.MayErase ctx kind) ∧ buffer.CarriesOut edit := by
  intro ctx edit
  obtain ⟨stays, erases⟩ := index.decide_erases ctx kind key
  exact ⟨stays, erases, Buffer.carriesOut_of_staysInLine stays⟩

end Pairing
