/-
**Taking back what was inserted.**

A key inserts a pair, or the space bar pads one, and the backspace key follows at once. Other rules may stand
around the cursor with what the text had next to it, but none of them is found first:

* `RuleIndex.OpensApart`: no opening ends another one or in a space, and delimiters lie on one line;
* `RuleIndex.OpensApart.firstAround_eq`: then the rule between whose delimiters the cursor stands is the first
  one around it;
* `Context.surroundedBy_padded`, `Context.firstAround_padded`: the rules around a cursor are the same once it
  is padded, and padded;
* `Buffer.erase_insertAround`: what was inserted on both sides of the cursor is erased again.

`RuleIndex.backspace_undoesPair` and `RuleIndex.backspace_undoesPadding` put this together.
-/

import Pairing.Proofs.Decision.Around
import Pairing.Proofs.Decision.Deciding

namespace Pairing

open Text Buffer

/-! ### Openings that no other rule opens with -/

/-- No opening ends the opening of another rule, none ends in a space, and delimiters lie on one line. -/
structure RuleIndex.OpensApart (index : RuleIndex) : Prop where
  apart : ∀ rule ∈ index.all, ∀ other ∈ index.all, other.opening <:+ rule.opening → other = rule
  noSpace : ∀ rule ∈ index.all, ¬ [space] <:+ rule.opening
  inLine : ∀ rule ∈ index.all, newline ∉ rule.opening ∧ newline ∉ rule.closing

/-- If a text ends with a space, so does what ends the text, unless it is empty. -/
theorem Text.space_suffix_of_suffix {t opening : Text} (nonempty : opening ≠ []) (opened : opening <:+ t)
    (spaced : [space] <:+ t) : [space] <:+ opening :=
  List.suffix_of_suffix_length_le spaced opened (List.length_pos_iff.mpr nonempty)

namespace RuleIndex

variable {index : RuleIndex} {rule : Rule} {ctx : Context}

/-- The rule between whose delimiters the cursor stands is the first one around it. -/
theorem OpensApart.firstAround_eq (apart : index.OpensApart) (nonempty : ∀ rule ∈ index.all, rule.opening ≠ [])
    (member : rule ∈ index.all) (opened : rule.opening <:+ ctx.before) (isNext : rule.closing <+: ctx.after)
    (acceptsPadding : Bool) : ctx.firstAround acceptsPadding index.all = some ⟨rule, false⟩ := by
  have notPadded (other : Rule) : ctx.surroundedBy other acceptsPadding ≠ some true := by
    intro padded
    obtain ⟨spaced, -⟩ := Context.spaces_of_surroundedBy padded
    exact apart.noSpace rule member (space_suffix_of_suffix (nonempty rule member) opened spaced)
  refine Context.firstAround_eq_of_unique member
    (Context.surroundedBy_eq_false_iff.mpr ⟨opened, isNext, notPadded rule⟩) fun other inside stands => ?_
  obtain ⟨padded, around⟩ := Option.ne_none_iff_exists'.mp stands
  cases padded with
  | true => exact absurd around (notPadded other)
  | false =>
    -- Both openings end at the cursor, so that one of them ends the other one.
    obtain ⟨otherOpened, -⟩ := Context.delimiters_of_surroundedBy around
    rcases List.suffix_or_suffix_of_suffix otherOpened opened with ends | ends
    · exact apart.apart rule member other inside ends
    · exact (apart.apart other inside rule member ends).symm

/-- A rule that decides on a key is reached from it. -/
theorem mem_rulesFor_of_decided {key : Text} {edit : Edit}
    (decided : (Pairing.decidePrintable index key).eval ctx = .ok ⟨edit, some rule⟩) :
    rule ∈ index.rulesFor key := by
  obtain ⟨active, between, search, decides⟩ := Query.exists_of_run'_bind (Query.run'_of_eval decided)
  obtain ⟨passed, rest, rfl, -⟩ := exists_split_of_decideAmong decides
  have isSome := (allActive_ends (index.rulesFor key) none fun _ _ => .any _ _).of_run' search
  exact isSome.subset (List.mem_append_right _ List.mem_cons_self)

end RuleIndex

/-! ### Padding -/

namespace Context

variable {ctx padded : Context} {rule : Rule} {rules : List Rule}

/-- A rule stands around a padded cursor if and only if it stood around the cursor, and then it is padded. -/
theorem surroundedBy_padded (before : padded.before = ctx.before ++ [space])
    (after : padded.after = space :: ctx.after) (opens : rule.opening ≠ []) (closes : rule.closing ≠ [])
    (noGap : ¬ ([space] <:+ rule.opening ∧ [space] <+: rule.closing)) :
    padded.surroundedBy rule true = (ctx.surroundedBy rule false).map fun _ => true := by
  have isPadded : padded.surroundedBy rule true = some true ↔
      rule.opening <:+ ctx.before ∧ rule.closing <+: ctx.after := by
    rw [surroundedBy_eq_true_iff, before, after]
    constructor
    · rintro ⟨-, x, y, isFront, isRest, opened, isNext⟩
      obtain ⟨rfl, -⟩ := List.append_inj' isFront rfl
      obtain ⟨-, rfl⟩ := List.cons.inj isRest
      exact ⟨opened, isNext⟩
    · rintro ⟨opened, isNext⟩
      exact ⟨rfl, _, _, rfl, rfl, opened, isNext⟩
  have notTight : padded.surroundedBy rule true ≠ some false := by
    intro tight
    obtain ⟨opened, isNext⟩ := delimiters_of_surroundedBy tight
    rw [before] at opened
    rw [after] at isNext
    refine noGap ⟨space_suffix_of_suffix opens opened (List.suffix_append _ _), ?_⟩
    exact List.prefix_of_prefix_length_le (List.prefix_append [space] ctx.after) isNext
      (List.length_pos_iff.mpr closes)
  have notTrue : ctx.surroundedBy rule false ≠ some true := fun same =>
    Bool.false_ne_true (surroundedBy_eq_true_iff.mp same).1
  cases stood : ctx.surroundedBy rule false with
  | some wasPadded =>
    cases wasPadded with
    | true => exact absurd stood notTrue
    | false => exact isPadded.mpr (delimiters_of_surroundedBy stood)
  | none =>
    cases stands : padded.surroundedBy rule true with
    | none => rfl
    | some isPaddedNow =>
      cases isPaddedNow with
      | false => exact absurd stands notTight
      | true =>
        obtain ⟨opened, isNext⟩ := isPadded.mp stands
        have wasTight := surroundedBy_eq_false_iff.mpr ⟨opened, isNext, notTrue⟩
        cases stood.symm.trans wasTight

/-- The first rule around a padded cursor is the one that was first before. -/
theorem firstAround_padded (before : padded.before = ctx.before ++ [space])
    (after : padded.after = space :: ctx.after)
    (delimiters : ∀ rule ∈ rules, rule.opening ≠ [] ∧ rule.closing ≠ [])
    (noGap : ∀ rule ∈ rules, ¬ ([space] <:+ rule.opening ∧ [space] <+: rule.closing)) :
    padded.firstAround true rules = (ctx.firstAround false rules).map fun found => ⟨found.rule, true⟩ := by
  induction rules with
  | nil => rfl
  | cons first rest ih =>
    obtain ⟨⟨opens, closes⟩, restDelimiters⟩ := List.forall_mem_cons.mp delimiters
    obtain ⟨firstNoGap, restNoGap⟩ := List.forall_mem_cons.mp noGap
    rw [firstAround, firstAround, List.findSome?_cons, List.findSome?_cons,
      surroundedBy_padded before after opens closes firstNoGap]
    cases ctx.surroundedBy first false with
    | none => exact ih restDelimiters restNoGap
    | some wasPadded => rfl

end Context

/-! ### Inserted on both sides, and erased again -/

namespace Buffer

/-- Two texts are put in at the cursor, which comes to stand between them. -/
theorem exists_insertAround (buffer : Buffer) (x y : Text) :
    ∃ a b, buffer.clamped = ofOffset (a ++ b) a.length ∧
      buffer.apply (.replace 0 0 (x ++ y) x.length) = ofOffset ((a ++ x) ++ (y ++ b)) (a ++ x).length := by
  obtain ⟨a, b, -, -, isCut⟩ := buffer.exists_clamped_eq
  refine ⟨a, b, isCut, ?_⟩
  rw [← apply_clamped, isCut, apply_insert]
  simp

/-- What was put in on both sides of the cursor is erased again. -/
theorem erase_insertAround (buffer : Buffer) (x y : Text) :
    (buffer.apply (.replace 0 0 (x ++ y) x.length)).apply (.replace x.length y.length [] 0) =
      buffer.clamped := by
  obtain ⟨a, b, isCut, inserted⟩ := buffer.exists_insertAround x y
  rw [inserted, isCut]
  refine (apply_replace (text_ofOffset _ _) (offset_ofOffset_append _ _) [] 0).trans ?_
  simp

/-- A cursor in the text that is padded has a space more on each side. -/
theorem context_padded {buffer : Buffer} (holds : buffer.text.Holds buffer.cursor)
    (situation later : Situation) (oracle laterOracle : Oracle) :
    let padded := buffer.apply (.replace 0 0 [space, space] 1)
    (padded.context later laterOracle).before = (buffer.context situation oracle).before ++ [space] ∧
      (padded.context later laterOracle).after = space :: (buffer.context situation oracle).after := by
  intro padded
  have notNewline : newline ∉ [space] := by decide
  obtain ⟨a, b, isCut, inserted⟩ := buffer.exists_insertAround [space] [space]
  rw [clamped_of_holds holds] at isCut
  replace inserted : padded = ofOffset ((a ++ [space]) ++ ([space] ++ b)) (a ++ [space]).length := inserted
  rw [inserted, isCut, context_ofOffset, context_ofOffset]
  exact ⟨lastLine_append_of_notMem a notNewline, firstLine_append b notNewline⟩

end Buffer

/-! ### The backspace key -/

namespace RuleIndex

variable {definitions : Definitions} {index : RuleIndex} {rule : Rule} {key : Text}

/-- **Backspace takes back a pair.** No definition says where its rule applies or what it allows, no opening ends
another one or in a space, and delimiters lie on one line. Wherever a key inserts the whole pair of a rule and
leaves the cursor between its delimiters, the backspace key at once erases just these, by the same rule, whatever
stands next to them. The text is as it was, and the cursor is where it was, or at the nearest position in the
text. -/
theorem backspace_undoesPair (compiled : compile definitions = .ok index) (unguarded : definitions.AreUnguarded)
    (apart : index.OpensApart) (buffer : Buffer) (situation later : Situation) (oracle laterOracle : Oracle)
    (decided : (Pairing.decidePrintable index key).eval (buffer.context situation oracle) =
      .ok ⟨.replace 0 0 (rule.opening ++ rule.closing) rule.opening.length, some rule⟩) :
    let opened := buffer.apply (index.decide .printable key (buffer.context situation oracle)).edit
    let verdict := index.decide .backspace backspaceKey (opened.context later laterOracle)
    verdict.edit = .replace rule.opening.length rule.closing.length [] 0 ∧
      verdict.record.rule = some rule.name ∧ opened.apply verdict.edit = buffer.clamped := by
  intro opened verdict
  have member : rule ∈ index.all := by
    obtain ⟨-, rules, -, rfl⟩ := compile_eq_ok_iff.mp compiled
    exact mem_all_ofRules.mpr (mem_rulesFor_ofRules.mp (mem_rulesFor_of_decided decided)).1
  have isOpened : opened = buffer.apply (.replace 0 0 (rule.opening ++ rule.closing) rule.opening.length) := by
    show buffer.apply (Verdict.ofQuery key .printable (Pairing.decidePrintable index key) _).edit = _
    rw [Verdict.ofQuery, Query.run'_of_eval decided]
    rfl
  obtain ⟨a, b, -, inserted⟩ := buffer.exists_insertAround rule.opening rule.closing
  obtain ⟨openingInLine, closingInLine⟩ := apart.inLine rule member
  obtain ⟨before, after⟩ := context_between openingInLine closingInLine (List.suffix_append a rule.opening) b
    later laterOracle
  rw [← inserted, ← isOpened] at before after
  have around : (surrounding (some .backspace) index.all).eval (opened.context later laterOracle) =
      .ok (some ⟨rule, false⟩) := by
    rw [eval_surrounding_of_unguarded fun other inside => isUnguarded_of_compile compiled unguarded inside,
      apart.firstAround_eq (fun other inside => (delimiters_ne_nil_of_compile compiled inside).1) member before
        after]
  have decides : verdict.edit = .replace rule.opening.length rule.closing.length [] 0 ∧
      verdict.record.rule = some rule.name := Verdict.ofQuery_of_found around
  obtain ⟨erases, byRule⟩ := decides
  refine ⟨erases, byRule, ?_⟩
  rw [erases, isOpened, erase_insertAround]

/-- A pair that was typed with the cursor beside the text goes to the end of the text, and is taken back there. -/
theorem backspace_undoesPair_besideText :
    let closings : List (Text × Text) := [("(", ")"), ("[", "]]")]
    let index := ofClosings closings
    let bracket : Rule := .ofClosing "[" "]]" 1
    let situation : Situation := ⟨"text", .insert, none⟩
    let beside : Buffer := ⟨"a\n(", ⟨5, 9⟩⟩
    let opened := beside.apply (index.decide .printable "[" (beside.context situation .silent)).edit
    compile (.ofClosings closings) = .ok index ∧ (Definitions.ofClosings closings).AreUnguarded ∧
      index.OpensApart ∧ (Pairing.decidePrintable index "[").eval (beside.context situation .silent) =
        .ok ⟨.replace 0 0 (bracket.opening ++ bracket.closing) bracket.opening.length, some bracket⟩ ∧
      opened = ⟨"a\n([]]", ⟨1, 2⟩⟩ ∧
      opened.apply (index.decide .backspace backspaceKey (opened.context situation .silent)).edit =
        ⟨"a\n(", ⟨1, 1⟩⟩ := by
  intro closings index bracket situation beside opened
  have sound : ∀ entry ∈ closings, entry.1.isSingleCluster = true ∧ entry.2 ≠ [] := by
    decide +kernel
  have compiled : compile (.ofClosings closings) = .ok index :=
    compile_ofClosings fun key closing member => sound (key, closing) member
  have isOneOf (rule : Rule) (member : rule ∈ index.all) :
      rule = .ofClosing "(" ")" 0 ∨ rule = .ofClosing "[" "]]" 1 := by
    obtain _ | ⟨_, _ | ⟨_, none⟩⟩ := mem_all_ofClosings.mp member
    · exact Or.inl rfl
    · exact Or.inr rfl
    · cases none
  have apart : index.OpensApart := by
    refine ⟨fun rule member other inside ends => ?_, fun rule member => ?_, fun rule member => ?_⟩
    · obtain rfl | rfl := isOneOf rule member <;> obtain rfl | rfl := isOneOf other inside
      · rfl
      · exact absurd ends (by decide)
      · exact absurd ends (by decide)
      · rfl
    · obtain rfl | rfl := isOneOf rule member <;> decide
    · obtain rfl | rfl := isOneOf rule member <;> decide
  have decided : (Pairing.decidePrintable index "[").eval (beside.context situation .silent) =
      .ok ⟨.replace 0 0 (bracket.opening ++ bracket.closing) bracket.opening.length, some bracket⟩ := rfl
  have unguarded := Definitions.areUnguarded_ofClosings closings
  obtain ⟨-, -, undone⟩ := backspace_undoesPair compiled unguarded apart beside situation situation .silent .silent
    decided
  exact ⟨compiled, unguarded, apart, decided, by decide +kernel, undone.trans (by decide +kernel)⟩

/-- The space bar accepts no padding: where it is not let through, the rule that it found stands next to the
cursor. -/
theorem exists_tight_of_space {ctx : Context}
    (pads : (index.decide .space spaceKey ctx).edit.kind = .replace) :
    ∃ rule ∈ index.all, (surrounding (some .space) index.all).eval ctx = .ok (some ⟨rule, false⟩) ∧
      rule.opening <:+ ctx.before ∧ rule.closing <+: ctx.after := by
  have acts : (Verdict.ofQuery spaceKey .space (decideBetween index spaceKey .space spaceEdit)
      ctx).edit.kind ≠ .passThrough := fun passes => EditKind.noConfusion (passes.symm.trans pads)
  obtain ⟨⟨rule, padded⟩, around, member, stands⟩ := Verdict.exists_found_of_acts acts
  cases padded with
  | true => exact absurd (Context.surroundedBy_eq_true_iff.mp stands).1 Bool.false_ne_true
  | false => exact ⟨rule, member, around, Context.delimiters_of_surroundedBy stands⟩

/-- **Backspace takes back padding.** No definition says where its rule applies or what it allows, and no rule has
both an opening that ends with a space and a closing that starts with one. Wherever the space bar puts a space on
both sides of the cursor, the backspace key at once finds the rule that the space bar found, one space apart, and
erases the spaces. The text is as it was, and so is the cursor. -/
theorem backspace_undoesPadding (compiled : compile definitions = .ok index)
    (unguarded : definitions.AreUnguarded)
    (noGap : ∀ rule ∈ index.all, ¬ ([space] <:+ rule.opening ∧ [space] <+: rule.closing)) (buffer : Buffer)
    (situation later : Situation) (oracle laterOracle : Oracle)
    (pads : (index.decide .space spaceKey (buffer.context situation oracle)).edit.kind = .replace) :
    let padded := buffer.apply (index.decide .space spaceKey (buffer.context situation oracle)).edit
    let verdict := index.decide .backspace backspaceKey (padded.context later laterOracle)
    ∃ rule ∈ index.all,
      (Pairing.decideSpace index).eval (buffer.context situation oracle) =
        .ok ⟨.replace 0 0 [space, space] 1, some rule⟩ ∧
      (surrounding (some .backspace) index.all).eval (padded.context later laterOracle) =
        .ok (some ⟨rule, true⟩) ∧
      verdict.edit = .replace 1 1 [] 0 ∧ verdict.record.rule = some rule.name ∧
      padded.apply verdict.edit = buffer := by
  intro padded verdict
  have free : ∀ rule ∈ index.all, rule.IsUnguarded := fun rule inside =>
    isUnguarded_of_compile compiled unguarded inside
  have delimiters : ∀ rule ∈ index.all, rule.opening ≠ [] ∧ rule.closing ≠ [] := fun rule inside =>
    delimiters_ne_nil_of_compile compiled inside
  obtain ⟨rule, member, around, opened, isNext⟩ := exists_tight_of_space pads
  obtain ⟨opens, closes⟩ := delimiters rule member
  have holds : buffer.text.Holds buffer.cursor := holds_of_context (opened.ne_nil opens) (isNext.ne_nil closes)
  have isPadded : padded = buffer.apply (.replace 0 0 ([space] ++ [space]) [space].length) :=
    congrArg buffer.apply (Verdict.ofQuery_of_found around).1
  obtain ⟨before, after⟩ := context_padded holds situation later oracle laterOracle
  have wasFirst : (buffer.context situation oracle).firstAround false index.all = some ⟨rule, false⟩ := by
    rw [eval_surrounding_of_unguarded free] at around
    exact Except.ok.inj around
  have isAround : (surrounding (some .backspace) index.all).eval (padded.context later laterOracle) =
      .ok (some ⟨rule, true⟩) := by
    have isFirst := Context.firstAround_padded before after delimiters noGap
    rw [wasFirst] at isFirst
    rw [eval_surrounding_of_unguarded free, isPadded]
    exact congrArg Except.ok isFirst
  have decides : verdict.edit = .replace 1 1 [] 0 ∧ verdict.record.rule = some rule.name :=
    Verdict.ofQuery_of_found isAround
  obtain ⟨erases, byRule⟩ := decides
  refine ⟨rule, member, eval_decideBetween around, isAround, erases, byRule, ?_⟩
  rw [erases, isPadded]
  exact (erase_insertAround buffer [space] [space]).trans (clamped_of_holds holds)

/-- A rule that opens with a space is padded by two more of them, and these are taken back. -/
theorem backspace_undoesPadding_afterSpace :
    let closings : List (Text × Text) := [("(", "))"), (" ", ")")]
    let index := ofClosings closings
    let situation : Situation := ⟨"text", .insert, none⟩
    let buffer : Buffer := ⟨"a( ))", ⟨0, 3⟩⟩
    let padded := buffer.apply (index.decide .space spaceKey (buffer.context situation .silent)).edit
    compile (.ofClosings closings) = .ok index ∧ (Definitions.ofClosings closings).AreUnguarded ∧
      (∀ rule ∈ index.all, ¬ ([space] <:+ rule.opening ∧ [space] <+: rule.closing)) ∧
      (index.decide .space spaceKey (buffer.context situation .silent)).edit.kind = .replace ∧
      padded = ⟨"a(   ))", ⟨0, 4⟩⟩ ∧
      padded.apply (index.decide .backspace backspaceKey (padded.context situation .silent)).edit = buffer := by
  intro closings index situation buffer padded
  have sound : ∀ entry ∈ closings, entry.1.isSingleCluster = true ∧ entry.2 ≠ [] := by
    decide +kernel
  have compiled : compile (.ofClosings closings) = .ok index :=
    compile_ofClosings fun key closing member => sound (key, closing) member
  have unguarded := Definitions.areUnguarded_ofClosings closings
  have noGap : ∀ rule ∈ index.all, ¬ ([space] <:+ rule.opening ∧ [space] <+: rule.closing) := by
    intro rule member
    obtain _ | ⟨_, _ | ⟨_, none⟩⟩ := mem_all_ofClosings.mp member
    · decide +kernel
    · decide +kernel
    · cases none
  have pads : (index.decide .space spaceKey (buffer.context situation .silent)).edit.kind = .replace := by
    decide +kernel
  obtain ⟨-, -, -, -, -, -, undone⟩ := backspace_undoesPadding compiled unguarded noGap buffer situation situation
    .silent .silent pads
  exact ⟨compiled, unguarded, noGap, pads, by decide +kernel, undone⟩

end RuleIndex

end Pairing
