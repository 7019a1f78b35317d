/-
**Typing a pair and passing over its closing.**

A key opens a pair, and the first character of the closing follows at once. If one rule stands alone and nothing
guards it, the second key passes over the closing, unless the rule takes it for its opening once more:

* `Buffer.editFor`: the edit for a key, given what the host knows;
* `Rule.Reopens`: a rule takes a key for its opening right after the opening;
* `Rule.turn_of_opened`: what becomes of a key there;
* `RuleIndex.exists_typed_of_opens`: an edit that opens a pair completes the opening;
* `RuleIndex.edit_of_opened`, `RuleIndex.editFor_of_between`: the edit for the second key.

`RuleIndex.compile_roundTrip_iff` puts this together, and `RuleIndex.reopens_hashBracket` shows a rule that opens
its pair twice.
-/

import Pairing.Proofs.Decision.Faults
import Pairing.Proofs.Decision.Writing
import Pairing.Proofs.Definition.Unguarded
import Pairing.Proofs.Typing.Press

namespace Pairing

open Text Buffer

/-- The edit that is decided on for a key that inserts a character, given what the host knows. -/
def Buffer.editFor (index : RuleIndex) (situation : Situation) (oracle : Oracle) (buffer : Buffer)
    (key : Text) : Edit :=
  (index.decide .printable key (buffer.context situation oracle)).edit

/-! ### One rule alone -/

section Alone

variable {rule : Rule} {key : Text} {ctx : Context} {edit : Edit}

/-- A rule that opens its pair with a key completes the opening: of it stands before the cursor what comes before
the key. -/
theorem Rule.opening_of_turn {typed : Nat} (opens : rule.turn key ctx = .opens typed) :
    rule.opening.take typed <:+ ctx.before := by
  unfold turn at opens
  split at opens
  · cases opens
  split at opens
  · split at opens
    · obtain rfl := Turn.opens.inj opens
      exact List.take_zero ▸ List.nil_suffix
    · cases opens
  split at opens
  · cases opens
  split at opens
  · next starts =>
    obtain rfl := Turn.opens.inj opens
    rcases starts with rfl | stands
    · exact List.take_zero ▸ List.nil_suffix
    · exact List.isSuffixOf_iff_suffix.mp stands
  · split at opens <;> cases opens

/-- Among the rules that a key reaches there is one alone. -/
theorem RuleIndex.rulesFor_alone (reaches : key ∈ rule.reachingKeys) :
    (ofRules [rule]).rulesFor key = [rule] := by
  rw [rulesFor_ofRules, List.filter_cons_of_pos (by simpa using reaches), List.filter_nil]
  rfl

/-- An outcome that acts closes the pair of a rule, or inserts what is missing of its opening and the closing. -/
def Outcome.Completes (ctx : Context) (rule : Rule) (outcome : Outcome) : Prop :=
  outcome.edit.kind ≠ .passThrough → outcome.edit.Closes ctx rule ∨
    ∃ typed, rule.opening.take typed <:+ ctx.before ∧
      outcome.edit = .insertPair (rule.opening.drop typed ++ rule.closing) rule.closing.length

theorem decideAmong_completes (different : rule.opening ≠ rule.closing) {rules : List Rule}
    (alone : rules.Sublist [rule]) :
    (decideAmong key rules).Ends ctx (·.Completes ctx rule) fun _ => True := by
  rcases List.sublist_singleton.mp alone with rfl | rfl
  · exact .pure fun acts => absurd rfl acts
  refine decideAmong_cons_ends ?_
  cases turn : rule.turn key ctx with
  | either => exact absurd (beq_iff_eq.mp (Rule.turn_eq_either_iff.mp turn)) different
  | opens typed =>
    refine (openPair_ends typed).mono (fun edit ends acts => ?_) fun _ => id
    rcases ends with rfl | inserts
    · exact absurd rfl acts
    · exact Or.inr ⟨typed, Rule.opening_of_turn turn, inserts⟩
  | closes =>
    refine closePair_ends.mono (fun edit ends acts => ?_) fun _ => id
    rcases ends with rfl | closes
    · exact absurd rfl acts
    · exact Or.inl closes
  | passes => exact .pure fun acts => absurd rfl acts
  | fails => trivial

/-- An edit that opens the pair of the only rule that a key reaches completes the opening. -/
theorem RuleIndex.exists_typed_of_opens {index : RuleIndex} (alone : index.rulesFor key = [rule])
    (different : rule.opening ≠ rule.closing) (nonempty : rule.closing ≠ [])
    (opens : (index.decide .printable key ctx).edit.Opens rule key) :
    ∃ typed, rule.opening.take typed <:+ ctx.before ∧ (index.decide .printable key ctx).edit =
      .insertPair (rule.opening.drop typed ++ rule.closing) rule.closing.length := by
  have acts : (index.decide .printable key ctx).edit.kind ≠ .passThrough := by
    obtain ⟨typed, -, inserts⟩ := opens
    rw [inserts]
    exact EditKind.noConfusion
  obtain ⟨outcome, after, run, sameEdit, -⟩ := Verdict.exists_outcome acts
  have ends : (Pairing.decidePrintable index key).Ends ctx (·.Completes ctx rule) fun _ => True :=
    decidePrintable_ends fun active isSome => decideAmong_completes different (alone ▸ isSome)
  have same : (index.decide .printable key ctx).edit = outcome.edit := sameEdit
  rw [same] at acts opens ⊢
  exact (ends.of_run' run acts).resolve_left (opens.not_closes nonempty)

/-! ### The turn right after the opening -/

/-- A rule takes a key for its opening right after the opening: the key is the opening, or the opening ends with
the part of itself before the key. -/
def Rule.Reopens (rule : Rule) (key : Text) : Prop :=
  (rule.opening.length = 1 ∧ rule.opening = key) ∨
    (rule.opening.length ≠ 1 ∧ ∃ index, indexOf? key rule.opening = some index ∧
      rule.opening.take index <:+ rule.opening)

instance (rule : Rule) (key : Text) : Decidable (rule.Reopens key) :=
  decidable_of_iff ((rule.opening.length = 1 ∧ rule.opening = key) ∨ (rule.opening.length ≠ 1 ∧
    ∃ index ∈ indexOf? key rule.opening, rule.opening.take index <:+ rule.opening)) Iff.rfl

/-- A part of a text ends where the whole text ends exactly if it ends the text. -/
theorem suffix_iff_of_suffix {part whole t : Text} (ends : whole <:+ t) (shorter : part.length ≤ whole.length) :
    part <:+ t ↔ part <:+ whole :=
  ⟨fun stands => List.suffix_of_suffix_length_le stands ends shorter, fun inside => inside.trans ends⟩

/-- Right after its opening a rule opens its pair once more, or closes it. -/
theorem Rule.turn_of_opened (different : rule.opening ≠ rule.closing) (admitted : rule.Admits key)
    (nonempty : rule.opening ≠ []) (opened : rule.opening <:+ ctx.before) :
    (rule.Reopens key → ∃ typed, rule.turn key ctx = .opens typed) ∧
      (¬ rule.Reopens key → rule.turn key ctx = .closes) := by
  have notSymmetric : ¬ rule.isSymmetric = true := fun same => different (beq_iff_eq.mp same)
  by_cases one : rule.opening.length = 1
  · have reopens : rule.Reopens key ↔ rule.opening = key := by simp [Reopens, one]
    rw [reopens, turn, if_neg notSymmetric, if_pos one]
    constructor
    · intro isKey
      exact ⟨0, if_pos isKey⟩
    · intro isNot
      exact if_neg isNot
  · have long : 1 < rule.opening.length := by
      have := List.length_pos_iff.mpr nonempty
      omega
    obtain ⟨index, place⟩ := Option.isSome_iff_exists.mp (admitted different long)
    have reopens : rule.Reopens key ↔ rule.opening.take index <:+ rule.opening := by
      simp [Reopens, one, place]
    have starts : index = 0 ∨ ctx.endsBefore (rule.opening.take index) = true ↔
        rule.opening.take index <:+ rule.opening := by
      rw [Context.endsBefore, List.isSuffixOf_iff_suffix,
        suffix_iff_of_suffix opened (List.take_prefix _ _).length_le, or_iff_right_iff_imp]
      rintro rfl
      exact List.take_zero ▸ List.nil_suffix
    rw [reopens, turn, if_neg notSymmetric, if_neg one, place]
    simp only [starts]
    constructor
    · intro again
      exact ⟨index, if_pos again⟩
    · intro notAgain
      rw [if_neg notAgain]
      exact if_pos (List.isSuffixOf_iff_suffix.mpr opened)

/-! ### The edits of an unguarded rule -/

/-- The edit for a key is what the only rule that it reaches comes to. -/
theorem RuleIndex.edit_of_alone {index : RuleIndex} (unguarded : rule.IsUnguarded)
    (alone : index.rulesFor key = [rule])
    (decides : (rule.atTurn key (decideAmong key []) (rule.turn key ctx)).Ends ctx
      (fun outcome => outcome.edit = edit) fun _ => False) :
    (index.decide .printable key ctx).edit = edit := by
  refine edit_of_always ?_ ?_
  · rw [alone]
    exact List.forall_mem_singleton.mpr unguarded.applies
  · rw [alone]
    intro memo
    rw [run'_decideAmong_cons]
    exact decides memo

section Silent

variable (unguarded : rule.IsUnguarded) (silent : ctx.oracle = .silent)

include unguarded silent

/-- Where the host knows nothing, an unguarded rule opens its pair unless the cursor is escaped. -/
theorem openPair_ends_of_silent (typed : Nat) :
    (openPair key rule typed).Ends ctx (· = if ctx.isEscaped = true then .passThrough key
      else .insertPair (rule.opening.drop typed ++ rule.closing) rule.closing.length) fun _ => False := by
  have allows : (rule.allows .opening).Ends ctx (· = true) fun _ => False := by
    rw [unguarded.allows]
    exact .pure rfl
  have unmatched := Query.unmatchedClosing_ends_of_silent silent rule.delimiters
  unfold openPair
  refine allows.bind fun allowed given => ?_
  rw [given, if_neg (by decide)]
  refine .read ?_
  split
  · exact .pure rfl
  refine unmatched.bind fun waits none => ?_
  rw [none, if_neg (by decide)]
  exact .pure rfl

/-- It passes over a closing that comes next. -/
theorem closePair_ends_of_silent (nonempty : rule.closing ≠ []) (isNext : rule.closing <+: ctx.after) :
    (closePair key rule).Ends ctx (· = .move rule.closing.length) fun _ => False := by
  have allows : (rule.allows .closing).Ends ctx (· = true) fun _ => False := by
    rw [unguarded.allows]
    exact .pure rfl
  have unmatched := Query.unmatchedOpening_ends_of_silent silent rule.delimiters
  have next : ctx.isAfter rule.closing false = .ok true := by
    simpa [Context.isAfter, nonempty] using isNext
  unfold closePair
  refine allows.bind fun allowed given => ?_
  rw [given, if_neg (by decide)]
  refine unmatched.bind fun waits none => ?_
  rw [none, if_neg (by decide)]
  refine .ofExcept_bind next ?_
  rw [if_pos rfl]
  exact .pure rfl

/-- Right after the opening of the only rule, a key that the rule takes for its opening opens the pair once more,
or is let through where the cursor is escaped. Any other key passes over a closing that comes next. -/
theorem RuleIndex.edit_of_opened {index : RuleIndex} (alone : index.rulesFor key = [rule])
    (different : rule.opening ≠ rule.closing) (admitted : rule.Admits key) (opens : rule.opening ≠ [])
    (closes : rule.closing ≠ []) (opened : rule.opening <:+ ctx.before) (isNext : rule.closing <+: ctx.after) :
    (rule.Reopens key → (index.decide .printable key ctx).edit = .passThrough key ∨
        (index.decide .printable key ctx).edit.Opens rule key) ∧
      (¬ rule.Reopens key → (index.decide .printable key ctx).edit = .move rule.closing.length) := by
  obtain ⟨turnsToOpen, turnsToClose⟩ := Rule.turn_of_opened different admitted opens opened
  constructor
  · intro again
    obtain ⟨typed, turn⟩ := turnsToOpen again
    have inserts : (index.decide .printable key ctx).edit = if ctx.isEscaped = true then .passThrough key
        else .insertPair (rule.opening.drop typed ++ rule.closing) rule.closing.length := by
      refine edit_of_alone unguarded alone ?_
      rw [turn]
      exact (openPair_ends_of_silent unguarded silent typed).bind fun _ same => .pure same
    rw [inserts]
    split
    · exact Or.inl rfl
    · exact Or.inr ⟨typed, Rule.prefix_of_turn turn, rfl⟩
  · intro notAgain
    refine edit_of_alone unguarded alone ?_
    rw [turnsToClose notAgain]
    exact (closePair_ends_of_silent unguarded silent closes isNext).bind fun _ same => .pure same

end Silent

end Alone

/-! ### Two presses -/

/-- A rule that completes its opening at a cursor leaves it between its delimiters. -/
theorem Buffer.exists_cut_of_completes (rule : Rule) {buffer : Buffer} {situation : Situation} {oracle : Oracle}
    {typed : Nat} (stands : rule.opening.take typed <:+ (buffer.context situation oracle).before) :
    ∃ front rest, rule.opening <:+ front ∧
      buffer.apply (.insertPair (rule.opening.drop typed ++ rule.closing) rule.closing.length) =
        ofOffset (front ++ (rule.closing ++ rest)) front.length := by
  obtain ⟨a, b, text, offset, before, -⟩ := buffer.exists_cut situation oracle
  obtain ⟨start, isStart⟩ := stands.trans before
  refine ⟨a ++ rule.opening.drop typed, b, ⟨start, ?_⟩, ?_⟩
  · rw [← isStart, List.append_assoc, List.take_append_drop]
  · have inserted := apply_replace (a := a) (b := b) (x := []) (y := []) (by simpa using text)
      (by simpa using offset) (rule.opening.drop typed ++ rule.closing)
      ((rule.opening.drop typed ++ rule.closing).length - rule.closing.length)
    refine (show buffer.apply (.insertPair _ _) = _ from inserted).trans ?_
    simp

/-- A closing that is passed over leaves the text as it is, and the cursor after it. -/
theorem Buffer.apply_move_closing (front closing rest : Text) :
    (ofOffset (front ++ (closing ++ rest)) front.length).apply (.move closing.length) =
      ofOffset (front ++ (closing ++ rest)) (front ++ closing).length := by
  have offset := offset_ofOffset_append front (closing ++ rest)
  have length : (ofOffset (front ++ (closing ++ rest)) front.length).text.length =
      front.length + (closing.length + rest.length) := by
    rw [text_ofOffset, List.length_append, List.length_append]
  rw [apply_move (by omega) (by omega), offset, text_ofOffset, List.length_append]
  rfl

/-- Between its delimiters, the only rule passes over its closing for a key, or opens its pair once more. -/
theorem RuleIndex.editFor_of_between {rule : Rule} {index : RuleIndex} {key front : Text}
    (unguarded : rule.IsUnguarded) (alone : index.rulesFor key = [rule])
    (different : rule.opening ≠ rule.closing) (admitted : rule.Admits key) (opens : rule.opening ≠ [])
    (closes : rule.closing ≠ []) (openingInLine : newline ∉ rule.opening)
    (closingInLine : newline ∉ rule.closing) (opened : rule.opening <:+ front) (rest : Text)
    (situation : Situation) :
    let next := (ofOffset (front ++ (rule.closing ++ rest)) front.length).editFor index situation .silent key
    (rule.Reopens key → next = .passThrough key ∨ next.Opens rule key) ∧
      (¬ rule.Reopens key → next = .move rule.closing.length) := by
  intro next
  obtain ⟨before, after⟩ := context_between openingInLine closingInLine opened rest situation .silent
  exact edit_of_opened unguarded rfl alone different admitted opens closes before after

/-- **Typing a pair and passing over its closing.** The only rule of an index without conditions is asymmetric, its
delimiters lie on one line, and its opening contains the first character of its closing if it has several units.
Wherever its key opens the pair, that character at once passes over the closing if and only if the rule does not
take it for its opening once more. If it does, it opens the pair again or is let through. -/
theorem RuleIndex.compile_roundTrip_iff {definitions : Definitions} {index : RuleIndex} {key : Text}
    {entry : Data HostFunction} (compiled : compile definitions = .ok index)
    (single : definitions.entries = [(key, entry)]) (unguarded : entry.IsUnguarded) :
    ∃ rule, index.all = [rule] ∧ rule.key = key ∧
      (rule.opening ≠ rule.closing → newline ∉ rule.opening → newline ∉ rule.closing →
        rule.Admits rule.closingKey → ∀ (buffer : Buffer) (situation : Situation),
        (buffer.editFor index situation .silent key).Opens rule key →
          let opened := buffer.apply (buffer.editFor index situation .silent key)
          let next := opened.editFor index situation .silent rule.closingKey
          ∃ front rest, rule.opening <:+ front ∧ opened = .ofOffset (front ++ rule.closing ++ rest) front.length ∧
            (next = .move rule.closing.length ↔ ¬ rule.Reopens rule.closingKey) ∧
            (¬ rule.Reopens rule.closingKey → opened.apply next =
              .ofOffset (front ++ rule.closing ++ rest) (front ++ rule.closing).length) ∧
            (rule.Reopens rule.closingKey → next = .passThrough rule.closingKey ∨
              next.Opens rule rule.closingKey)) := by
  obtain ⟨sound, rules, given, rfl⟩ := compile_eq_ok_iff.mp compiled
  obtain ⟨rule, rfl⟩ : ∃ rule, rules = [rule] := by
    have length := Definitions.length_rules given
    rw [single] at length
    exact List.length_eq_one_iff.mp length
  obtain ⟨itsKey, itsEntry, member, order, made⟩ := Definitions.entry_of_rule given List.mem_cons_self
  have declared := sound.declares member made
  rw [single] at member
  obtain ⟨rfl, rfl⟩ := Prod.mk.inj (List.mem_singleton.mp member)
  obtain ⟨keyEq, -, -, opens, closes⟩ := declared
  have plain := Rule.isUnguarded_of_ofEntry unguarded made
  have byKey : (ofRules [rule]).rulesFor itsKey = [rule] :=
    rulesFor_alone (Rule.mem_reachingKeys.mpr (Or.inl keyEq.symm))
  have byClosing : (ofRules [rule]).rulesFor rule.closingKey = [rule] :=
    rulesFor_alone (Rule.mem_reachingKeys.mpr (Or.inr rfl))
  refine ⟨rule, rfl, keyEq, fun different openingInLine closingInLine admitted buffer situation opened => ?_⟩
  obtain ⟨typed, stands, inserts⟩ := exists_typed_of_opens byKey different closes opened
  obtain ⟨front, rest, ends, cut⟩ := exists_cut_of_completes rule stands
  have isOpened : buffer.apply (buffer.editFor (ofRules [rule]) situation .silent itsKey) =
      ofOffset (front ++ (rule.closing ++ rest)) front.length := by
    rw [← cut, ← inserts]
    rfl
  obtain ⟨again, skips⟩ := editFor_of_between plain byClosing different admitted opens closes openingInLine
    closingInLine ends rest situation
  refine ⟨front, rest, ends, ?_⟩
  rw [isOpened, List.append_assoc]
  refine ⟨rfl, ⟨fun moves reopens => ?_, skips⟩, fun notAgain => ?_, again⟩
  · rcases again reopens with passes | ⟨_, _, inserts⟩
    · cases passes.symm.trans moves
    · cases inserts.symm.trans moves
  · rw [skips notAgain, apply_move_closing]

/-- The closing of a raw string is passed over, though its first character also ends the opening. -/
theorem RuleIndex.compile_roundTrip_rawString :
    let rawString : Definition := ⟨"\"#", some "r#\"", none, none, none, none, fun _ => none⟩
    let index := ofRules [rawString.rule "\"" 0]
    let situation : Situation := ⟨"rust", .insert, none⟩
    let typed : Buffer := ⟨"r#", ⟨0, 2⟩⟩
    let opened := typed.apply (typed.editFor index situation .silent "\"")
    compile [(Text.ofString "\"", rawString.toData)] = .ok index ∧ opened = ⟨"r#\"\"#", ⟨0, 3⟩⟩ ∧
      opened.editFor index situation .silent "\"" = .move 2 ∧ opened.apply (.move 2) = ⟨"r#\"\"#", ⟨0, 5⟩⟩ := by
  intro rawString index situation typed opened
  have composed : Text.composed "\"" = "\"" := by
    decide +kernel
  have compiled : compile [(Text.ofString "\"", rawString.toData)] = .ok index := by
    have made := compile_ofDefinition "\"" rawString (by decide +kernel) (by decide +kernel)
    rwa [composed] at made
  have single : Definitions.entries [(Text.ofString "\"", rawString.toData)] =
      [(Text.ofString "\"", rawString.toData)] :=
    congrArg (fun key : Text => [(key, (rawString.toData : Data HostFunction))]) composed
  have unguarded := Definition.isUnguarded_ofDelimiters "r#\"" "\"#"
  obtain ⟨rule, isRule, -, trip⟩ := compile_roundTrip_iff compiled single unguarded
  have alone : index.all = [rawString.rule "\"" 0] := rfl
  obtain rfl := (List.cons.inj (isRule.symm.trans alone)).1
  have opens : (typed.editFor index situation .silent "\"").Opens (rawString.rule "\"" 0) "\"" :=
    ⟨2, by decide, by decide +kernel⟩
  obtain ⟨front, rest, -, -, skips, -, -⟩ := trip (by decide) (by decide) (by decide) (by decide +kernel)
    typed situation opens
  have closingKey : (rawString.rule "\"" 0).closingKey = "\"" := by
    decide +kernel
  rw [closingKey] at skips
  exact ⟨compiled, by decide +kernel, skips.mpr (by decide), by decide +kernel⟩

/-- Where the key and the closing start with the same character, the pair is opened twice. -/
theorem RuleIndex.reopens_hashBracket :
    let hash : Definition := ⟨"#]", some "#[", none, none, none, none, fun _ => none⟩
    let rule := hash.rule "#" 0
    let index := ofRules [rule]
    let situation : Situation := ⟨"text", .insert, none⟩
    let empty : Buffer := ⟨[], ⟨0, 0⟩⟩
    let opened := empty.apply (empty.editFor index situation .silent "#")
    compile [(Text.ofString "#", hash.toData)] = .ok index ∧ (hash.toData : Data HostFunction).IsUnguarded ∧
      rule.opening ≠ rule.closing ∧ newline ∉ rule.opening ∧ newline ∉ rule.closing ∧
      rule.closingKey = "#" ∧ rule.Admits "#" ∧
      (empty.editFor index situation .silent "#").Opens rule "#" ∧ opened = ⟨"#[#]", ⟨0, 2⟩⟩ ∧
      opened.apply (opened.editFor index situation .silent "#") = ⟨"#[#[#]#]", ⟨0, 4⟩⟩ := by
  intro hash rule index situation empty opened
  have composed : Text.composed "#" = "#" := by
    decide +kernel
  have compiled : compile [(Text.ofString "#", hash.toData)] = .ok index := by
    have made := compile_ofDefinition "#" hash (by decide +kernel) (by decide +kernel)
    rwa [composed] at made
  have unguarded := Definition.isUnguarded_ofDelimiters "#[" "#]"
  exact ⟨compiled, unguarded, by decide, by decide, by decide, by decide +kernel, by decide +kernel,
    ⟨0, by decide, by decide +kernel⟩, by decide +kernel, by decide +kernel⟩

end Pairing
