/-
**Apostrophes after letters.**

In prose an apostrophe after a letter or a digit is no quotation mark. The rules see a single unit of the line there,
and one unit of a letter that is written in two is no letter.

* `Edit.inserted`: the text that an edit puts into a buffer;
* `Unicode.isLetterOrNumber_of_isSurrogate`, `Context.isWord_charUnderCursor`: what the rules see of a letter;
* `Context.IsProse`, `Context.IsProse.exists_run`: where prose is written, and what is known once the host was asked;
* `exists_apostropheRules`: the rules that an apostrophe reaches in a fresh installation;
* `RuleIndex.apostrophe_inserts_one`, `RuleIndex.apostrophe_inserts_two`: what it does after either kind of letter.

`word_iff_one_unit` puts this together.
-/

import Pairing.DefaultRules
import Pairing.Proofs.Condition.Compiled
import Pairing.Proofs.Decision.Deciding
import Pairing.Proofs.Decision.Writing
import Pairing.Proofs.Language.Converse

namespace Pairing

open DefaultRules

/-- The text that an edit puts into a buffer. -/
def Edit.inserted : Edit → Text
  | .passThrough key => key
  | .move _ => []
  | .replace _ _ text _ => text

/-! ### Letters and their units -/

theorem Unicode.Ranges.exists_of_contains {ranges : Ranges} {point : Nat} (inside : ranges.contains point = true) :
    ∃ range ∈ ranges, range.1 ≤ point ∧ point ≤ range.2 := by
  induction ranges with
  | nil => cases inside
  | cons head rest ih =>
    simp only [contains, Bool.and_eq_true, Bool.or_eq_true, decide_eq_true_eq] at inside
    obtain ⟨above, below | later⟩ := inside
    · exact ⟨head, List.mem_cons_self, above, below⟩
    · obtain ⟨range, member, bounds⟩ := ih later
      exact ⟨range, List.mem_cons_of_mem _ member, bounds⟩

/-- No surrogate is a letter or a digit. -/
theorem Unicode.isLetterOrNumber_of_isSurrogate {point : Nat} (surrogate : Text.isSurrogate point = true) :
    isLetterOrNumber point = false := by
  have apart : ∀ range ∈ letterOrNumber, range.2 < 0xD800 ∨ 0xDFFF < range.1 := by decide +kernel
  rw [Bool.eq_false_iff]
  intro letter
  obtain ⟨range, member, above, below⟩ := Ranges.exists_of_contains letter
  simp only [Text.isSurrogate, Bool.and_eq_true, decide_eq_true_eq] at surrogate
  have := apart range member
  omega

theorem Text.isWord_unit (unit : UInt16) : Text.isWord [unit] = Unicode.isLetterOrNumber unit.toNat := by
  simp [isWord, codePoints]

/-- The last unit of a code point: the point itself where it takes one unit, and else a surrogate. -/
theorem Text.exists_getLast_ofCodePoint (point : Nat) :
    ∃ unit, (ofCodePoint point).getLast? = some unit ∧
      if point < 0x10000 then unit.toNat = point else isTrailing unit = true := by
  unfold ofCodePoint
  split
  · exact ⟨_, rfl, by simp; omega⟩
  · refine ⟨_, rfl, ?_⟩
    simp only [isTrailing, Bool.and_eq_true, decide_eq_true_eq, UInt16.le_iff_toNat_le, UInt16.reduceToNat]
    simp
    omega

variable {ctx : Context} {memo after : Memo} {point : Nat}

theorem Context.getLast?_before_of_ends (ends : Text.ofCodePoint point <:+ ctx.before) :
    ctx.before.getLast? = (Text.ofCodePoint point).getLast? := by
  obtain ⟨start, whole⟩ := ends
  rw [← whole, List.getLast?_append_of_ne_nil _ (Text.ofCodePoint_ne_nil point)]

/-- A letter before the cursor is seen as one exactly if it is written in one unit. -/
theorem Context.isWord_charUnderCursor (letter : Unicode.isLetterOrNumber point = true)
    (ends : Text.ofCodePoint point <:+ ctx.before) : ctx.charUnderCursor.isWord = decide (point < 0x10000) := by
  obtain ⟨unit, last, isUnit⟩ := Text.exists_getLast_ofCodePoint point
  rw [charUnderCursor, getLast?_before_of_ends ends, last, Option.toList_some, Text.isWord_unit]
  split at isUnit
  · next small => rw [isUnit, letter, decide_eq_true small]
  · next large =>
    have surrogate : Text.isSurrogate unit.toNat = true := by
      simp only [Text.isTrailing, Text.isSurrogate, Bool.and_eq_true, decide_eq_true_eq, UInt16.le_iff_toNat_le,
        UInt16.reduceToNat] at isUnit ⊢
      omega
    rw [Unicode.isLetterOrNumber_of_isSurrogate surrogate, decide_eq_false large]

theorem Context.isEscaped_of_getLast {unit : UInt16} (last : ctx.before.getLast? = some unit)
    (plain : unit ≠ Text.backslash) : ctx.isEscaped = false := by
  obtain ⟨front, whole⟩ := List.getLast?_eq_some_iff.mp last
  rw [isEscaped, whole, List.reverse_append]
  simp [plain]

/-! ### Prose -/

/-- The languages that triple apostrophes are for. -/
def fencedLanguages : List Text :=
  [Text.ofString "python"]

/-- The cursor is in prose. -/
def Context.IsProse (ctx : Context) : Prop :=
  (Query.isLanguage proseLanguages).eval ctx = .ok true

/-- Prose is not written in a language that triple apostrophes are for. -/
theorem exists_filetypesOf_prose :
    ∃ prose fenced, filetypesOf proseLanguages = .ok prose ∧ filetypesOf fencedLanguages = .ok fenced ∧
      ∀ ctx found, Query.isFoundAmong ctx proseLanguages prose found = true →
        Query.isFoundAmong ctx fencedLanguages fenced found = false := by
  have apart : ((filetypesOf proseLanguages).toOption.bind fun prose =>
      (filetypesOf fencedLanguages).toOption.map fun fenced =>
        decide ((∀ name ∈ proseLanguages ++ languagesOf proseLanguages,
            name ∉ fencedLanguages ++ languagesOf fencedLanguages) ∧
          ∀ name ∈ proseLanguages ++ prose, name ∉ fencedLanguages ++ fenced)) = some true := by
    decide +kernel
  obtain ⟨prose, isProse, apart⟩ := Option.bind_eq_some_iff.mp apart
  obtain ⟨fenced, isFenced, apart⟩ := Option.map_eq_some_iff.mp apart
  obtain ⟨languages, filetypes⟩ := of_decide_eq_true apart
  refine ⟨prose, fenced, eq_ok_of_toOption isProse, eq_ok_of_toOption isFenced, fun ctx found inProse => ?_⟩
  cases found with
  | some current =>
    have := languages current
    simp_all [Query.isFoundAmong]
  | none =>
    have := filetypes ctx.filetype
    simp_all [Query.isFoundAmong]

/-- In prose the host is asked for the language once. It is none that triple apostrophes are for. -/
theorem Context.IsProse.exists_run (prose : ctx.IsProse) :
    ∃ found after, Query.language.run' ctx {} = (.ok found, after) ∧
      (Query.isLanguage fencedLanguages).run' ctx {} = (.ok false, after) ∧
      (Query.isLanguage proseLanguages).run' ctx after = (.ok true, after) := by
  obtain ⟨handled, fenced, proseFiletypes, fencedFiletypes, apart⟩ := exists_filetypesOf_prose
  cases run : Query.language.run' ctx {} with
  | mk outcome after =>
    cases outcome with
    | error fault =>
      have fails : (Query.isLanguage proseLanguages).eval ctx = .error fault := by
        rw [Query.eval, Query.isLanguage, Query.isLanguageAmong, Query.run'_bind, run]
      cases fails.symm.trans prose
    | ok found =>
      have again : Query.language.run' ctx after = (.ok found, after) :=
        Query.run'_keep_of_some (Query.known_of_run'_language run) ctx
      have inProse := congrArg Prod.fst (Query.run'_isLanguage run proseFiletypes)
      have holds := Except.ok.inj (inProse.symm.trans prose)
      refine ⟨found, after, rfl, ?_, ?_⟩
      · rw [Query.run'_isLanguage run fencedFiletypes, apart ctx found holds]
      · rw [Query.run'_isLanguage again proseFiletypes, holds]

/-! ### The rules that an apostrophe reaches -/

theorem HostFunction.predicate_ofPredicate (predicate : Predicate) : (ofPredicate predicate).predicate = predicate := by
  simp [HostFunction.predicate, ofPredicate, Data.isTruthy]

/-- A compiled rule is made of the entry at its place. -/
theorem RuleIndex.ofEntry_of_mem_rulesFor {definitions : Definitions} {index : RuleIndex}
    (compiles : RuleIndex.compile definitions = .ok index) {rule : Rule} {key : Text}
    (member : rule ∈ index.rulesFor key) {order : Nat} (place : rule.order = order) :
    (definitions.entries[order]?.map fun entry => Rule.ofEntry entry.1 entry.2 order) = some (.ok rule) := by
  obtain ⟨-, rules, given, rfl⟩ := RuleIndex.compile_eq_ok_iff.mp compiles
  obtain rfl := place
  rw [Definitions.map_getElem?_rules given, (Definitions.getElem?_eq_some_iff_order given).mpr
    ⟨(RuleIndex.mem_rulesFor_ofRules.mp member).1, rfl⟩]
  rfl

/-- An apostrophe reaches the rule of triple apostrophes, then that of quotation marks, and last that of quotations in
TeX. -/
theorem exists_apostropheRules {index : RuleIndex} (compiles : RuleIndex.compile defaultRules = .ok index) :
    ∃ fenced quotation typographic : Rule, index.rulesFor "'" = [fenced, quotation, typographic] ∧
      (∃ condition, fenced.applies =
        UncheckedRule.applicability false (some (Query.isLanguage fencedLanguages)) condition) ∧
      (quotation.opening = "'" ∧ quotation.closing = "'" ∧ quotation.applies = apostrophe ∧
        quotation.allows .openingOrClosing = .always true) ∧
      typographic.opening = "\x60" ∧ typographic.closing = "'" ∧
        ∃ languages handled, filetypesOf languages = .ok handled ∧
          typographic.applies = UncheckedRule.applicability false (some (Query.isLanguage languages)) none := by
  have known : ((RuleIndex.compile defaultRules).toOption.map fun index =>
      (index.rulesFor "'").map fun rule => (rule.order, rule.opening, rule.closing)) =
        some [(4, Text.ofString "'", Text.ofString "'''"), (5, Text.ofString "'", Text.ofString "'"),
          (10, Text.ofString "\x60", Text.ofString "'")] := by
    decide +kernel
  rw [compiles] at known
  have made : ∀ {rule : Rule}, rule ∈ index.rulesFor "'" → ∀ {order : Nat}, rule.order = order → _ :=
    RuleIndex.ofEntry_of_mem_rulesFor compiles
  obtain ⟨fenced, others, reached, isFenced, known⟩ := List.map_eq_cons_iff.mp (Option.some.inj known)
  obtain ⟨quotation, others, rfl, isQuotation, known⟩ := List.map_eq_cons_iff.mp known
  obtain ⟨typographic, others, rfl, isTypographic, known⟩ := List.map_eq_cons_iff.mp known
  obtain rfl := List.map_eq_nil_iff.mp known
  obtain ⟨fencedPlace, -⟩ := Prod.mk.inj isFenced
  obtain ⟨quotationPlace, quotationTexts⟩ := Prod.mk.inj isQuotation
  obtain ⟨typographicPlace, typographicTexts⟩ := Prod.mk.inj isTypographic
  rw [reached] at made
  have fencedMade := made List.mem_cons_self fencedPlace
  have quotationMade := made (List.mem_cons_of_mem _ List.mem_cons_self) quotationPlace
  have typographicMade := made (List.mem_cons_of_mem _ (List.mem_cons_of_mem _ List.mem_cons_self)) typographicPlace
  refine ⟨fenced, quotation, typographic, reached, ?_,
    ⟨(Prod.mk.inj quotationTexts).1, (Prod.mk.inj quotationTexts).2, ?_⟩,
    (Prod.mk.inj typographicTexts).1, (Prod.mk.inj typographicTexts).2, ?_⟩
  · cases fencedMade
    rw [← Predicate.ofLanguageOperand_textsData (φ := HostFunction)]
    exact ⟨some (.ofTextBefore (.text "''")), rfl⟩
  · cases quotationMade
    refine ⟨?_, rfl⟩
    show UncheckedRule.applicability false none (some (HostFunction.ofPredicate apostrophe).predicate) = apostrophe
    rw [HostFunction.predicate_ofPredicate]
    rfl
  · have plain : ∀ name ∈ ["bibtex", "latex", "plaintex"].map Text.ofString, inherited? name = none := by decide +kernel
    obtain ⟨handled, found, -⟩ := exists_filetypesOf plain
    cases typographicMade
    refine ⟨_, handled, found, ?_⟩
    rw [← Predicate.ofLanguageOperand_textsData (φ := HostFunction)]
    rfl

/-! ### Which of them are active -/

section Active

variable {languages : List Text} {condition : Option Predicate} {rule : Rule}

theorem Rule.run'_isActive_none : (rule.isActive none).run' ctx memo = rule.applies.run' ctx memo := by
  rw [isActive, Query.run'_bind]
  cases rule.applies.run' ctx memo with
  | mk outcome after =>
    cases outcome with
    | error fault => rfl
    | ok applies => cases applies <;> rfl

theorem UncheckedRule.run'_applicability_of_outside
    (outside : (Query.isLanguage languages).run' ctx memo = (.ok false, after)) :
    (applicability false (some (Query.isLanguage languages)) condition).run' ctx memo = (.ok false, after) := by
  unfold applicability
  rw [Query.run'_read_bind]
  exact Query.run'_bind_of_ok outside

theorem UncheckedRule.run'_applicability_of_languages {isIn : Bool}
    (asked : (Query.isLanguage languages).run' ctx memo = (.ok isIn, after)) :
    (applicability false (some (Query.isLanguage languages)) none).run' ctx memo = (.ok isIn, after) := by
  unfold applicability
  rw [Query.run'_read_bind]
  refine (Query.run'_bind_of_ok asked).trans ?_
  cases isIn <;> rfl

/-- In prose an apostrophe is no quotation mark after what is seen as a letter. -/
theorem DefaultRules.run'_apostrophe_of_word
    (inProse : (Query.isLanguage proseLanguages).run' ctx memo = (.ok true, memo))
    (word : ctx.charUnderCursor.isWord = true) : apostrophe.run' ctx memo = (.ok false, memo) := by
  rw [apostrophe, Query.run'_read_bind]
  split
  · rfl
  · rw [Query.run'_bind_of_ok inProse, if_pos rfl, Query.run'_read_bind, if_pos word]
    rfl

end Active

/-- The rule of quotations in TeX inserts one apostrophe at the most. -/
theorem closePair_inserts_one {rule : Rule} (closing : rule.closing = "'") :
    (closePair "'" rule).Ends ctx (fun edit => edit.inserted.count 0x27 ≤ 1) fun _ => True := by
  refine closePair_ends.mono (fun edit ends => ?_) fun _ => id
  rcases ends with rfl | rfl | ⟨-, -, rfl⟩ | ⟨-, rfl⟩
  · decide +kernel
  · show rule.closing.count 0x27 ≤ 1
    rw [closing]
    decide +kernel
  all_goals exact Nat.zero_le 1

/-- After what is seen as a letter, an apostrophe is inserted once at the most in prose. -/
theorem RuleIndex.apostrophe_inserts_one {index : RuleIndex} (compiles : RuleIndex.compile defaultRules = .ok index)
    (prose : ctx.IsProse) (word : ctx.charUnderCursor.isWord = true) :
    (index.decide .printable "'" ctx).edit.inserted.count 0x27 ≤ 1 := by
  obtain ⟨fenced, quotation, typographic, reached, ⟨condition, isFenced⟩, ⟨-, -, isQuotation, -⟩, opening, closing,
    -⟩ := exists_apostropheRules compiles
  obtain ⟨found, asked, -, outside, inProse⟩ := prose.exists_run
  have itself : (Edit.passThrough "'").inserted.count 0x27 ≤ 1 := by decide +kernel
  obtain passes | ⟨outcome, last, run, same, -⟩ :=
    Verdict.passes_or_exists_outcome "'" .printable (Pairing.decidePrintable index "'") ctx
  · exact passes ▸ itself
  obtain ⟨active, looked, looksAtAll, decided⟩ := Query.exists_of_run'_bind run
  rw [reached] at looksAtAll
  -- Neither triple apostrophes nor quotation marks are active, so that at most quotations in TeX are left.
  obtain ⟨fencedActive, between, others, given, looksAtTwo, rfl⟩ := Rule.run'_allActive_cons_iff.mp looksAtAll
  rw [Rule.run'_isActive_none, isFenced, UncheckedRule.run'_applicability_of_outside outside] at given
  obtain ⟨rfl, rfl⟩ := (Prod.mk.inj given).imp_left Except.ok.inj
  obtain ⟨quotationActive, between, others, given, looksAtOne, rfl⟩ := Rule.run'_allActive_cons_iff.mp looksAtTwo
  rw [Rule.run'_isActive_none, isQuotation, run'_apostrophe_of_word inProse word] at given
  obtain ⟨rfl, rfl⟩ := (Prod.mk.inj given).imp_left Except.ok.inj
  obtain ⟨typographicActive, between, others, -, looksAtNone, rfl⟩ := Rule.run'_allActive_cons_iff.mp looksAtOne
  obtain ⟨rfl, -⟩ := Query.of_run'_pure ctx looksAtNone
  have ends : (decideAmong "'" (if typographicActive = true then [typographic] else [])).Ends ctx
      (fun outcome => outcome.edit.inserted.count 0x27 ≤ 1) fun _ => True := by
    split
    · refine decideAmong_cons_ends ?_
      have turn : typographic.turn "'" ctx = .closes := by
        unfold Rule.turn Rule.isSymmetric
        rw [opening, closing]
        rfl
      rw [turn]
      exact closePair_inserts_one closing
    · exact .pure itself
  show (Verdict.ofQuery "'" .printable (Pairing.decidePrintable index "'") ctx).edit.inserted.count 0x27 ≤ 1
  rw [same]
  exact ends.of_run' decided

/-! ### Hosts that know nothing -/

section Silent

variable (silent : ctx.oracle = .silent)

include silent

theorem Query.run'_language_of_silent : Query.language.run' ctx {} = (.ok none, { language := some none }) := by
  have unknown : ({} : Memo).language = none := rfl
  refine Query.run'_keep_of_ok unknown (?_ : _ = (Except.ok none, {}))
  rw [Query.run'_read_bind, silent]
  rfl

theorem Query.run'_scopeHere_of_silent (here : memo.scopeHere = none) :
    ∃ after, Query.scopeHere.run' ctx memo = (.ok none, after) ∧ after.language = memo.language ∧
      after.scopeBefore = memo.scopeBefore := by
  let asked : Memo := { memo with calls := memo.calls ++ [.scope ctx.cursor] }
  refine ⟨_, Query.run'_keep_of_ok here (?_ : _ = (Except.ok none, asked)), rfl, rfl⟩
  rw [Query.run'_read_bind, Query.run'_ask, silent]
  rfl

theorem Query.run'_scopeBefore_of_silent (before : memo.scopeBefore = none) :
    ∃ after, Query.scopeBefore.run' ctx memo = (.ok none, after) ∧ after.language = memo.language := by
  by_cases start : ctx.contentColumn = 0
  · refine ⟨_, Query.run'_keep_of_ok before (?_ : _ = (Except.ok none, memo)), rfl⟩
    rw [Query.run'_read_bind, if_pos start]
    rfl
  · let place := ctx.place (ctx.contentColumn - 1)
    let asked : Memo := { memo with calls := memo.calls ++ [.scope place] }
    refine ⟨_, Query.run'_keep_of_ok before (?_ : _ = (Except.ok none, asked)), rfl⟩
    rw [Query.run'_read_bind, if_neg start]
    dsimp only
    rw [Query.run'_ask, silent]
    rfl

/-- A host that knows nothing names no scope. -/
theorem Query.run'_scopeAmong_of_silent (scopes : List Text) (here : memo.scopeHere = none)
    (before : memo.scopeBefore = none) :
    ∃ after, (Query.scopeAmong scopes .insideOrAfter).run' ctx memo = (.ok false, after) ∧
      after.language = memo.language := by
  obtain ⟨between, hereRun, sameHere, unknown⟩ := run'_scopeHere_of_silent silent here
  obtain ⟨after, beforeRun, sameBefore⟩ := run'_scopeBefore_of_silent silent (unknown.trans before)
  refine ⟨after, ?_, sameBefore.trans sameHere⟩
  have notHere : (scopeHere >>= scopeBelongs fun name => .ok (scopes.contains name)).run' ctx memo =
      (.ok false, between) :=
    Query.run'_bind_of_ok hereRun
  rw [scopeAmong, scopeMatches, Query.run'_bind_of_ok notHere, if_neg Bool.false_ne_true,
    Query.run'_bind_of_ok beforeRun]
  rfl

theorem DefaultRules.run'_apostrophe_of_not_word
    (inProse : (Query.isLanguage proseLanguages).run' ctx memo = (.ok true, memo))
    (known : ctx.filetype ≠ "plaintex") (word : ctx.charUnderCursor.isWord = false)
    (here : memo.scopeHere = none) (before : memo.scopeBefore = none) :
    ∃ after, apostrophe.run' ctx memo = (.ok true, after) ∧ after.language = memo.language := by
  obtain ⟨after, noScope, same⟩ := Query.run'_scopeAmong_of_silent silent [Text.ofString "singlequote"] here before
  refine ⟨after, ?_, same⟩
  rw [apostrophe, Query.run'_read_bind, if_neg known, Query.run'_bind_of_ok inProse, if_pos rfl, Query.run'_read_bind,
    word, if_neg Bool.false_ne_true]
  exact Query.run'_bind_of_ok noScope

/-- A quotation mark is passed over where it comes next, and else inserted on both sides of the cursor. -/
def quotationEdit (ctx : Context) : Edit :=
  if ctx.startsAfter "'" then .move 1 else .insertPair "''" 1

omit silent in
theorem run'_openOrClosePair_of_quotation {rule : Rule} (opening : rule.opening = "'")
    (allows : rule.allows .openingOrClosing = .always true) (plain : ctx.isEscaped = false) :
    (openOrClosePair "'" rule).run' ctx memo = (.ok (quotationEdit ctx), memo) := by
  have allowed : (rule.allows .openingOrClosing).run' ctx memo = (.ok true, memo) := by
    rw [allows]
    rfl
  have next : ctx.isAfter "'" false = .ok (ctx.startsAfter "'") := rfl
  rw [openOrClosePair, Query.run'_bind_of_ok allowed, if_neg (by decide), Query.run'_read_bind, plain,
    if_neg Bool.false_ne_true, opening, Query.run'_bind_of_ok (Query.run'_ofExcept_ok next memo), quotationEdit]
  split <;> rfl

/-- After what is not seen as a letter, an apostrophe is taken for a quotation mark in prose too. -/
theorem RuleIndex.apostrophe_inserts_two {index : RuleIndex} (compiles : RuleIndex.compile defaultRules = .ok index)
    (prose : ctx.IsProse) (known : ctx.filetype ≠ "plaintex") (word : ctx.charUnderCursor.isWord = false)
    (plain : ctx.isEscaped = false) : (index.decide .printable "'" ctx).edit = quotationEdit ctx := by
  obtain ⟨fenced, quotation, typographic, reached, ⟨condition, isFenced⟩, ⟨opening, closing, isQuotation, allows⟩, -, -,
    languages, handled, finds, isTypographic⟩ := exists_apostropheRules compiles
  obtain ⟨found, asked, isFound, outside, inProse⟩ := prose.exists_run
  obtain ⟨-, rfl⟩ := Prod.mk.inj (isFound.symm.trans (Query.run'_language_of_silent silent))
  obtain ⟨later, marks, sameLanguage⟩ := run'_apostrophe_of_not_word silent inProse known word rfl rfl
  have again : Query.language.run' ctx later = (.ok none, later) := Query.run'_keep_of_some sameLanguage ctx
  have fencedActive : (fenced.isActive none).run' ctx {} = (.ok false, { language := some none }) := by
    rw [Rule.run'_isActive_none, isFenced, UncheckedRule.run'_applicability_of_outside outside]
  have quotationActive : (quotation.isActive none).run' ctx { language := some none } = (.ok true, later) := by
    rw [Rule.run'_isActive_none, isQuotation, marks]
  have typographicLooked := UncheckedRule.run'_applicability_of_languages (Query.run'_isLanguage again finds)
  rw [← isTypographic, ← Rule.run'_isActive_none] at typographicLooked
  let others := if Query.isFoundAmong ctx languages handled none = true then [typographic] else []
  have active : (Rule.allActive (index.rulesFor "'") none).run' ctx {} = (.ok (quotation :: others), later) := by
    rw [reached]
    exact Rule.run'_allActive_cons_iff.mpr ⟨_, _, _, fencedActive, Rule.run'_allActive_cons_iff.mpr
      ⟨_, _, _, quotationActive, Rule.run'_allActive_cons_iff.mpr ⟨_, _, [], typographicLooked, rfl, rfl⟩, rfl⟩, rfl⟩
  have symmetric : quotation.isSymmetric = true := by
    rw [Rule.isSymmetric, opening, closing]
    rfl
  have decided : (Pairing.decidePrintable index "'").run' ctx {} =
      (.ok ⟨quotationEdit ctx, some quotation⟩, later) := by
    rw [Pairing.decidePrintable, Query.run'_bind_of_ok active, run'_decideAmong_cons,
      Rule.turn_eq_either_iff.mpr symmetric]
    exact Query.run'_bind_of_ok (run'_openOrClosePair_of_quotation opening allows plain)
  show (Verdict.ofQuery "'" .printable (Pairing.decidePrintable index "'") ctx).edit = _
  rw [Verdict.ofQuery, decided]
  rfl

end Silent

/-! ### Both kinds of letters -/

/-- **Letters and digits of one unit are recognised, and no others.** Wherever the text before the cursor ends with a
letter or a digit, the condition on words finds it if it takes one unit, and the opposite condition if it takes two.
In prose, an apostrophe after one of one unit is inserted once at the most, whatever the host says. After one of two
units it is taken for a quotation mark, where the host knows nothing and the buffer is not plain TeX. -/
theorem word_iff_one_unit {index : RuleIndex} (compiles : RuleIndex.compile defaultRules = .ok index)
    (letter : Unicode.isLetterOrNumber point = true) :
    (∀ ctx memo isWord, Text.ofCodePoint point <:+ ctx.before →
      (Condition.charUnderCursor isWord).predicate.run' ctx memo =
        (.ok (decide (point < 0x10000) == isWord), memo)) ∧
    ∀ ctx, Text.ofCodePoint point <:+ ctx.before → ctx.IsProse →
      (point < 0x10000 → (index.decide .printable "'" ctx).edit.inserted.count 0x27 ≤ 1) ∧
      (0x10000 ≤ point → ctx.oracle = .silent → ctx.filetype ≠ "plaintex" →
        (index.decide .printable "'" ctx).edit = quotationEdit ctx) := by
  refine ⟨fun ctx memo isWord ends => ?_, fun ctx ends prose => ⟨fun small => ?_, fun large silent known => ?_⟩⟩
  · rw [← Context.isWord_charUnderCursor letter ends]
    rfl
  · have word := Context.isWord_charUnderCursor letter ends
    rw [decide_eq_true small] at word
    exact RuleIndex.apostrophe_inserts_one compiles prose word
  · have word := Context.isWord_charUnderCursor letter ends
    rw [decide_eq_false (Nat.not_lt.mpr large)] at word
    obtain ⟨unit, last, isUnit⟩ := Text.exists_getLast_ofCodePoint point
    rw [if_neg (Nat.not_lt.mpr large)] at isUnit
    have plain : unit ≠ Text.backslash := by
      rintro rfl
      exact absurd isUnit (by decide)
    exact RuleIndex.apostrophe_inserts_two silent compiles prose known word
      (Context.isEscaped_of_getLast ((Context.getLast?_before_of_ends ends).trans last) plain)

/-- After an accented letter of one unit, an apostrophe in Markdown comes alone. -/
theorem word_iff_one_unit_accent :
    let ctx : Context := ⟨"caf\u00e9", [], 0, "markdown", .insert, defaultIndentUnit, .silent⟩
    (Condition.charUnderCursor true).predicate.eval ctx = .ok true ∧
      ∃ index, RuleIndex.compile defaultRules = .ok index ∧
        (index.decide .printable "'" ctx).edit.inserted.count 0x27 ≤ 1 := by
  intro ctx
  have letter : Unicode.isLetterOrNumber 0xE9 = true := by decide +kernel
  have ends : Text.ofCodePoint 0xE9 <:+ ctx.before := by decide +kernel
  have prose : ctx.IsProse := eq_ok_of_toOption (by decide +kernel)
  obtain ⟨index, compiles⟩ : ∃ index, RuleIndex.compile defaultRules = .ok index :=
    exists_of_toBool (by decide +kernel)
  obtain ⟨conditions, apostrophes⟩ := word_iff_one_unit compiles letter
  exact ⟨congrArg Prod.fst (conditions ctx {} true ends), index, compiles,
    (apostrophes ctx ends prose).1 (by decide)⟩

/-- The ideograph U+20000 is a letter of two units. It is taken for none, and an apostrophe after it in Markdown comes
with another one. -/
theorem not_word_of_ideograph :
    let ctx : Context := ⟨Text.ofCodePoint 0x20000, [], 0, "markdown", .insert, defaultIndentUnit, .silent⟩
    Unicode.isLetterOrNumber 0x20000 = true ∧ ctx.IsProse ∧
      (Condition.charUnderCursor true).predicate.eval ctx = .ok false ∧
      (Condition.charUnderCursor false).predicate.eval ctx = .ok true ∧
      ∃ index, RuleIndex.compile defaultRules = .ok index ∧
        (index.decide .printable "'" ctx).edit = .insertPair "''" 1 ∧
        (index.decide .printable "'" ctx).edit.inserted.count 0x27 = 2 := by
  intro ctx
  have decided : ((RuleIndex.compile defaultRules).toOption.map fun index =>
      (index.decide .printable "'" ctx).edit) = some (.insertPair "''" 1) := by
    decide +kernel
  obtain ⟨index, compiles, doubled⟩ := Option.map_eq_some_iff.mp decided
  refine ⟨by decide +kernel, eq_ok_of_toOption (by decide +kernel), eq_ok_of_toOption (by decide +kernel),
    eq_ok_of_toOption (by decide +kernel), index, eq_ok_of_toOption compiles, doubled, ?_⟩
  rw [doubled]
  decide +kernel

end Pairing
