/-
**What a host answers.**

A host may answer the same question in another way each time, but a keystroke puts the questions about the
syntax at most once. So whatever came out of them is told by answers that are the same all the time:

* `Context.LastContent`: the last unit before the cursor that is not blank;
* `Answers`, `Answers.Fit`: answers to every question, and those that agree with what is known;
* `Memo.IsSound`, `Memo.IsSound.fit_ofMemo`: where there are such answers;
* `Oracle.Gives`: a host that gives some answers whenever it is asked;
* `Memo.Grows`: what was known stays known, and what became known is an answer of the host;
* `Query.Tells`: every run gives a value, of which the answers tell;
* `Query.Tells.bind`: how this is put together, from `Query.spanKind_tells`, `Query.scopeHere_tells` and
  `Query.scopeBefore_tells`.
-/

import Mathlib.Data.List.DropRight
import Pairing.Proofs.Query.Ends

namespace Pairing

/-! ### The last unit before the cursor that is not blank -/

/-- The last unit before the cursor that is not blank stands at a column. -/
def Context.LastContent (ctx : Context) (column : Nat) : Prop :=
  ∃ earlier unit blanks, ctx.before = earlier ++ unit :: blanks ∧ Text.isBlank unit = false ∧
    (∀ blank ∈ blanks, Text.isBlank blank = true) ∧ earlier.length = column

namespace Context

theorem contentColumn_eq (ctx : Context) :
    ctx.contentColumn = (ctx.before.rdropWhile Text.isBlank).length := rfl

/-- The content column is the one after the last unit that is not blank. -/
theorem contentColumn_eq_succ_iff {ctx : Context} {column : Nat} :
    ctx.contentColumn = column + 1 ↔ ctx.LastContent column := by
  rw [contentColumn_eq]
  constructor
  · intro length
    have nonempty : ctx.before.rdropWhile Text.isBlank ≠ [] :=
      List.ne_nil_of_length_eq_add_one length
    refine ⟨(ctx.before.rdropWhile Text.isBlank).dropLast,
      (ctx.before.rdropWhile Text.isBlank).getLast nonempty, ctx.before.rtakeWhile Text.isBlank,
      ?_, ?_, ?_, ?_⟩
    · rw [List.append_cons, List.dropLast_append_getLast, List.rdropWhile_append_rtakeWhile]
    · exact Bool.eq_false_iff.mpr (List.rdropWhile_last_not _ _ nonempty)
    · exact fun blank => List.mem_rtakeWhile_imp
    · rw [List.length_dropLast, length, Nat.add_sub_cancel]
  · rintro ⟨earlier, unit, blanks, split, content, areBlank, rfl⟩
    have reversed : ctx.before.reverse = blanks.reverse ++ unit :: earlier.reverse := by
      rw [split, List.reverse_append, List.reverse_cons, List.append_assoc, List.singleton_append]
    have dropped : ctx.before.reverse.dropWhile Text.isBlank = unit :: earlier.reverse := by
      rw [reversed, List.dropWhile_append_of_pos fun blank member =>
        areBlank blank (List.mem_reverse.mp member), List.dropWhile_cons_of_neg (by simp [content])]
    rw [List.rdropWhile, dropped, List.length_reverse, List.length_cons, List.length_reverse]

theorem contentColumn_le (ctx : Context) : ctx.contentColumn ≤ ctx.column :=
  (List.rdropWhile_prefix Text.isBlank ctx.before).length_le

/-- What is before the cursor is at another place. -/
theorem place_ne_cursor {ctx : Context} {column : Nat} (before : column < ctx.column) :
    ctx.place column ≠ ctx.cursor := by
  intro same
  have columns : (column : Int) = ctx.column := congrArg Position.column same
  omega

end Context

/-! ### Answers -/

/-- Answers to all questions about a buffer. -/
structure Answers where
  /-- The nearest opening before a place whose closing is missing. -/
  unmatchedOpening : Delimiters → Position → Option Unmatched
  /-- The nearest closing at or after a place whose opening is missing. -/
  unmatchedClosing : Delimiters → Position → Option Unmatched
  /-- The kind of the span around a place. -/
  spanKind : Position → Option Text
  /-- The syntax scope at a place. -/
  scope : Position → Option Text
  /-- The language at a place. -/
  language : Position → Option Text

/-- The answers of a host that knows nothing. -/
def Answers.silent : Answers where
  unmatchedOpening _ _ := none
  unmatchedClosing _ _ := none
  spanKind _ := none
  scope _ := none
  language _ := none

/-- A host gives some answers, whatever it was asked before. One that parses no embedded languages knows no
language anywhere. -/
structure Oracle.Gives (oracle : Oracle) (answers : Answers) : Prop where
  unmatchedOpening : ∀ earlier delimiters place, oracle.unmatchedOpening earlier delimiters place =
    .ok (answers.unmatchedOpening delimiters place)
  unmatchedClosing : ∀ earlier delimiters place, oracle.unmatchedClosing earlier delimiters place =
    .ok (answers.unmatchedClosing delimiters place)
  spanKind : ∀ earlier place, oracle.spanKind earlier place = .ok (answers.spanKind place)
  scope : ∀ earlier place, oracle.scope earlier place = .ok (answers.scope place)
  language : ∀ answer, oracle.language = some answer →
    ∀ earlier place, answer earlier place = .ok (answers.language place)
  noLanguage : oracle.language = none → ∀ place, answers.language place = none

theorem Oracle.silent_gives : Oracle.silent.Gives .silent where
  unmatchedOpening _ _ _ := rfl
  unmatchedClosing _ _ _ := rfl
  spanKind _ _ := rfl
  scope _ _ := rfl
  language _ known := by cases known
  noLanguage _ _ := rfl

/-- A host that never fails to answer about spans and scopes. It may answer in another way each time. -/
structure Oracle.AnswersSyntax (oracle : Oracle) : Prop where
  spanKind : ∀ earlier place, ∃ found, oracle.spanKind earlier place = .ok found
  scope : ∀ earlier place, ∃ found, oracle.scope earlier place = .ok found

theorem Oracle.Gives.answersSyntax {oracle : Oracle} {answers : Answers} (gives : oracle.Gives answers) :
    oracle.AnswersSyntax where
  spanKind earlier place := ⟨_, gives.spanKind earlier place⟩
  scope earlier place := ⟨_, gives.scope earlier place⟩

namespace Answers

/-- The scope at the last unit before the cursor that is not blank. -/
def scopeBefore (answers : Answers) (ctx : Context) : Option Text :=
  if ctx.contentColumn = 0 then none else answers.scope (ctx.place (ctx.contentColumn - 1))

theorem scopeBefore_eq_some_iff {answers : Answers} {ctx : Context} {scope : Text} :
    answers.scopeBefore ctx = some scope ↔
      ∃ column, ctx.LastContent column ∧ answers.scope (ctx.place column) = some scope := by
  unfold scopeBefore
  cases content : ctx.contentColumn with
  | zero =>
    refine iff_of_false (by simp) ?_
    rintro ⟨column, last, -⟩
    rw [← Context.contentColumn_eq_succ_iff, content] at last
    exact absurd last (Nat.succ_ne_zero column).symm
  | succ column =>
    rw [if_neg (Nat.succ_ne_zero column), Nat.add_sub_cancel]
    constructor
    · exact fun found => ⟨column, Context.contentColumn_eq_succ_iff.mp content, found⟩
    · rintro ⟨other, last, found⟩
      rw [← Context.contentColumn_eq_succ_iff, content] at last
      obtain rfl := Nat.succ.inj last
      exact found

/-- Answers agree with what is known about a context. -/
structure Fit (answers : Answers) (ctx : Context) (memo : Memo) : Prop where
  language : ∀ found, memo.language = some found → found = answers.language ctx.cursor
  spanKind : ∀ found, memo.spanKind = some found → found = answers.spanKind ctx.cursor
  scopeHere : ∀ found, memo.scopeHere = some found → found = answers.scope ctx.cursor
  scopeBefore : ∀ found, memo.scopeBefore = some found → found = answers.scopeBefore ctx

theorem fit_empty (answers : Answers) (ctx : Context) : answers.Fit ctx {} := by
  constructor <;> intro found known <;> cases known

/-- Answers that agree with what is known, where nothing else is. -/
def ofMemo (ctx : Context) (memo : Memo) : Answers where
  unmatchedOpening _ _ := none
  unmatchedClosing _ _ := none
  spanKind _ := memo.spanKind.getD none
  scope place := if place = ctx.cursor then memo.scopeHere.getD none else memo.scopeBefore.getD none
  language _ := memo.language.getD none

end Answers

/-- No scope is known where nothing stands that has one. -/
def Memo.IsSound (memo : Memo) (ctx : Context) : Prop :=
  ctx.contentColumn = 0 → ∀ found, memo.scopeBefore = some found → found = none

/-- There are answers that agree with what is known, if that is sound. -/
theorem Memo.IsSound.fit_ofMemo {memo : Memo} {ctx : Context} (sound : memo.IsSound ctx) :
    (Answers.ofMemo ctx memo).Fit ctx memo where
  language found known := by
    rw [Answers.ofMemo, known, Option.getD_some]
  spanKind found known := by
    rw [Answers.ofMemo, known, Option.getD_some]
  scopeHere found known := by
    show found = if ctx.cursor = ctx.cursor then memo.scopeHere.getD none else _
    rw [if_pos rfl, known, Option.getD_some]
  scopeBefore found known := by
    unfold Answers.scopeBefore
    split
    · next start => exact sound start found known
    · next content =>
      have before : ctx.contentColumn - 1 < ctx.column := by
        have := ctx.contentColumn_le
        omega
      show found = if ctx.place (ctx.contentColumn - 1) = ctx.cursor then _ else memo.scopeBefore.getD none
      rw [if_neg (Context.place_ne_cursor before), known, Option.getD_some]

/-! ### What becomes known -/

/-- What is kept stays as it is, or becomes known as something that was given. -/
def Memo.CellGrows (given : Option Text → Prop) (before after : Option (Option Text)) : Prop :=
  after = before ∨ before = none ∧ ∃ found, after = some found ∧ given found

/-- What was known about the syntax stays known, and what became known was answered by the host. -/
structure Memo.Grows (ctx : Context) (before after : Memo) : Prop where
  language : after.language = before.language
  spanKind : CellGrows (fun found => ∃ earlier, ctx.oracle.spanKind earlier ctx.cursor = .ok found)
    before.spanKind after.spanKind
  scopeHere : CellGrows (fun found => ∃ earlier, ctx.oracle.scope earlier ctx.cursor = .ok found)
    before.scopeHere after.scopeHere
  scopeBefore : CellGrows
    (fun found => if ctx.contentColumn = 0 then found = none else
      ∃ earlier, ctx.oracle.scope earlier (ctx.place (ctx.contentColumn - 1)) = .ok found)
    before.scopeBefore after.scopeBefore

namespace Memo

variable {given : Option Text → Prop} {first second third : Option (Option Text)}

theorem CellGrows.trans (one : CellGrows given first second) (two : CellGrows given second third) :
    CellGrows given first third := by
  obtain rfl | ⟨rfl, found, rfl, isGiven⟩ := one
  · exact two
  · obtain rfl | ⟨absurd, -⟩ := two
    · exact Or.inr ⟨rfl, found, rfl, isGiven⟩
    · cases absurd

/-- What is known was known before or was given. -/
theorem CellGrows.known {found : Option Text} (grows : CellGrows given first second)
    (isKnown : second = some found) : first = some found ∨ given found := by
  obtain rfl | ⟨-, other, rfl, isGiven⟩ := grows
  · exact Or.inl isKnown
  · obtain rfl := Option.some.inj isKnown
    exact Or.inr isGiven

theorem CellGrows.stays {found : Option Text} (grows : CellGrows given first second)
    (isKnown : first = some found) : second = some found := by
  obtain rfl | ⟨absurd, -⟩ := grows
  · exact isKnown
  · rw [isKnown] at absurd
    cases absurd

end Memo

namespace Memo.Grows

variable {ctx : Context} {before between after : Memo}

theorem refl (ctx : Context) (memo : Memo) : memo.Grows ctx memo :=
  ⟨rfl, Or.inl rfl, Or.inl rfl, Or.inl rfl⟩

theorem trans (one : before.Grows ctx between) (two : between.Grows ctx after) : before.Grows ctx after where
  language := two.language.trans one.language
  spanKind := one.spanKind.trans two.spanKind
  scopeHere := one.scopeHere.trans two.scopeHere
  scopeBefore := one.scopeBefore.trans two.scopeBefore

theorem isSound (grows : before.Grows ctx after) (sound : before.IsSound ctx) : after.IsSound ctx := by
  intro start found isKnown
  obtain known | isGiven := grows.scopeBefore.known isKnown
  · exact sound start found known
  · rwa [if_pos start] at isGiven

/-- Answers that agree with what is known agree with what was known before. -/
theorem fit_before (grows : before.Grows ctx after) {answers : Answers} (fit : answers.Fit ctx after) :
    answers.Fit ctx before where
  language found known := fit.language found (grows.language.trans known)
  spanKind found known := fit.spanKind found (grows.spanKind.stays known)
  scopeHere found known := fit.scopeHere found (grows.scopeHere.stays known)
  scopeBefore found known := fit.scopeBefore found (grows.scopeBefore.stays known)

/-- The answers of a host that always gives the same ones go on to agree with what is known. -/
theorem fit_after (grows : before.Grows ctx after) {answers : Answers} (gives : ctx.oracle.Gives answers)
    (fit : answers.Fit ctx before) : answers.Fit ctx after where
  language found known := fit.language found (grows.language.symm.trans known)
  spanKind found known := by
    obtain known | ⟨earlier, answered⟩ := grows.spanKind.known known
    · exact fit.spanKind found known
    · exact Except.ok.inj (answered.symm.trans (gives.spanKind earlier ctx.cursor))
  scopeHere found known := by
    obtain known | ⟨earlier, answered⟩ := grows.scopeHere.known known
    · exact fit.scopeHere found known
    · exact Except.ok.inj (answered.symm.trans (gives.scope earlier ctx.cursor))
  scopeBefore found known := by
    obtain known | isGiven := grows.scopeBefore.known known
    · exact fit.scopeBefore found known
    · unfold Answers.scopeBefore
      split at isGiven
      · next start => rw [if_pos start, isGiven]
      · next content =>
        obtain ⟨earlier, answered⟩ := isGiven
        rw [if_neg content]
        exact Except.ok.inj (answered.symm.trans (gives.scope earlier _))

end Memo.Grows

/-! ### What a query tells -/

/-- Every run of a query gives a value, of which all answers tell that agree with what is known then. -/
def Query.Tells {α : Type} (query : Query α) (ctx : Context) (tells : α → Answers → Prop) : Prop :=
  ∀ memo : Memo, memo.IsSound ctx → ∃ value after, query.run' ctx memo = (.ok value, after) ∧
    memo.Grows ctx after ∧ ∀ answers : Answers, answers.Fit ctx after → tells value answers

namespace Query

variable {α β : Type} {ctx : Context}

theorem Tells.pure {value : α} {tells : α → Answers → Prop} (told : ∀ answers, tells value answers) :
    (pure value : Query α).Tells ctx tells :=
  fun memo _ => ⟨value, memo, rfl, .refl ctx memo, fun answers _ => told answers⟩

theorem Tells.mono {query : Query α} {tells tells' : α → Answers → Prop} (told : query.Tells ctx tells)
    (imp : ∀ value answers, tells value answers → tells' value answers) : query.Tells ctx tells' := by
  intro memo sound
  obtain ⟨value, after, run, grows, all⟩ := told memo sound
  exact ⟨value, after, run, grows, fun answers fit => imp value answers (all answers fit)⟩

theorem Tells.bind {query : Query α} {next : α → Query β} {tells : α → Answers → Prop}
    {tells' : β → Answers → Prop} (rest : α → β → Answers → Prop) (told : query.Tells ctx tells)
    (toldNext : ∀ value, (next value).Tells ctx (rest value))
    (imp : ∀ first value answers, tells first answers → rest first value answers → tells' value answers) :
    (query >>= next).Tells ctx tells' := by
  intro memo sound
  obtain ⟨first, between, run, grows, ofFirst⟩ := told memo sound
  obtain ⟨value, after, runNext, growsNext, ofNext⟩ := toldNext first between (grows.isSound sound)
  refine ⟨value, after, (run'_bind_of_ok run).trans runNext, grows.trans growsNext, fun answers fit => ?_⟩
  exact imp first value answers (ofFirst answers (growsNext.fit_before fit)) (ofNext answers fit)

theorem Tells.ofContext (f : Context → α) :
    (Query.ofContext f).Tells ctx fun value _ => value = f ctx :=
  fun memo _ => ⟨f ctx, memo, rfl, .refl ctx memo, fun _ _ => rfl⟩

/-- What is kept tells what it is kept for, if what is computed where nothing is known does. -/
theorem Tells.keep {cell : Memo → Option (Option Text)} {fill : Memo → Option Text → Memo}
    {compute : Query (Option Text)} {tells : Option Text → Answers → Prop}
    (ofKnown : ∀ memo found answers, cell memo = some found → answers.Fit ctx memo → tells found answers)
    (ofFilled : ∀ memo found, cell (fill memo found) = some found)
    (computed : ∀ memo, cell memo = none →
      ∃ found after, compute.run' ctx memo = (.ok found, after) ∧ memo.Grows ctx (fill after found)) :
    (Pairing.keep cell fill compute).Tells ctx tells := by
  intro memo _
  cases known : cell memo with
  | some found =>
    exact ⟨found, memo, run'_keep_of_some known ctx, .refl ctx memo, fun answers =>
      ofKnown memo found answers known⟩
  | none =>
    obtain ⟨found, after, run, grows⟩ := computed memo known
    exact ⟨found, fill after found, run'_keep_of_ok known run, grows, fun answers =>
      ofKnown _ found answers (ofFilled after found)⟩

variable (answered : ctx.oracle.AnswersSyntax)

include answered

theorem spanKind_tells : spanKind.Tells ctx fun found answers => found = answers.spanKind ctx.cursor := by
  refine .keep (fun memo found answers known fit => fit.spanKind found known) (fun _ _ => rfl)
    fun memo unknown => ?_
  obtain ⟨found, given⟩ := answered.spanKind memo.calls ctx.cursor
  refine ⟨found, _, by rw [run'_read_bind, run'_ask, given], ?_⟩
  exact ⟨rfl, Or.inr ⟨unknown, found, rfl, memo.calls, given⟩, Or.inl rfl, Or.inl rfl⟩

theorem scopeHere_tells : scopeHere.Tells ctx fun found answers => found = answers.scope ctx.cursor := by
  refine .keep (fun memo found answers known fit => fit.scopeHere found known) (fun _ _ => rfl)
    fun memo unknown => ?_
  obtain ⟨found, given⟩ := answered.scope memo.calls ctx.cursor
  refine ⟨found, _, by rw [run'_read_bind, run'_ask, given], ?_⟩
  exact ⟨rfl, Or.inl rfl, Or.inr ⟨unknown, found, rfl, memo.calls, given⟩, Or.inl rfl⟩

theorem scopeBefore_tells :
    scopeBefore.Tells ctx fun found answers => found = answers.scopeBefore ctx := by
  refine .keep (fun memo found answers known fit => fit.scopeBefore found known) (fun _ _ => rfl)
    fun memo unknown => ?_
  by_cases start : ctx.contentColumn = 0
  · refine ⟨none, memo, by rw [run'_read_bind, if_pos start, run'_pure], ?_⟩
    exact ⟨rfl, Or.inl rfl, Or.inl rfl, Or.inr ⟨unknown, none, rfl, (if_pos start).mpr rfl⟩⟩
  · obtain ⟨found, given⟩ := answered.scope memo.calls (ctx.place (ctx.contentColumn - 1))
    refine ⟨found, _, by rw [run'_read_bind, if_neg start, run'_ask, given], ?_⟩
    exact ⟨rfl, Or.inl rfl, Or.inl rfl,
      Or.inr ⟨unknown, found, rfl, (if_neg start).mpr ⟨memo.calls, given⟩⟩⟩

end Query

end Pairing
