/-
**Queries that ask through what is kept.**

Most queries look at the context, put questions about delimiters, and ask for the language, the span and the
scopes where the answers are kept. What such a query is put together from tells what it does to a memo:

* `Query.IsOrderly`: a query is put together from these, and from nothing else;
* `Query.IsOrderly.isSteady`: it ends in one way under a host that always gives the same answers;
* `OracleCall.isKept`, `Memo.Holds`: the calls whose answers are kept, and those whose answer a memo holds;
* `Memo.IsAccounted`: each call of that kind was made once, and its answer is held;
* `Query.IsOrderly.keepsAccounts`: an orderly query makes no such call twice;
* `callsOf`, `Context.AsksOnce`, `Memo.IsAccounted.asksOnce`: which calls these can have been.
-/

import Mathlib.Data.List.Nodup
import Mathlib.Data.List.Perm.Subperm
import Pairing.Oracle.Table
import Pairing.Proofs.Query.Steady

namespace Pairing

namespace Query

/-- A query looks at the context, puts questions about delimiters, and asks for everything else where the
answers are kept. -/
inductive IsOrderly : {α : Type} → Query α → Prop
  | pure {α : Type} (value : α) : IsOrderly (pure value)
  | throw {α : Type} (fault : Fault) : IsOrderly (throw fault : Query α)
  | bind {α β : Type} {query : Query α} {next : α → Query β} :
      IsOrderly query → (∀ value, IsOrderly (next value)) → IsOrderly (query >>= next)
  | read : IsOrderly (MonadReader.read : Query Context)
  | language : IsOrderly Query.language
  | spanKind : IsOrderly Query.spanKind
  | scopeHere : IsOrderly Query.scopeHere
  | scopeBefore : IsOrderly Query.scopeBefore
  | unmatchedOpening (delimiters : Delimiters) : IsOrderly (Query.unmatchedOpening delimiters)
  | unmatchedClosing (delimiters : Delimiters) : IsOrderly (Query.unmatchedClosing delimiters)

namespace IsOrderly

variable {α β : Type}

theorem ofContext (f : Context → α) : (Query.ofContext f).IsOrderly :=
  .bind .read fun _ => .pure _

theorem ofExcept (f : Context → Except Fault α) : (Query.ofExcept f).IsOrderly := by
  refine .bind .read fun ctx => ?_
  cases f ctx with
  | ok value => exact .pure value
  | error fault => exact .throw fault

theorem map {query : Query α} (orderly : query.IsOrderly) (f : α → β) : (f <$> query).IsOrderly := by
  rw [map_eq_pure_bind]
  exact .bind orderly fun _ => .pure _

theorem ite {condition : Prop} [Decidable condition] {first second : Query α} (ifSo : first.IsOrderly)
    (ifNot : second.IsOrderly) : (if condition then first else second).IsOrderly := by
  split
  · exact ifSo
  · exact ifNot

theorem isLanguageAmong (names : List Text) (handled : Except Fault (List Text)) :
    (Query.isLanguageAmong names handled).IsOrderly := by
  refine .bind .language fun current => ?_
  cases current with
  | some current => exact .pure _
  | none =>
    refine .bind .read fun ctx => .ite (.pure _) ?_
    cases handled with
    | ok filetypes => exact .pure _
    | error fault => exact .throw _

theorem scopeMatches (isMember : Text → Except Fault Bool) (place : ScopePlace) :
    (Query.scopeMatches isMember place).IsOrderly := by
  have belongs (scope : Option Text) : (scopeBelongs isMember scope).IsOrderly := by
    cases scope with
    | none => exact .pure _
    | some name =>
      cases belongs : isMember name with
      | ok answer =>
        rw [scopeBelongs, belongs]
        exact .pure _
      | error fault =>
        rw [scopeBelongs, belongs]
        exact .throw _
  have here := scopeHere.bind belongs
  have before := scopeBefore.bind belongs
  cases place with
  | inside => exact here
  | after => exact before
  | insideOrAfter => exact here.bind fun _ => .ite (.pure _) before

/-- An orderly query ends in one way, whatever is known. -/
theorem isSteady {query : Query α} (orderly : query.IsOrderly) {ctx : Context} {answers : Answers}
    (gives : ctx.oracle.Gives answers) : query.IsSteady ctx answers := by
  induction orderly with
  | pure value => exact .pure value
  | throw fault => exact .throw fault
  | bind _ _ first rest => exact first.bind rest
  | read => exact ⟨.ok ctx, fun memo fit => ⟨memo, rfl, fit⟩⟩
  | language => exact language_isSteady gives
  | spanKind => exact spanKind_isSteady gives
  | scopeHere => exact scopeHere_isSteady gives
  | scopeBefore => exact scopeBefore_isSteady gives
  | unmatchedOpening delimiters => exact unmatchedOpening_isSteady gives delimiters
  | unmatchedClosing delimiters => exact unmatchedClosing_isSteady gives delimiters

end IsOrderly

end Query

namespace Context.LastContent

variable {ctx : Context} {column other : Nat}

/-- What is not blank stands before the cursor. -/
theorem lt_column (last : ctx.LastContent column) : column < ctx.column := by
  have := ctx.contentColumn_le
  rw [contentColumn_eq_succ_iff.mpr last] at this
  exact this

theorem unique (last : ctx.LastContent column) (lastToo : ctx.LastContent other) : column = other :=
  Nat.succ.inj ((contentColumn_eq_succ_iff.mpr last).symm.trans (contentColumn_eq_succ_iff.mpr lastToo))

end Context.LastContent

/-! ### Calls whose answers are kept -/

/-- Whether the answer to a call is kept. Answers about delimiters are not. -/
def OracleCall.isKept : OracleCall → Bool
  | .unmatchedOpening .. | .unmatchedClosing .. => false
  | .spanKind _ | .scope _ | .language _ => true

/-- A memo holds the answer to a call. -/
def Memo.Holds (memo : Memo) (ctx : Context) : OracleCall → Prop
  | .language place => place = ctx.cursor ∧ memo.language.isSome
  | .spanKind place => place = ctx.cursor ∧ memo.spanKind.isSome
  | .scope place => place = ctx.cursor ∧ memo.scopeHere.isSome ∨
      (∃ column, ctx.LastContent column ∧ place = ctx.place column) ∧ memo.scopeBefore.isSome
  | .unmatchedOpening .. | .unmatchedClosing .. => False

/-- Each call whose answer is kept was made at most once, and the memo holds its answer. -/
structure Memo.IsAccounted (memo : Memo) (ctx : Context) : Prop where
  once : ∀ call, call.isKept = true → memo.calls.count call ≤ 1
  held : ∀ call ∈ memo.calls, call.isKept = true → memo.Holds ctx call

namespace Memo

variable {memo after : Memo} {ctx : Context} {call : OracleCall}

theorem isAccounted_empty (ctx : Context) : ({} : Memo).IsAccounted ctx :=
  ⟨fun _ _ => Nat.zero_le 1, fun _ made => absurd made List.not_mem_nil⟩

/-- A memo that learns more holds what it held. -/
theorem Holds.mono (held : memo.Holds ctx call) (language : memo.language.isSome → after.language.isSome)
    (spanKind : memo.spanKind.isSome → after.spanKind.isSome)
    (scopeHere : memo.scopeHere.isSome → after.scopeHere.isSome)
    (scopeBefore : memo.scopeBefore.isSome → after.scopeBefore.isSome) : after.Holds ctx call := by
  cases call with
  | language place => exact held.imp_right language
  | spanKind place => exact held.imp_right spanKind
  | scope place => exact held.imp (And.imp_right scopeHere) (And.imp_right scopeBefore)
  | unmatchedOpening delimiters place => exact held
  | unmatchedClosing delimiters place => exact held

namespace IsAccounted

/-- What becomes known without a call. -/
theorem learn (accounted : memo.IsAccounted ctx) (calls : after.calls = memo.calls)
    (stays : ∀ other, memo.Holds ctx other → after.Holds ctx other) : after.IsAccounted ctx := by
  refine ⟨?_, fun other made kept => stays other ?_⟩
  · rw [calls]
    exact accounted.once
  · rw [calls] at made
    exact accounted.held other made kept

/-- A call whose answer was not held, and is held from then on if answers of its kind are. -/
theorem ask (accounted : memo.IsAccounted ctx) (calls : after.calls = memo.calls ++ [call])
    (unknown : ¬ memo.Holds ctx call) (stays : ∀ other, memo.Holds ctx other → after.Holds ctx other)
    (known : call.isKept = true → after.Holds ctx call) : after.IsAccounted ctx := by
  refine ⟨fun other kept => ?_, fun other made kept => ?_⟩
  · rw [calls, List.count_append]
    by_cases same : other = call
    · subst same
      have notMade : other ∉ memo.calls := fun made => unknown (accounted.held other made kept)
      rw [List.count_eq_zero_of_not_mem notMade, List.count_singleton_self]
    · rw [List.count_singleton, if_neg (by simpa using Ne.symm same), Nat.add_zero]
      exact accounted.once other kept
  · rw [calls, List.mem_append, List.mem_singleton] at made
    obtain before | rfl := made
    · exact stays other (accounted.held other before kept)
    · exact known kept

end IsAccounted

end Memo

namespace Query

/-- A query leaves a memo accounted for. -/
def KeepsAccounts {α : Type} (query : Query α) (ctx : Context) : Prop :=
  ∀ memo : Memo, memo.IsAccounted ctx → (query.run' ctx memo).2.IsAccounted ctx

namespace KeepsAccounts

variable {α β : Type} {ctx : Context}

theorem bind {query : Query α} {next : α → Query β} (first : query.KeepsAccounts ctx)
    (rest : ∀ value, (next value).KeepsAccounts ctx) : (query >>= next).KeepsAccounts ctx := by
  intro memo accounted
  have between := first memo accounted
  rw [run'_bind]
  cases run : query.run' ctx memo with
  | mk outcome after =>
    rw [run] at between
    cases outcome with
    | ok value => exact rest value after between
    | error fault => exact between

/-- What is computed where nothing is kept is accounted for once it is kept. -/
theorem keep {cell : Memo → Option (Option Text)} {fill : Memo → Option Text → Memo}
    {compute : Query (Option Text)}
    (computed : ∀ memo : Memo, memo.IsAccounted ctx → cell memo = none →
      ∃ found after, compute.run' ctx memo = (.ok found, after) ∧ (fill after found).IsAccounted ctx) :
    (Pairing.keep cell fill compute).KeepsAccounts ctx := by
  intro memo accounted
  cases known : cell memo with
  | some found =>
    rw [run'_keep_of_some known]
    exact accounted
  | none =>
    obtain ⟨found, after, run, filled⟩ := computed memo accounted known
    rw [run'_keep_of_ok known run]
    exact filled

theorem unmatchedOpening (delimiters : Delimiters) :
    (Query.unmatchedOpening delimiters).KeepsAccounts ctx := by
  intro memo accounted
  rw [Query.unmatchedOpening, run'_read_bind, run'_ask]
  exact accounted.ask rfl id (fun _ held => held.mono id id id id) fun kept => by cases kept

theorem unmatchedClosing (delimiters : Delimiters) :
    (Query.unmatchedClosing delimiters).KeepsAccounts ctx := by
  intro memo accounted
  rw [Query.unmatchedClosing, run'_read_bind, run'_ask]
  exact accounted.ask rfl id (fun _ held => held.mono id id id id) fun kept => by cases kept

variable {answers : Answers} (gives : ctx.oracle.Gives answers)

include gives

theorem language : Query.language.KeepsAccounts ctx := by
  refine keep fun memo accounted unknown => ?_
  cases knows : ctx.oracle.language with
  | some answer =>
    refine ⟨_, _, by rw [run'_read_bind, knows, run'_ask, gives.language answer knows], ?_⟩
    refine accounted.ask rfl (fun held => ?_) (fun other held => held.mono (fun _ => rfl) id id id)
      fun _ => ⟨rfl, rfl⟩
    rw [Memo.Holds, unknown] at held
    exact Bool.false_ne_true held.2
  | none =>
    refine ⟨none, memo, by rw [run'_read_bind, knows, run'_pure], ?_⟩
    exact accounted.learn rfl fun other held => held.mono (fun _ => rfl) id id id

theorem spanKind : Query.spanKind.KeepsAccounts ctx := by
  refine keep fun memo accounted unknown => ?_
  refine ⟨_, _, by rw [run'_read_bind, run'_ask, gives.spanKind], ?_⟩
  refine accounted.ask rfl (fun held => ?_) (fun other held => held.mono id (fun _ => rfl) id id)
    fun _ => ⟨rfl, rfl⟩
  rw [Memo.Holds, unknown] at held
  exact Bool.false_ne_true held.2

theorem scopeHere : Query.scopeHere.KeepsAccounts ctx := by
  refine keep fun memo accounted unknown => ?_
  refine ⟨_, _, by rw [run'_read_bind, run'_ask, gives.scope], ?_⟩
  refine accounted.ask rfl ?_ (fun other held => held.mono id id (fun _ => rfl) id)
    fun _ => Or.inl ⟨rfl, rfl⟩
  rintro (⟨-, known⟩ | ⟨⟨column, last, same⟩, -⟩)
  · rw [unknown] at known
    exact Bool.false_ne_true known
  · exact Context.place_ne_cursor last.lt_column same.symm

theorem scopeBefore : Query.scopeBefore.KeepsAccounts ctx := by
  refine keep fun memo accounted unknown => ?_
  by_cases start : ctx.contentColumn = 0
  · refine ⟨none, memo, by rw [run'_read_bind, if_pos start, run'_pure], ?_⟩
    exact accounted.learn rfl fun other held => held.mono id id id fun _ => rfl
  · have last : ctx.LastContent (ctx.contentColumn - 1) :=
      Context.contentColumn_eq_succ_iff.mp (Nat.succ_pred start).symm
    refine ⟨_, _, by rw [run'_read_bind, if_neg start, run'_ask, gives.scope], ?_⟩
    refine accounted.ask rfl ?_ (fun other held => held.mono id id id fun _ => rfl)
      fun _ => Or.inr ⟨⟨_, last, rfl⟩, rfl⟩
    rintro (⟨same, -⟩ | ⟨-, known⟩)
    · exact Context.place_ne_cursor last.lt_column same
    · rw [unknown] at known
      exact Bool.false_ne_true known

end KeepsAccounts

/-- An orderly query makes no call twice whose answer is kept. -/
theorem IsOrderly.keepsAccounts {α : Type} {query : Query α} (orderly : query.IsOrderly) {ctx : Context}
    {answers : Answers} (gives : ctx.oracle.Gives answers) : query.KeepsAccounts ctx := by
  induction orderly with
  | pure value => exact fun memo accounted => accounted
  | throw fault => exact fun memo accounted => accounted
  | bind _ _ first rest => exact first.bind rest
  | read => exact fun memo accounted => accounted
  | language => exact .language gives
  | spanKind => exact .spanKind gives
  | scopeHere => exact .scopeHere gives
  | scopeBefore => exact .scopeBefore gives
  | unmatchedOpening delimiters => exact .unmatchedOpening delimiters
  | unmatchedClosing delimiters => exact .unmatchedClosing delimiters

end Query

/-! ### The calls of a keystroke -/

/-- Which question a call puts. -/
def OracleCall.question : OracleCall → OracleQuestion
  | .unmatchedOpening .. => .unmatchedOpening
  | .unmatchedClosing .. => .unmatchedClosing
  | .spanKind _ => .spanKind
  | .scope _ => .scope
  | .language _ => .language

/-- The calls that put a question. -/
def callsOf (question : OracleQuestion) (calls : List OracleCall) : List OracleCall :=
  calls.filter fun call => call.question == question

/-- The language and the span are asked for at most once, at the cursor, and the scope at most once at the
cursor and at most once at the last unit before it that is not blank, if there is one. -/
structure Context.AsksOnce (ctx : Context) (calls : List OracleCall) : Prop where
  language : (callsOf .language calls).Subperm [.language ctx.cursor]
  spanKind : (callsOf .spanKind calls).Subperm [.spanKind ctx.cursor]
  scope : (∃ column < ctx.column, ctx.LastContent column ∧
      (callsOf .scope calls).Subperm [.scope ctx.cursor, .scope (ctx.place column)]) ∨
    (∀ column, ¬ ctx.LastContent column) ∧ (callsOf .scope calls).Subperm [.scope ctx.cursor]

namespace Memo.IsAccounted

variable {memo : Memo} {ctx : Context}

/-- The calls that put a question are some of those whose answer can be held, if such answers are kept. -/
theorem subperm_callsOf (accounted : memo.IsAccounted ctx) {question : OracleQuestion}
    {possible : List OracleCall}
    (covers : ∀ call, call.question = question →
      call.isKept = true ∧ (memo.Holds ctx call → call ∈ possible)) :
    (callsOf question memo.calls).Subperm possible := by
  have putsIt {call : OracleCall} (member : call ∈ callsOf question memo.calls) :
      call ∈ memo.calls ∧ call.question = question := by
    simpa [callsOf] using member
  refine List.subperm_of_subset (List.nodup_iff_count_le_one.mpr fun call => ?_) fun call member => ?_
  · by_cases puts : call.question = question
    · exact (List.filter_sublist.count_le call).trans (accounted.once call (covers call puts).1)
    · rw [List.count_eq_zero_of_not_mem fun member => puts (putsIt member).2]
      exact Nat.zero_le 1
  · obtain ⟨made, puts⟩ := putsIt member
    obtain ⟨kept, isPossible⟩ := covers call puts
    exact isPossible (accounted.held call made kept)

theorem subperm_scopes (accounted : memo.IsAccounted ctx) {possible : List OracleCall}
    (covers : ∀ place, memo.Holds ctx (.scope place) → .scope place ∈ possible) :
    (callsOf .scope memo.calls).Subperm possible := by
  refine accounted.subperm_callsOf fun call puts => ?_
  cases call with
  | scope place => exact ⟨rfl, covers place⟩
  | _ => cases puts

/-- A memo that is accounted for comes from calls that were made once. -/
theorem asksOnce (accounted : memo.IsAccounted ctx) : ctx.AsksOnce memo.calls where
  language := by
    refine accounted.subperm_callsOf fun call puts => ?_
    cases call with
    | language place => exact ⟨rfl, fun held => by rw [held.1, List.mem_singleton]⟩
    | _ => cases puts
  spanKind := by
    refine accounted.subperm_callsOf fun call puts => ?_
    cases call with
    | spanKind place => exact ⟨rfl, fun held => by rw [held.1, List.mem_singleton]⟩
    | _ => cases puts
  scope := by
    by_cases content : ∃ column, ctx.LastContent column
    · obtain ⟨column, last⟩ := content
      refine Or.inl ⟨column, last.lt_column, last, accounted.subperm_scopes fun place held => ?_⟩
      obtain ⟨rfl, -⟩ | ⟨⟨other, lastToo, rfl⟩, -⟩ := held
      · exact List.mem_cons_self
      · obtain rfl := lastToo.unique last
        exact List.mem_cons_of_mem _ (List.mem_singleton_self _)
    · refine Or.inr ⟨not_exists.mp content, accounted.subperm_scopes fun place held => ?_⟩
      obtain ⟨rfl, -⟩ | ⟨⟨column, last, -⟩, -⟩ := held
      · exact List.mem_singleton_self _
      · exact absurd ⟨column, last⟩ content

end Memo.IsAccounted

end Pairing
