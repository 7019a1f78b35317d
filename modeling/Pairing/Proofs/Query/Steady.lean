/-
**Queries that end the same way.**

What was learned before a query saves it questions. Where the host gives the same answer whenever it is
asked, the query comes to the same for that:

* `Query.IsSteady`: a query ends in one way, whatever is known, and learns what the answers say;
* `Query.IsSteady.bind`, `Query.Settles.ask`, `Query.Settles.keep`: how this is put together;
* `Query.language_isSteady` and its like: the questions to a host;
* `Query.IsSafe`: a query never fails, and learns what the answers say;
* `Query.IsSteady.isSafe`: a steady query that did not fail once never does.
-/

import Pairing.Proofs.Query.Answers

namespace Pairing.Query

variable {α β : Type} {ctx : Context} {answers : Answers}

/-- A query comes to an outcome from whatever is known, as long as it agrees with the answers, and leaves
it so. -/
def Settles (query : Query α) (ctx : Context) (answers : Answers) (outcome : Except Fault α) : Prop :=
  ∀ memo, answers.Fit ctx memo →
    ∃ after, query.run' ctx memo = (outcome, after) ∧ answers.Fit ctx after

/-- A query comes to one outcome from whatever is known. -/
def IsSteady (query : Query α) (ctx : Context) (answers : Answers) : Prop :=
  ∃ outcome, query.Settles ctx answers outcome

/-- A query gives a value from whatever is known, as long as it agrees with the answers, and leaves it
so. -/
def IsSafe (query : Query α) (ctx : Context) (answers : Answers) : Prop :=
  ∀ memo, answers.Fit ctx memo →
    ∃ value after, query.run' ctx memo = (.ok value, after) ∧ answers.Fit ctx after

/-- A query leaves what is known in agreement with the answers. -/
def Keeps (query : Query α) (ctx : Context) (answers : Answers) : Prop :=
  ∀ memo, answers.Fit ctx memo → answers.Fit ctx (query.run' ctx memo).2

namespace Settles

theorem read {next : Context → Query β} {outcome : Except Fault β}
    (rest : (next ctx).Settles ctx answers outcome) :
    (MonadReader.read >>= next).Settles ctx answers outcome :=
  rest

theorem ask {call : OracleCall} {answer : List OracleCall → Except Fault α} {found : α}
    (given : ∀ earlier, answer earlier = .ok found) :
    (Query.ask call answer).Settles ctx answers (.ok found) := by
  intro memo fit
  refine ⟨{ memo with calls := memo.calls ++ [call] }, by rw [run'_ask, given], ?_⟩
  exact ⟨fit.language, fit.spanKind, fit.scopeHere, fit.scopeBefore⟩

/-- What is kept is the same whether it is known or not, if what is computed is what the answers say. -/
theorem keep {cell : Memo → Option (Option Text)} {fill : Memo → Option Text → Memo}
    {compute : Query (Option Text)} {found : Option Text}
    (ofKnown : ∀ memo known, answers.Fit ctx memo → cell memo = some known → known = found)
    (ofFilled : ∀ memo, answers.Fit ctx memo → answers.Fit ctx (fill memo found))
    (computed : compute.Settles ctx answers (.ok found)) :
    (Pairing.keep cell fill compute).Settles ctx answers (.ok found) := by
  intro memo fit
  cases known : cell memo with
  | some value =>
    obtain rfl := ofKnown memo value fit known
    exact ⟨memo, run'_keep_of_some known ctx, fit⟩
  | none =>
    obtain ⟨after, run, fitAfter⟩ := computed memo fit
    exact ⟨fill after found, run'_keep_of_ok known run, ofFilled after fitAfter⟩

end Settles

namespace IsSteady

theorem pure (value : α) : (pure value : Query α).IsSteady ctx answers :=
  ⟨.ok value, fun memo fit => ⟨memo, rfl, fit⟩⟩

theorem throw (fault : Fault) : (throw fault : Query α).IsSteady ctx answers :=
  ⟨.error fault, fun memo fit => ⟨memo, rfl, fit⟩⟩

theorem bind {query : Query α} {next : α → Query β} (first : query.IsSteady ctx answers)
    (rest : ∀ value, (next value).IsSteady ctx answers) : (query >>= next).IsSteady ctx answers := by
  obtain ⟨outcome, same⟩ := first
  cases outcome with
  | error fault =>
    refine ⟨.error fault, fun memo fit => ?_⟩
    obtain ⟨after, run, fitAfter⟩ := same memo fit
    exact ⟨after, by rw [run'_bind, run], fitAfter⟩
  | ok value =>
    obtain ⟨outcome, sameNext⟩ := rest value
    refine ⟨outcome, fun memo fit => ?_⟩
    obtain ⟨between, run, fitBetween⟩ := same memo fit
    obtain ⟨after, runNext, fitAfter⟩ := sameNext between fitBetween
    exact ⟨after, (run'_bind_of_ok run).trans runNext, fitAfter⟩

theorem read {next : Context → Query β} (rest : (next ctx).IsSteady ctx answers) :
    (MonadReader.read >>= next).IsSteady ctx answers :=
  rest

theorem ofExcept (f : Context → Except Fault α) : (Query.ofExcept f).IsSteady ctx answers := by
  refine ⟨f ctx, fun memo fit => ⟨memo, ?_, fit⟩⟩
  rw [Query.ofExcept, run'_read_bind]
  cases f ctx <;> rfl

theorem ite {condition : Prop} [Decidable condition] {first second : Query α}
    (ifSo : first.IsSteady ctx answers) (ifNot : second.IsSteady ctx answers) :
    (if condition then first else second).IsSteady ctx answers := by
  split
  · exact ifSo
  · exact ifNot

/-- A steady query gives the same value again. -/
theorem again {query : Query α} {memo after other : Memo} {value : α}
    (steady : query.IsSteady ctx answers) (fit : answers.Fit ctx memo)
    (given : query.run' ctx memo = (.ok value, after)) (fitOther : answers.Fit ctx other) :
    ∃ last, query.run' ctx other = (.ok value, last) ∧ answers.Fit ctx last := by
  obtain ⟨outcome, same⟩ := steady
  obtain ⟨_, run, -⟩ := same memo fit
  obtain ⟨rfl, -⟩ := Prod.mk.inj (run.symm.trans given)
  exact same other fitOther

/-- A steady query that gave a value once always does. -/
theorem isSafe {query : Query α} {memo after : Memo} {value : α} (steady : query.IsSteady ctx answers)
    (fit : answers.Fit ctx memo) (given : query.run' ctx memo = (.ok value, after)) :
    query.IsSafe ctx answers :=
  fun _ fitOther => ⟨value, steady.again fit given fitOther⟩

theorem keeps {query : Query α} (steady : query.IsSteady ctx answers) : query.Keeps ctx answers := by
  intro memo fit
  obtain ⟨outcome, same⟩ := steady
  obtain ⟨after, run, fitAfter⟩ := same memo fit
  rwa [run]

theorem fit_of_run' {query : Query α} {memo after : Memo} {outcome : Except Fault α}
    (steady : query.IsSteady ctx answers) (fit : answers.Fit ctx memo)
    (given : query.run' ctx memo = (outcome, after)) : answers.Fit ctx after := by
  have kept := steady.keeps memo fit
  rwa [given] at kept

end IsSteady

theorem Keeps.bind {query : Query α} {next : α → Query β} (first : query.Keeps ctx answers)
    (rest : ∀ value, (next value).Keeps ctx answers) : (query >>= next).Keeps ctx answers := by
  intro memo fit
  have fitBetween := first memo fit
  rw [run'_bind]
  cases run : query.run' ctx memo with
  | mk outcome between =>
    rw [run] at fitBetween
    cases outcome with
    | ok value => exact rest value between fitBetween
    | error fault => exact fitBetween

theorem IsSafe.bind {query : Query α} {next : α → Query β} (first : query.IsSafe ctx answers)
    (rest : ∀ value, (next value).IsSafe ctx answers) : (query >>= next).IsSafe ctx answers := by
  intro memo fit
  obtain ⟨value, between, run, fitBetween⟩ := first memo fit
  obtain ⟨last, after, runNext, fitAfter⟩ := rest value between fitBetween
  exact ⟨last, after, (run'_bind_of_ok run).trans runNext, fitAfter⟩

theorem IsSafe.pure (value : α) : (pure value : Query α).IsSafe ctx answers :=
  fun memo fit => ⟨value, memo, rfl, fit⟩

/-! ### Questions to a host -/

section Questions

variable (gives : ctx.oracle.Gives answers)

include gives

theorem language_isSteady : language.IsSteady ctx answers := by
  refine ⟨_, .keep (fun memo known fit => fit.language known) (fun memo fit => ?_) (.read ?_)⟩
  · exact ⟨fun found known => (Option.some.inj known).symm, fit.spanKind, fit.scopeHere, fit.scopeBefore⟩
  · cases knows : ctx.oracle.language with
    | some answer => exact .ask fun earlier => gives.language answer knows earlier ctx.cursor
    | none =>
      intro memo fit
      exact ⟨memo, by rw [gives.noLanguage knows, run'_pure], fit⟩

theorem spanKind_isSteady : spanKind.IsSteady ctx answers := by
  refine ⟨_, .keep (fun memo known fit => fit.spanKind known) (fun memo fit => ?_)
    (.read (.ask fun earlier => gives.spanKind earlier ctx.cursor))⟩
  exact ⟨fit.language, fun found known => (Option.some.inj known).symm, fit.scopeHere, fit.scopeBefore⟩

theorem scopeHere_isSteady : scopeHere.IsSteady ctx answers := by
  refine ⟨_, .keep (fun memo known fit => fit.scopeHere known) (fun memo fit => ?_)
    (.read (.ask fun earlier => gives.scope earlier ctx.cursor))⟩
  exact ⟨fit.language, fit.spanKind, fun found known => (Option.some.inj known).symm, fit.scopeBefore⟩

theorem scopeBefore_isSteady : scopeBefore.IsSteady ctx answers := by
  refine ⟨.ok (answers.scopeBefore ctx), .keep (fun memo known fit => fit.scopeBefore known)
    (fun memo fit => ?_) (.read ?_)⟩
  · exact ⟨fit.language, fit.spanKind, fit.scopeHere, fun found known => (Option.some.inj known).symm⟩
  · unfold Answers.scopeBefore
    by_cases start : ctx.contentColumn = 0
    · rw [if_pos start, if_pos start]
      exact fun memo fit => ⟨memo, rfl, fit⟩
    · rw [if_neg start, if_neg start]
      exact .ask fun earlier => gives.scope earlier _

theorem unmatchedOpening_isSteady (delimiters : Delimiters) :
    (unmatchedOpening delimiters).IsSteady ctx answers :=
  ⟨_, .read (.ask fun earlier => gives.unmatchedOpening earlier delimiters ctx.cursor)⟩

theorem unmatchedClosing_isSteady (delimiters : Delimiters) :
    (unmatchedClosing delimiters).IsSteady ctx answers :=
  ⟨_, .read (.ask fun earlier => gives.unmatchedClosing earlier delimiters ctx.cursor)⟩

end Questions

end Pairing.Query
