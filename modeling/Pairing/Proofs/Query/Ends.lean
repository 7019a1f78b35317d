/-
**How queries end.**

A query runs in a context and in a memo of what was learned before, and ends in a value or in a fault. Most
of what a decision does depends on neither the memo nor the order of the calls, so it is stated for every
memo at once:

* `Query.Ends`: every run ends in a value that meets one condition or in a fault that meets another;
* `Query.Ends.bind`, `Query.Ends.ofExcept`, `Query.Ends.read`: how this is put together;
* `Query.IsQuiet`: a query that never fails;
* `Query.Coincides`: a query comes to the same in two contexts;
* `Query.run'_bind_of_ok`, `Query.exists_of_run'_bind`, `Query.of_run'_pure`: one run, forwards and
  backwards.
-/

import Pairing.Query

namespace Pairing.Query

variable {α β : Type} {ctx : Context}

/-! ### One run -/

@[simp]
theorem run'_pure (value : α) (ctx : Context) (memo : Memo) :
    (pure value : Query α).run' ctx memo = (.ok value, memo) := rfl

/-- A run that does nothing gives its value and learns nothing. -/
theorem of_run'_pure (ctx : Context) {value found : α} {memo after : Memo}
    (given : (pure value : Query α).run' ctx memo = (.ok found, after)) : value = found ∧ memo = after :=
  ⟨Except.ok.inj (congrArg Prod.fst given), congrArg Prod.snd given⟩

@[simp]
theorem run'_read_bind (next : Context → Query β) (ctx : Context) (memo : Memo) :
    ((read : Query Context) >>= next).run' ctx memo = (next ctx).run' ctx memo := rfl

theorem run'_bind (query : Query α) (next : α → Query β) (ctx : Context) (memo : Memo) :
    (query >>= next).run' ctx memo =
      match query.run' ctx memo with
      | (.ok value, after) => (next value).run' ctx after
      | (.error fault, after) => (.error fault, after) := by
  cases run : query.run' ctx memo with
  | mk outcome after =>
    simp only [run', ReaderT.run_bind, ExceptT.run_bind, StateT.run_bind] at run ⊢
    rw [run]
    cases outcome <;> rfl

/-- After a query that gives a value, the run goes on with it. -/
theorem run'_bind_of_ok {query : Query α} {next : α → Query β} {memo after : Memo} {value : α}
    (given : query.run' ctx memo = (.ok value, after)) :
    (query >>= next).run' ctx memo = (next value).run' ctx after := by
  rw [run'_bind, given]

/-- A run that gives a value went through a value of its first part. -/
theorem exists_of_run'_bind {query : Query α} {next : α → Query β} {memo after : Memo} {value : β}
    (given : (query >>= next).run' ctx memo = (.ok value, after)) :
    ∃ first between, query.run' ctx memo = (.ok first, between) ∧
      (next first).run' ctx between = (.ok value, after) := by
  rw [run'_bind] at given
  cases run : query.run' ctx memo with
  | mk outcome between =>
    rw [run] at given
    cases outcome with
    | ok first => exact ⟨first, between, rfl, given⟩
    | error fault => simp at given

@[simp]
theorem run'_ofExcept_ok {f : Context → Except Fault α} {value : α} (given : f ctx = .ok value)
    (memo : Memo) : (ofExcept f).run' ctx memo = (.ok value, memo) := by
  rw [ofExcept, run'_read_bind, given]
  rfl

theorem run'_get (ctx : Context) (memo : Memo) :
    (get : Query Memo).run' ctx memo = (.ok memo, memo) := rfl

theorem run'_modify (f : Memo → Memo) (ctx : Context) (memo : Memo) :
    (modify f : Query PUnit).run' ctx memo = (.ok ⟨⟩, f memo) := rfl

/-- A question counts as a call, whatever comes of it. -/
theorem run'_ask (call : OracleCall) (answer : List OracleCall → Except Fault α) (ctx : Context)
    (memo : Memo) :
    (ask call answer).run' ctx memo =
      (answer memo.calls, { memo with calls := memo.calls ++ [call] }) := by
  rw [ask, run'_bind_of_ok (run'_get ctx memo), run'_bind_of_ok (run'_modify _ ctx memo)]
  cases answer memo.calls <;> rfl

section Keep

variable {cell : Memo → Option α} {fill : Memo → α → Memo} {compute : Query α} {memo after : Memo}
  {found : α}

/-- A value that is known is not computed again. -/
theorem run'_keep_of_some (known : cell memo = some found) (ctx : Context) :
    (keep cell fill compute).run' ctx memo = (.ok found, memo) := by
  rw [keep, run'_bind_of_ok (run'_get ctx memo), known]
  rfl

/-- A value that is not known is computed and kept. -/
theorem run'_keep_of_ok (unknown : cell memo = none) (computed : compute.run' ctx memo = (.ok found, after)) :
    (keep cell fill compute).run' ctx memo = (.ok found, fill after found) := by
  rw [keep, run'_bind_of_ok (run'_get ctx memo), unknown]
  exact run'_bind_of_ok computed

end Keep

/-! ### Every run -/

/-- Every run of a query ends in a value that meets one condition or in a fault that meets another,
whatever was learned before. -/
def Ends (query : Query α) (ctx : Context) (value : α → Prop) (fault : Fault → Prop) : Prop :=
  ∀ memo, match (query.run' ctx memo).1 with
    | .ok found => value found
    | .error cause => fault cause

/-- A query that never fails in a context. -/
def IsQuiet (query : Query α) (ctx : Context) : Prop :=
  query.Ends ctx (fun _ => True) fun _ => False

namespace Ends

variable {query : Query α} {value value' : α → Prop} {fault fault' : Fault → Prop}

theorem any (query : Query α) (ctx : Context) : query.Ends ctx (fun _ => True) fun _ => True := by
  intro memo
  split <;> trivial

theorem mono (ends : query.Ends ctx value fault) (values : ∀ found, value found → value' found)
    (faults : ∀ cause, fault cause → fault' cause) : query.Ends ctx value' fault' := by
  intro memo
  have run := ends memo
  cases outcome : (query.run' ctx memo).1 with
  | ok found =>
    rw [outcome] at run
    exact values found run
  | error cause =>
    rw [outcome] at run
    exact faults cause run

theorem pure {found : α} (meets : value found) : (pure found : Query α).Ends ctx value fault :=
  fun _ => meets

theorem throw {cause : Fault} (meets : fault cause) : (throw cause : Query α).Ends ctx value fault :=
  fun _ => meets

theorem bind {next : α → Query β} {value' : β → Prop} (first : query.Ends ctx value fault)
    (rest : ∀ found, value found → (next found).Ends ctx value' fault) :
    (query >>= next).Ends ctx value' fault := by
  intro memo
  have run := first memo
  rw [run'_bind]
  cases outcome : query.run' ctx memo with
  | mk end_ after =>
    rw [outcome] at run
    cases end_ with
    | ok found => exact rest found run after
    | error cause => exact run

/-- What follows a look at the context. -/
theorem read {next : Context → Query β} {value' : β → Prop}
    (rest : (next ctx).Ends ctx value' fault) : (MonadReader.read >>= next).Ends ctx value' fault :=
  rest

theorem ofExcept {f : Context → Except Fault α} (given : ∀ found, f ctx = .ok found → value found)
    (failed : ∀ cause, f ctx = .error cause → fault cause) :
    (Query.ofExcept f).Ends ctx value fault := by
  intro memo
  cases outcome : f ctx with
  | ok found =>
    rw [run'_ofExcept_ok outcome]
    exact given found outcome
  | error cause =>
    have run : (Query.ofExcept f).run' ctx memo = (.error cause, memo) := by
      rw [Query.ofExcept, run'_read_bind, outcome]
      rfl
    rw [run]
    exact failed cause outcome

theorem ask {call : OracleCall} {answer : List OracleCall → Except Fault α}
    (given : ∀ earlier found, answer earlier = .ok found → value found)
    (failed : ∀ earlier cause, answer earlier = .error cause → fault cause) :
    (Query.ask call answer).Ends ctx value fault := by
  intro memo
  rw [run'_ask]
  show match answer memo.calls with
    | .ok found => value found
    | .error cause => fault cause
  cases outcome : answer memo.calls with
  | ok found => exact given _ found outcome
  | error cause => exact failed _ cause outcome

/-- An answer that does not depend on the calls before it. -/
theorem ask_of_ok {call : OracleCall} {answer : List OracleCall → Except Fault α} {found : α}
    (given : ∀ earlier, answer earlier = .ok found) :
    (Query.ask call answer).Ends ctx (· = found) fun _ => False := by
  refine .ask (fun earlier other answered => ?_) fun earlier cause failed => ?_
  · exact Except.ok.inj (answered.symm.trans (given earlier))
  · exact absurd (failed.symm.trans (given earlier)) (by simp)

end Ends

/-- What follows a function of the context that gives a value. -/
theorem Ends.ofExcept_bind {f : Context → Except Fault α} {found : α} {next : α → Query β}
    {value : β → Prop} {fault : Fault → Prop} (given : f ctx = .ok found)
    (rest : (next found).Ends ctx value fault) : (Query.ofExcept f >>= next).Ends ctx value fault := by
  intro memo
  rw [run'_bind_of_ok (run'_ofExcept_ok given memo)]
  exact rest memo

/-- A run of a query that ends in a certain way. -/
theorem Ends.of_run' {query : Query α} {value : α → Prop} {fault : Fault → Prop} {memo after : Memo}
    {found : α} (ends : query.Ends ctx value fault)
    (run : query.run' ctx memo = (.ok found, after)) : value found := by
  have := ends memo
  rwa [run] at this

namespace IsQuiet

theorem ends {query : Query α} {value : α → Prop} {fault : Fault → Prop} (quiet : query.IsQuiet ctx)
    (meets : ∀ found, value found) : query.Ends ctx value fault :=
  quiet.mono (fun found _ => meets found) fun _ => False.elim

theorem pure (found : α) : (pure found : Query α).IsQuiet ctx :=
  Ends.pure trivial

theorem bind {query : Query α} {next : α → Query β} (first : query.IsQuiet ctx)
    (rest : ∀ found, (next found).IsQuiet ctx) : (query >>= next).IsQuiet ctx :=
  Ends.bind first fun found _ => rest found

theorem read {next : Context → Query β} (rest : (next ctx).IsQuiet ctx) :
    (MonadReader.read >>= next).IsQuiet ctx :=
  rest

theorem ofExcept {f : Context → Except Fault α} {found : α} (given : f ctx = .ok found) :
    (Query.ofExcept f).IsQuiet ctx :=
  Ends.ofExcept (fun _ _ => trivial) fun cause failed => by simp [given] at failed

theorem ask {call : OracleCall} {answer : List OracleCall → Except Fault α}
    (given : ∀ earlier, ∃ found, answer earlier = .ok found) : (Query.ask call answer).IsQuiet ctx := by
  refine Ends.ask (fun _ _ _ => trivial) fun earlier cause failed => ?_
  obtain ⟨found, answered⟩ := given earlier
  simp [answered] at failed

end IsQuiet

/-- A host that knows nothing says that no opening waits for its closing. -/
theorem unmatchedOpening_ends_of_silent (silent : ctx.oracle = .silent) (delimiters : Delimiters) :
    (unmatchedOpening delimiters).Ends ctx (· = none) fun _ => False :=
  .read (.ask_of_ok fun _ => by rw [silent]; rfl)

/-- And that no closing waits for its opening. -/
theorem unmatchedClosing_ends_of_silent (silent : ctx.oracle = .silent) (delimiters : Delimiters) :
    (unmatchedClosing delimiters).Ends ctx (· = none) fun _ => False :=
  .read (.ask_of_ok fun _ => by rw [silent]; rfl)

/-- A query that never fails gives a value in every run. -/
theorem IsQuiet.exists_run' {query : Query α} (quiet : query.IsQuiet ctx) (memo : Memo) :
    ∃ found after, query.run' ctx memo = (.ok found, after) := by
  have run := quiet memo
  cases outcome : query.run' ctx memo with
  | mk end_ after =>
    rw [outcome] at run
    cases end_ with
    | ok found => exact ⟨found, after, rfl⟩
    | error cause => exact run.elim

/-! ### Two contexts -/

/-- A query comes to the same in two contexts, whatever is known about them. -/
def Coincides (query : Query α) (ctx other : Context) : Prop :=
  ∀ memo known, (query.run' ctx memo).1 = (query.run' other known).1

namespace Coincides

variable {other : Context} {query : Query α}

theorem pure (value : α) : (pure value : Query α).Coincides ctx other :=
  fun _ _ => rfl

/-- What follows a query has to come to the same only for the values that the query can give. -/
theorem bind_of_ends {next : α → Query β} {value : α → Prop} {fault : Fault → Prop}
    (first : query.Coincides ctx other) (ends : query.Ends ctx value fault)
    (rest : ∀ found, value found → (next found).Coincides ctx other) :
    (query >>= next).Coincides ctx other := by
  intro memo known
  have same := first memo known
  have run := ends memo
  rw [run'_bind, run'_bind]
  cases here : query.run' ctx memo with
  | mk outcome after =>
  cases there : query.run' other known with
  | mk outcome' last =>
    rw [here, there] at same
    rw [here] at run
    obtain rfl : outcome = outcome' := same
    cases outcome with
    | ok found => exact rest found run after last
    | error cause => rfl

theorem bind {next : α → Query β} (first : query.Coincides ctx other)
    (rest : ∀ found, (next found).Coincides ctx other) : (query >>= next).Coincides ctx other :=
  first.bind_of_ends (.any query ctx) fun found _ => rest found

/-- What follows a look at two contexts in which the same can be seen. -/
theorem read {next : Context → Query β} (seen : next ctx = next other)
    (rest : (next ctx).Coincides ctx other) : (MonadReader.read >>= next).Coincides ctx other := by
  intro memo known
  rw [run'_read_bind, run'_read_bind, ← seen]
  exact rest memo known

theorem ofExcept {f : Context → Except Fault α} (seen : f ctx = f other) :
    (Query.ofExcept f).Coincides ctx other := by
  refine read (by simp only [seen]) fun memo known => ?_
  cases f ctx <;> rfl

theorem ite {condition : Prop} [Decidable condition] {first second : Query α}
    (ifSo : first.Coincides ctx other) (ifNot : second.Coincides ctx other) :
    (if condition then first else second).Coincides ctx other := by
  split
  · exact ifSo
  · exact ifNot

/-- A query that ends in one value in both contexts. -/
theorem of_ends {found : α} (here : query.Ends ctx (· = found) fun _ => False)
    (there : query.Ends other (· = found) fun _ => False) : query.Coincides ctx other := by
  have outcome {place : Context} (ends : query.Ends place (· = found) fun _ => False) (memo : Memo) :
      (query.run' place memo).1 = .ok found := by
    have run := ends memo
    cases given : (query.run' place memo).1 with
    | ok value =>
      rw [given] at run
      rw [run]
    | error cause =>
      rw [given] at run
      exact run.elim
  intro memo known
  rw [outcome here, outcome there]

end Coincides

end Pairing.Query
