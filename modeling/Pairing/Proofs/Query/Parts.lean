/-
**Parts of a run.**

A query is put together from others, and a run of it comes to some of them: to a condition of a rule, or to
a question that is put to the host. Nothing that a query is put together from is ever tried in vain:

* `Query.failure?`: what a run fails with, if it does;
* `Query.Reaches`: a run comes to a part, which starts with what was learned until then;
* `Query.Reaches.failure?_eq`: a part that fails is the last one, and the whole run fails with the same;
* `allActive_reaches`: the conditions of rules that a run comes to.
-/

import Pairing.Proofs.Query.Ends
import Pairing.RuleIndex

namespace Pairing

namespace Query

variable {α β : Type} {ctx : Context}

/-- What a run fails with, if it does. -/
def failure? (query : Query α) (ctx : Context) (memo : Memo) : Option Fault :=
  match (query.run' ctx memo).1 with
  | .ok _ => none
  | .error fault => some fault

theorem failure?_eq_some_iff {query : Query α} {memo : Memo} {fault : Fault} :
    query.failure? ctx memo = some fault ↔ ∃ after, query.run' ctx memo = (.error fault, after) := by
  unfold failure?
  cases query.run' ctx memo with
  | mk outcome after => cases outcome <;> simp

/-- A run of a query comes to a part of it. The part starts with what is known at that point. -/
inductive Reaches (ctx : Context) (part : Query β) (start : Memo) : {α : Type} → Query α → Memo → Prop
  | itself : Reaches ctx part start part start
  | first {α γ : Type} {query : Query α} {next : α → Query γ} {memo : Memo}
      (inFirst : Reaches ctx part start query memo) : Reaches ctx part start (query >>= next) memo
  | later {α γ : Type} {query : Query α} {next : α → Query γ} {memo between : Memo} {value : α}
      (given : query.run' ctx memo = (.ok value, between))
      (inNext : Reaches ctx part start (next value) between) :
      Reaches ctx part start (query >>= next) memo

namespace Reaches

variable {part : Query β} {query : Query α} {start memo : Memo}

/-- A part that fails is the last one of the run. -/
theorem run'_eq_error {after : Memo} {fault : Fault} (reached : Reaches ctx part start query memo)
    (fails : part.run' ctx start = (.error fault, after)) :
    query.run' ctx memo = (.error fault, after) := by
  induction reached with
  | itself => exact fails
  | first _ ih => rw [run'_bind, ih]
  | later given _ ih => rw [run'_bind_of_ok given, ih]

theorem failure?_eq {fault : Fault} (reached : Reaches ctx part start query memo)
    (fails : part.failure? ctx start = some fault) : query.failure? ctx memo = some fault := by
  obtain ⟨after, run⟩ := failure?_eq_some_iff.mp fails
  exact failure?_eq_some_iff.mpr ⟨after, reached.run'_eq_error run⟩

end Reaches

end Query

open Query

/-- Looking for active rules, a run comes to the condition of a rule once it is through with the rules
before it. -/
theorem allActive_reaches {ctx : Context} (earlier : List Rule) (rule : Rule) (later : List Rule)
    (action : Option Action) {active : List Rule} {memo between : Memo}
    (through : (Rule.allActive earlier action).run' ctx memo = (.ok active, between)) :
    Reaches ctx rule.applies between (Rule.allActive (earlier ++ rule :: later) action) memo := by
  induction earlier generalizing memo active with
  | nil =>
    obtain ⟨-, rfl⟩ := Prod.mk.inj through
    exact .first (.first .itself)
  | cons other rest ih =>
    unfold Rule.allActive at through
    obtain ⟨isActive, afterOther, given, throughRest⟩ := exists_of_run'_bind through
    refine .later given ?_
    cases isActive with
    | false => exact ih throughRest
    | true =>
      obtain ⟨_, _, inRest, ended⟩ := exists_of_run'_bind throughRest
      obtain ⟨-, rfl⟩ := Prod.mk.inj ended
      exact .first (ih inRest)

end Pairing
