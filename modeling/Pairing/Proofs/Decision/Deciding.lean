/-
**The rule that decides.**

A decision looks at rules one after the other until one decides. What comes of the rules before that one,
and that it is reached, does not hang on the rules behind it:

* `Rule.run'_allActive_cons_iff`: looking for active rules, one rule at a time;
* `Rule.exists_split_of_allActive`, `Rule.run'_allActive_append`: active rules, taken apart at one of them
  and put together again;
* `exists_split_of_decideAmong`, `run'_decideAmong_append`: the same of a decision among rules;
* `run'_surrounding_append`: the rule that is found around the cursor;
* `Rule.run'_allActive_renumbered` and its like: the places of the rules decide nothing.
-/

import Pairing.Proofs.Decision.LineEdits
import Pairing.Proofs.Definition.Inserted

namespace Pairing

variable {ctx : Context} {key : Text} {memo between after : Memo} {rules earlier later : List Rule}
  {rule : Rule} {place : Nat → Nat}

/-! ### Active rules -/

namespace Rule

variable {action : Option Action} {active others : List Rule}

/-- Looking for active rules, a run looks at the first rule and then at the others. -/
theorem run'_allActive_cons_iff :
    (allActive (rule :: rules) action).run' ctx memo = (.ok active, after) ↔
      ∃ isActive between others, (rule.isActive action).run' ctx memo = (.ok isActive, between) ∧
        (allActive rules action).run' ctx between = (.ok others, after) ∧
        active = if isActive = true then rule :: others else others := by
  constructor
  · intro given
    rw [allActive] at given
    obtain ⟨isActive, between, run, next⟩ := Query.exists_of_run'_bind given
    cases isActive with
    | false => exact ⟨false, between, active, run, next, rfl⟩
    | true =>
      obtain ⟨others, last, behind, ended⟩ := Query.exists_of_run'_bind next
      obtain ⟨rfl, rfl⟩ := Query.of_run'_pure ctx ended
      exact ⟨true, between, others, run, behind, rfl⟩
  · rintro ⟨isActive, between, others, run, behind, rfl⟩
    rw [allActive, Query.run'_bind_of_ok run]
    cases isActive with
    | false => exact behind
    | true => exact Query.run'_bind_of_ok behind

theorem run'_allActive_append (given : (allActive earlier action).run' ctx memo = (.ok active, between))
    (rest : (allActive later action).run' ctx between = (.ok others, after)) :
    (allActive (earlier ++ later) action).run' ctx memo = (.ok (active ++ others), after) := by
  induction earlier generalizing memo active with
  | nil =>
    obtain ⟨rfl, rfl⟩ := Query.of_run'_pure ctx given
    exact rest
  | cons first more ih =>
    obtain ⟨isActive, looked, found, run, inMore, rfl⟩ := run'_allActive_cons_iff.mp given
    refine run'_allActive_cons_iff.mpr ⟨isActive, looked, found ++ others, run, ih inMore, ?_⟩
    cases isActive <;> rfl

theorem run'_allActive_renumbered (given : (allActive rules action).run' ctx memo = (.ok active, after)) :
    (allActive (rules.map (renumbered place)) action).run' ctx memo =
      (.ok (active.map (renumbered place)), after) := by
  induction rules generalizing memo active with
  | nil =>
    obtain ⟨rfl, rfl⟩ := Query.of_run'_pure ctx given
    rfl
  | cons first more ih =>
    obtain ⟨isActive, looked, found, run, inMore, rfl⟩ := run'_allActive_cons_iff.mp given
    refine run'_allActive_cons_iff.mpr ⟨isActive, looked, found.map _, run, ih inMore, ?_⟩
    cases isActive <;> rfl

/-- An active rule was found to be active after the rules before it, and the rules behind it were looked at
then. -/
theorem exists_split_of_allActive {passed rest : List Rule}
    (given : (allActive rules action).run' ctx memo = (.ok (passed ++ rule :: rest), after)) :
    ∃ earlier later between looked, rules = earlier ++ rule :: later ∧
      (allActive earlier action).run' ctx memo = (.ok passed, between) ∧
      (rule.isActive action).run' ctx between = (.ok true, looked) ∧
      (allActive later action).run' ctx looked = (.ok rest, after) := by
  induction rules generalizing memo passed with
  | nil =>
    obtain ⟨same, -⟩ := Query.of_run'_pure ctx given
    exact absurd same.symm (List.append_ne_nil_of_right_ne_nil _ (List.cons_ne_nil _ _))
  | cons first more ih =>
    obtain ⟨isActive, looked, found, run, inMore, same⟩ := run'_allActive_cons_iff.mp given
    -- The rule is the first one, or one of those behind it, of which what is left was found.
    have behind {left : List Rule} (isFound : found = left ++ rule :: rest)
        (isPassed : passed = if isActive = true then first :: left else left) :
        ∃ earlier later between looked, first :: more = earlier ++ rule :: later ∧
          (allActive earlier action).run' ctx memo = (.ok passed, between) ∧
          (rule.isActive action).run' ctx between = (.ok true, looked) ∧
          (allActive later action).run' ctx looked = (.ok rest, after) := by
      rw [isFound] at inMore
      obtain ⟨earlier, later, between, last, rfl, before, isRule, after⟩ := ih inMore
      exact ⟨first :: earlier, later, between, last, rfl,
        run'_allActive_cons_iff.mpr ⟨isActive, looked, left, run, before, isPassed⟩, isRule, after⟩
    cases isActive with
    | false => exact behind same.symm rfl
    | true =>
      cases passed with
      | nil =>
        obtain ⟨rfl, rfl⟩ := List.cons.inj same
        exact ⟨[], more, memo, looked, rfl, rfl, run, inMore⟩
      | cons other left =>
        obtain ⟨rfl, isFound⟩ := List.cons.inj same
        exact behind isFound.symm rfl

end Rule

/-! ### Decisions among rules -/

/-- Rules that leave the decision to the next one have no part in it. -/
theorem run'_decideAmong_append {passed : List Rule}
    (passes : ∀ other ∈ passed, other.turn key ctx = .passes) (rest : List Rule) (memo : Memo) :
    (decideAmong key (passed ++ rest)).run' ctx memo = (decideAmong key rest).run' ctx memo := by
  induction passed with
  | nil => rfl
  | cons first more ih =>
    obtain ⟨firstPasses, othersPass⟩ := List.forall_mem_cons.mp passes
    rw [List.cons_append, run'_decideAmong_cons, firstPasses]
    exact ih othersPass

/-- The rule that decides comes after rules that leave it to the next one, and what it comes to has nothing
to do with the rules behind it. -/
theorem exists_split_of_decideAmong {edit : Edit}
    (given : (decideAmong key rules).run' ctx memo = (.ok ⟨edit, some rule⟩, after)) :
    ∃ passed rest, rules = passed ++ rule :: rest ∧ (∀ other ∈ passed, other.turn key ctx = .passes) ∧
      rule.turn key ctx ≠ .passes ∧ ∀ next, (rule.atTurn key next (rule.turn key ctx)).run' ctx memo =
        (.ok ⟨edit, some rule⟩, after) := by
  induction rules with
  | nil =>
    obtain ⟨same, -⟩ := Query.of_run'_pure ctx given
    cases same
  | cons first more ih =>
    rw [run'_decideAmong_cons] at given
    have decides {query : Query Edit} (notPasses : first.turn key ctx ≠ .passes)
        (byFirst : ∀ next, first.atTurn key next (first.turn key ctx) =
          do return ⟨← query, some first⟩) : ∃ passed rest, first :: more = passed ++ rule :: rest ∧
          (∀ other ∈ passed, other.turn key ctx = .passes) ∧ rule.turn key ctx ≠ .passes ∧
          ∀ next, (rule.atTurn key next (rule.turn key ctx)).run' ctx memo =
            (.ok ⟨edit, some rule⟩, after) := by
      have run := given
      rw [byFirst] at run
      obtain ⟨edit', between, -, ended⟩ := Query.exists_of_run'_bind run
      obtain ⟨-, isFirst⟩ := Outcome.mk.inj (Query.of_run'_pure ctx ended).1
      obtain rfl := Option.some.inj isFirst
      refine ⟨[], more, rfl, List.forall_mem_nil _, notPasses, fun next => ?_⟩
      rw [byFirst next, ← byFirst (decideAmong key more)]
      exact given
    cases turn : first.turn key ctx with
    | either => exact decides (by rw [turn]; simp) fun next => by rw [turn]; rfl
    | opens typed => exact decides (by rw [turn]; simp) fun next => by rw [turn]; rfl
    | closes => exact decides (by rw [turn]; simp) fun next => by rw [turn]; rfl
    | passes =>
      rw [turn] at given
      obtain ⟨passed, rest, rfl, passes, decided⟩ := ih given
      exact ⟨first :: passed, rest, rfl, List.forall_mem_cons.mpr ⟨turn, passes⟩, decided⟩
    | fails =>
      rw [turn] at given
      obtain ⟨same, -⟩ := Prod.mk.inj given
      cases same

/-- A rule that decides comes to the same at another place, whatever is behind it. -/
theorem Rule.run'_atTurn_renumbered {turn : Turn} {edit : Edit} {next : Query Outcome}
    (decides : turn ≠ .passes)
    (given : (rule.atTurn key next turn).run' ctx memo = (.ok ⟨edit, some rule⟩, after))
    (place : Nat → Nat) (behind : Query Outcome) :
    ((rule.renumbered place).atTurn key behind turn).run' ctx memo =
      (.ok ⟨edit, some (rule.renumbered place)⟩, after) := by
  have sameEdit {query : Query Edit} (run : (do return ⟨← query, some rule⟩ : Query Outcome).run' ctx memo =
        (.ok ⟨edit, some rule⟩, after)) :
      (do return ⟨← query, some (rule.renumbered place)⟩ : Query Outcome).run' ctx memo =
        (.ok ⟨edit, some (rule.renumbered place)⟩, after) := by
    obtain ⟨found, between, ran, ended⟩ := Query.exists_of_run'_bind run
    obtain ⟨same, rfl⟩ := Query.of_run'_pure ctx ended
    obtain ⟨rfl, -⟩ := Outcome.mk.inj same
    exact Query.run'_bind_of_ok ran
  cases turn with
  | either => exact sameEdit given
  | opens typed => exact sameEdit given
  | closes => exact sameEdit given
  | passes => exact absurd rfl decides
  | fails =>
    obtain ⟨same, -⟩ := Prod.mk.inj given
    cases same

/-! ### Rules around the cursor -/

section Surrounding

variable {action : Action}

/-- Rules that are not found around the cursor, wherever they stand, have no part in what is. -/
theorem run'_surrounding_append
    (tried : (surrounding (some action) earlier).run' ctx memo = (.ok none, between)) (place : Nat → Nat)
    (rest : List Rule) :
    (surrounding (some action) (earlier.map (Rule.renumbered place) ++ rest)).run' ctx memo =
      (surrounding (some action) rest).run' ctx between := by
  induction earlier generalizing memo with
  | nil =>
    obtain ⟨-, rfl⟩ := Query.of_run'_pure ctx tried
    rfl
  | cons first more ih =>
    unfold surrounding at tried
    obtain ⟨isActive, looked, run, next⟩ := Query.exists_of_run'_bind tried
    replace run : ((first.renumbered place).isActive (some action)).run' ctx memo = (.ok isActive, looked) :=
      run
    rw [List.map_cons, List.cons_append, surrounding, Query.run'_bind_of_ok run]
    cases isActive with
    | false => exact ih next
    | true =>
      have sameStand : ctx.surroundedBy (first.renumbered place) (acceptsPadding (some action)) =
          ctx.surroundedBy first (acceptsPadding (some action)) := rfl
      simp only [if_true, Query.run'_read_bind, sameStand] at next ⊢
      cases stands : ctx.surroundedBy first (acceptsPadding (some action)) with
      | none =>
        rw [stands] at next
        exact ih next
      | some padded =>
        rw [stands] at next
        obtain ⟨same, -⟩ := Query.of_run'_pure ctx next
        cases same

/-- The first rule that is active and stands around the cursor is found, whatever is behind it and wherever
it stands. -/
theorem run'_surrounding_renumbered {padded : Bool}
    (tried : (surrounding (some action) earlier).run' ctx memo = (.ok none, between))
    (active : (rule.isActive (some action)).run' ctx between = (.ok true, after))
    (stands : ctx.surroundedBy rule (acceptsPadding (some action)) = some padded) (place : Nat → Nat)
    (later : List Rule) :
    (surrounding (some action)
        (earlier.map (Rule.renumbered place) ++ rule.renumbered place :: later)).run' ctx memo =
      (.ok (some ⟨rule.renumbered place, padded⟩), after) := by
  replace active : ((rule.renumbered place).isActive (some action)).run' ctx between = (.ok true, after) :=
    active
  replace stands : ctx.surroundedBy (rule.renumbered place) (acceptsPadding (some action)) = some padded :=
    stands
  rw [run'_surrounding_append tried, surrounding, Query.run'_bind_of_ok active]
  simp only [if_true, Query.run'_read_bind, stands]
  rfl

end Surrounding

end Pairing
