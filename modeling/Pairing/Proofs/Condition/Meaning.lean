/-
**What conditions mean.**

A condition says something about the text next to the cursor and about what the host answers. Its predicate
stops at the first part that decides, keeps what it was answered, and may fail with the host; still it is
true exactly where the condition says so:

* `ScopePlace.Shows`: the scope that is looked for at a place;
* `Condition.Holds`: what a condition says, and `Condition.AllHold`, `Condition.SomeHold` for several of them;
* `Condition.predicate_decides`: the predicate tells it, by induction over conditions;
* `Condition.predicate_not_all`: the negation of several conditions is one of their negations, in every
  run and with every failure;
* `Predicate.ofSource_means`: both, of what the data of conditions compiles to.
-/

import Pairing.Proofs.Condition.Compiled
import Pairing.Proofs.Query.Answers

namespace Pairing

/-! ### What conditions say -/

/-- A scope is at a place that is looked at. -/
def ScopePlace.Shows (ctx : Context) (answers : Answers) (scope : Text) : ScopePlace → Prop
  | .inside => answers.scope ctx.cursor = some scope
  | .after => ∃ column, ctx.LastContent column ∧ answers.scope (ctx.place column) = some scope
  | .insideOrAfter => answers.scope ctx.cursor = some scope ∨
      ∃ column, ctx.LastContent column ∧ answers.scope (ctx.place column) = some scope

namespace Condition

mutual

/-- What a condition says about a context and the answers of the host. -/
def Holds (ctx : Context) (answers : Answers) : Condition → Prop
  | .textBefore t => t <:+ ctx.before
  | .textAfter t => t <+: ctx.after
  | .inSpan kind => answers.spanKind ctx.cursor = some kind
  | .scopeAmong scopes place => ∃ scope ∈ scopes, (place.getD .inside).Shows ctx answers scope
  | .scopeNotAmong scopes place => ¬∃ scope ∈ scopes, (place.getD .inside).Shows ctx answers scope
  | .charUnderCursor isWord =>
    isWord = true ↔ ∃ unit, ctx.before.getLast? = some unit ∧ Text.isWord [unit] = true
  | .all conditions => AllHold ctx answers conditions
  | .any conditions => SomeHold ctx answers conditions
  | .not condition => ¬Holds ctx answers condition

/-- All of some conditions hold. -/
def AllHold (ctx : Context) (answers : Answers) : List Condition → Prop
  | [] => True
  | condition :: rest => Holds ctx answers condition ∧ AllHold ctx answers rest

/-- Some of several conditions hold. -/
def SomeHold (ctx : Context) (answers : Answers) : List Condition → Prop
  | [] => False
  | condition :: rest => Holds ctx answers condition ∨ SomeHold ctx answers rest

end

theorem allHold_iff {ctx : Context} {answers : Answers} {conditions : List Condition} :
    AllHold ctx answers conditions ↔ ∀ condition ∈ conditions, Holds ctx answers condition := by
  induction conditions with
  | nil => exact iff_of_true trivial (List.forall_mem_nil _)
  | cons condition rest ih => rw [AllHold, ih, List.forall_mem_cons]

end Condition

/-- What one condition says, or several that all have to hold. -/
def ConditionSource.Holds (ctx : Context) (answers : Answers) : ConditionSource → Prop
  | .one condition => condition.Holds ctx answers
  | .each conditions => ∀ condition ∈ conditions, condition.Holds ctx answers

/-! ### Predicates -/

/-- A predicate tells whether something holds. -/
def Predicate.Decides (predicate : Predicate) (ctx : Context) (meaning : Answers → Prop) : Prop :=
  predicate.Tells ctx fun holds answers => holds = true ↔ meaning answers

namespace Predicate.Decides

variable {ctx : Context} {predicate other : Predicate} {meaning meaning' : Answers → Prop}

theorem ofContext {f : Context → Bool} (same : ∀ answers, f ctx = true ↔ meaning answers) :
    Predicate.Decides (Query.ofContext f) ctx meaning :=
  (Query.Tells.ofContext f).mono fun _ answers told => told ▸ same answers

theorem congr (decides : predicate.Decides ctx meaning)
    (same : ∀ answers, meaning answers ↔ meaning' answers) :
    predicate.Decides ctx meaning' :=
  decides.mono fun _ answers told => told.trans (same answers)

theorem negation (decides : predicate.Decides ctx meaning) :
    Predicate.Decides (do return !(← predicate)) ctx fun answers => ¬meaning answers := by
  refine Query.Tells.bind (fun holds value _ => value = !holds) decides (fun holds => .pure fun _ => rfl)
    fun holds value answers told negated => ?_
  show value = true ↔ ¬meaning answers
  rw [negated, ← told, Bool.not_eq_true', Bool.not_eq_true]

/-- The second predicate is looked at only where the first one holds. -/
theorem and (first : predicate.Decides ctx meaning) (second : other.Decides ctx meaning') :
    Predicate.Decides (do if ← predicate then other else return false) ctx
      fun answers => meaning answers ∧ meaning' answers := by
  refine Query.Tells.bind (fun holds value answers => if holds then (value = true ↔ meaning' answers)
    else value = false) first (fun holds => ?_) fun holds value answers told rest => ?_
  · cases holds with
    | true => exact second
    | false => exact .pure fun _ => rfl
  · cases holds with
    | true => exact Iff.trans rest (and_iff_right (told.mp rfl)).symm
    | false =>
      obtain rfl : value = false := rest
      exact iff_of_false Bool.false_ne_true fun both => Bool.false_ne_true (told.mpr both.1)

/-- The second predicate is looked at only where the first one does not hold. -/
theorem or (first : predicate.Decides ctx meaning) (second : other.Decides ctx meaning') :
    Predicate.Decides (do if ← predicate then return true else other) ctx
      fun answers => meaning answers ∨ meaning' answers := by
  refine Query.Tells.bind (fun holds value answers => if holds then value = true
    else (value = true ↔ meaning' answers)) first (fun holds => ?_) fun holds value answers told rest => ?_
  · cases holds with
    | true => exact .pure fun _ => rfl
    | false => exact second
  · cases holds with
    | true =>
      obtain rfl : value = true := rest
      exact iff_of_true rfl (Or.inl (told.mp rfl))
    | false =>
      have fails : ¬meaning answers := fun holds => Bool.false_ne_true (told.mpr holds)
      exact Iff.trans rest (or_iff_right fails).symm

end Predicate.Decides

namespace Condition

variable {ctx : Context}

/-! ### Scopes -/

/-- Of a scope that is found, it is told whether it is one of some scopes. -/
theorem scopeBelongs_decides {query : Query (Option Text)} {scope : Answers → Option Text}
    (tells : query.Tells ctx fun found answers => found = scope answers) (scopes : List Text) :
    Predicate.Decides (query >>= Query.scopeBelongs fun name => .ok (scopes.contains name)) ctx
      fun answers => ∃ name ∈ scopes, scope answers = some name := by
  refine Query.Tells.bind (fun found value _ => value = true ↔ ∃ name ∈ scopes, found = some name) tells
    (fun found => ?_) fun found value answers told rest => ?_
  · cases found with
    | none => exact .pure fun _ => by simp
    | some name => exact .pure fun _ => by simp
  · subst told
    exact rest

theorem scopeAmong_decides (answered : ctx.oracle.AnswersSyntax) (scopes : List Text) (place : ScopePlace) :
    (Query.scopeAmong scopes place).Decides ctx fun answers =>
      ∃ scope ∈ scopes, place.Shows ctx answers scope := by
  have here := scopeBelongs_decides (Query.scopeHere_tells answered) scopes
  have before : Predicate.Decides
      (Query.scopeBefore >>= Query.scopeBelongs fun name => .ok (scopes.contains name)) ctx fun answers =>
        ∃ scope ∈ scopes, ScopePlace.after.Shows ctx answers scope := by
    refine (scopeBelongs_decides (Query.scopeBefore_tells answered) scopes).congr fun answers => ?_
    exact exists_congr fun scope => and_congr_right fun _ => Answers.scopeBefore_eq_some_iff
  cases place with
  | inside => exact here
  | after => exact before
  | insideOrAfter =>
    refine (here.or before).congr fun answers => ?_
    rw [← exists_or]
    exact exists_congr fun scope => and_or_left.symm

/-! ### Conditions -/

theorem isWord_charUnderCursor (ctx : Context) :
    ctx.charUnderCursor.isWord = true ↔
      ∃ unit, ctx.before.getLast? = some unit ∧ Text.isWord [unit] = true := by
  unfold Context.charUnderCursor
  cases ctx.before.getLast? with
  | none => exact iff_of_false Bool.false_ne_true (by simp)
  | some unit => simp

mutual

/-- The predicate of a condition tells whether the condition holds. -/
theorem predicate_decides (answered : ctx.oracle.AnswersSyntax) : ∀ condition : Condition,
    condition.predicate.Decides ctx fun answers => condition.Holds ctx answers
  | .textBefore t => .ofContext fun _ => by
      rw [Holds, Context.endsBefore, List.isSuffixOf_iff_suffix]
  | .textAfter t => .ofContext fun _ => by
      rw [Holds, Context.startsAfter, List.isPrefixOf_iff_prefix]
  | .inSpan kind => by
    refine Query.Tells.bind (fun found value _ => value = (found == some kind))
      (Query.spanKind_tells answered) (fun found => .pure fun _ => rfl)
      fun found value answers told rest => ?_
    show value = true ↔ answers.spanKind ctx.cursor = some kind
    rw [rest, told, beq_iff_eq]
  | .scopeAmong scopes place => scopeAmong_decides answered scopes (place.getD .inside)
  | .scopeNotAmong scopes place => (scopeAmong_decides answered scopes (place.getD .inside)).negation
  | .charUnderCursor isWord => .ofContext fun _ => by
      rw [Holds, ← isWord_charUnderCursor, beq_iff_eq, Bool.eq_iff_iff]
      exact iff_comm
  | .all conditions => allHold_decides answered conditions
  | .any conditions => someHolds_decides answered conditions
  | .not condition => (predicate_decides answered condition).negation

theorem allHold_decides (answered : ctx.oracle.AnswersSyntax) : ∀ conditions : List Condition,
    (allHold conditions).Decides ctx fun answers => AllHold ctx answers conditions
  | [] => .pure fun _ => iff_of_true rfl trivial
  | condition :: rest => (predicate_decides answered condition).and (allHold_decides answered rest)

theorem someHolds_decides (answered : ctx.oracle.AnswersSyntax) : ∀ conditions : List Condition,
    (someHolds conditions).Decides ctx fun answers => SomeHold ctx answers conditions
  | [] => .pure fun _ => iff_of_false Bool.false_ne_true id
  | condition :: rest => (predicate_decides answered condition).or (someHolds_decides answered rest)

end

/-- That not all of some conditions hold is that the negation of some of them holds. Both stop at the same
condition, and ask the same. -/
theorem not_allHold (conditions : List Condition) :
    (do return !(← allHold conditions)) = someHolds (conditions.map Condition.not) := by
  induction conditions with
  | nil => rfl
  | cons condition rest ih =>
    rw [List.map_cons, someHolds, allHold, ← ih, predicate, bind_assoc, bind_assoc]
    refine bind_congr fun holds => ?_
    cases holds <;> rfl

theorem predicate_not_all (conditions : List Condition) :
    (Condition.not (.all conditions)).predicate = (Condition.any (conditions.map .not)).predicate := by
  rw [predicate, predicate, predicate, not_allHold]

end Condition

theorem ConditionSource.predicate_decides {ctx : Context} (answered : ctx.oracle.AnswersSyntax)
    (source : ConditionSource) :
    source.predicate.Decides ctx fun answers => source.Holds ctx answers := by
  cases source with
  | one condition => exact Condition.predicate_decides answered condition
  | each conditions =>
    exact (Condition.allHold_decides answered conditions).congr fun _ => Condition.allHold_iff

/-- **What conditions mean.** The data of a condition, or of several, compiles to a predicate that is true
exactly where they hold, by whatever answers agree with what became known in the run, and so by those of a
host that always answers the same. The negation of several conditions compiles to a predicate with the same
runs as the one of their negations, whatever was known before and whatever fails. -/
theorem Predicate.ofSource_means :
    (∀ source : ConditionSource, ∃ predicate, Predicate.ofSource source.toData = .ok predicate ∧
      ∀ (ctx : Context) (memo : Memo), ctx.oracle.AnswersSyntax → memo.IsSound ctx →
        ∃ holds after, predicate.run' ctx memo = (.ok holds, after) ∧ memo.Grows ctx after ∧
          (∃ answers : Answers, answers.Fit ctx after) ∧
          (∀ answers : Answers, answers.Fit ctx after → (holds = true ↔ source.Holds ctx answers)) ∧
          ∀ answers, ctx.oracle.Gives answers → answers.Fit ctx memo →
            (holds = true ↔ source.Holds ctx answers)) ∧
      ∀ conditions : List Condition, ∃ negated either,
        Predicate.ofSource (Condition.not (.all conditions)).toData = .ok negated ∧
        Predicate.ofSource (Condition.any (conditions.map .not)).toData = .ok either ∧
        ∀ ctx memo, negated.run' ctx memo = either.run' ctx memo := by
  constructor
  · intro source
    refine ⟨source.predicate, ofSource_toData source, fun ctx memo answered sound => ?_⟩
    obtain ⟨holds, after, run, grows, means⟩ := source.predicate_decides answered memo sound
    refine ⟨holds, after, run, grows, ⟨_, (grows.isSound sound).fit_ofMemo⟩, means, ?_⟩
    exact fun answers gives fit => means answers (grows.fit_after gives fit)
  · intro conditions
    refine ⟨_, _, ofSource_toData (.one (.not (.all conditions))),
      ofSource_toData (.one (.any (conditions.map .not))), fun ctx memo => ?_⟩
    rw [ConditionSource.predicate, ConditionSource.predicate, Condition.predicate_not_all]

/-- Between two letters, a host that knows nothing sees the cursor outside of strings and after a word. -/
theorem Predicate.ofSource_means_silent :
    let ctx : Context := ⟨"a", "b", 0, "text", .insert, defaultIndentUnit, .silent⟩
    let source : ConditionSource := .each [.charUnderCursor true, .not (.inSpan "string")]
    ∃ predicate after, Predicate.ofSource source.toData = .ok predicate ∧
      predicate.run' ctx {} = (.ok true, after) := by
  intro ctx source
  obtain ⟨predicate, compiled, means⟩ := Predicate.ofSource_means.1 source
  have sound : Memo.IsSound {} ctx := fun _ _ known => by cases known
  obtain ⟨holds, after, run, -, -, -, means⟩ :=
    means ctx {} Oracle.silent_gives.answersSyntax sound
  have isWord : (Condition.charUnderCursor true).Holds ctx .silent :=
    iff_of_true rfl ⟨0x61, rfl, by decide +kernel⟩
  have noString : (Condition.not (.inSpan "string")).Holds ctx .silent := by
    intro inString
    cases inString
  obtain rfl : holds = true :=
    (means .silent Oracle.silent_gives (Answers.fit_empty _ _)).mpr
      (List.forall_mem_cons.mpr ⟨isWord, List.forall_mem_singleton.mpr noString⟩)
  exact ⟨predicate, after, compiled, run⟩

end Pairing
