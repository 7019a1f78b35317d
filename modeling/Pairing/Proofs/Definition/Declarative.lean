/-
**Definitions without functions.**

A definition may be read from configuration data, or hold functions of a host in the place of conditions.
Where it holds none, its rule looks at the context and asks the host, and does nothing else:

* `Data.IsDeclarative`: a definition that holds no functions in the place of conditions, such as one that was read
  (`Entry.isDeclarative_toData`);
* `Rule.IsSteady`: the conditions of a rule end in one way each;
* `Rule.exists_applies_of_ofEntry`: what a rule applies by, with the condition of its own looked at last;
* `Rule.isSteady_of_ofEntry`: the rule of a definition without functions is steady;
* `Rule.keeps_applies_of_ofEntry`: even where a function says where it applies, a rule learns what the host
  answers, if the function does.
-/

import Pairing.Proofs.Condition.Orderly
import Pairing.Proofs.Definition.Checked

namespace Pairing

/-- A definition that holds no functions in the place of conditions. -/
structure Data.IsDeclarative (entry : Data HostFunction) : Prop where
  condition : ∀ body, entry.field "when" ≠ .function body
  flags : ∀ (action : Action) body, entry.field action.name ≠ .function body

/-- The conditions of a rule end in one way each. -/
structure Rule.IsSteady (rule : Rule) (ctx : Context) (answers : Answers) : Prop where
  applies : rule.applies.IsSteady ctx answers
  allows : ∀ action, (rule.allows action).IsSteady ctx answers

theorem ConditionSource.toData_ne_function (source : ConditionSource) (body : HostFunction) :
    source.toData ≠ .function body := by
  intro isFunction
  obtain ⟨items, list⟩ | ⟨fields, record⟩ := source.toData_cases (φ := HostFunction)
  · cases list.symm.trans isFunction
  · cases record.symm.trans isFunction

theorem Flag.toData_ne_function (flag : Flag) (body : HostFunction) : flag.toData ≠ .function body := by
  cases flag with
  | fixed allowed => exact fun isFunction => (by cases isFunction)
  | given source => exact source.toData_ne_function body

/-- What was read from configuration data holds no functions. -/
theorem Entry.isDeclarative_toData (entry : Entry) : Data.IsDeclarative entry.toData := by
  cases entry with
  | closing t => exact ⟨fun _ isFunction => (by cases isFunction), fun _ _ isFunction => (by cases isFunction)⟩
  | full definition =>
    obtain ⟨_, _, _, _, _, condition, flags⟩ := definition.fields_toData (φ := HostFunction)
    refine ⟨fun body => ?_, fun action body => ?_⟩
    · rw [toData, condition]
      cases definition.condition with
      | none => exact fun isFunction => (by cases isFunction)
      | some source => exact source.toData_ne_function body
    · rw [toData, flags action]
      cases definition.flags action with
      | none => exact fun isFunction => (by cases isFunction)
      | some flag => exact flag.toData_ne_function body

/-- Nothing about a bare closing is a function. -/
theorem Definitions.isDeclarative_ofClosings {closings : List (Text × Text)} {key : Text}
    {entry : Data HostFunction} (member : (key, entry) ∈ (Definitions.ofClosings closings).entries) :
    entry.IsDeclarative := by
  rw [RuleIndex.entries_ofClosings] at member
  obtain ⟨⟨_, closing⟩, -, same⟩ := List.mem_map.mp member
  obtain ⟨-, rfl⟩ := Prod.mk.inj same
  exact Entry.isDeclarative_toData (.closing closing)

variable {ctx : Context} {answers : Answers} {key : Text} {entry : Data HostFunction} {order : Nat}
  {rule : Rule}

namespace UncheckedRule

/-- A condition of its own is looked at after everything else that a rule applies by. -/
theorem applicability_some (offCommandLine : Bool) (inLanguages : Option Predicate) (condition : Predicate) :
    applicability offCommandLine inLanguages (some condition) =
      (do if ← applicability offCommandLine inLanguages none then condition else return false) := by
  unfold applicability
  rw [bind_assoc]
  refine bind_congr fun ctx => ?_
  split
  · rfl
  cases inLanguages with
  | none => rfl
  | some predicate =>
    rw [bind_assoc]
    refine bind_congr fun holds => ?_
    cases holds <;> rfl

theorem applicability_none_isSteady (offCommandLine : Bool) {inLanguages : Option Predicate}
    (ofLanguages : ∀ predicate, inLanguages = some predicate → predicate.IsSteady ctx answers) :
    (applicability offCommandLine inLanguages none).IsSteady ctx answers := by
  refine .read (.ite (.pure false) ?_)
  cases inLanguages with
  | none => exact .pure true
  | some predicate =>
    exact (ofLanguages predicate rfl).bind fun holds => .ite (.pure false) (.pure true)

end UncheckedRule

/-- All that a rule applies by ends in one way, but for the condition of its own, which is looked at
last. -/
theorem Rule.exists_applies_of_ofEntry (gives : ctx.oracle.Gives answers)
    (given : Rule.ofEntry key entry order = .ok rule) :
    ∃ usual : Predicate, usual.IsSteady ctx answers ∧
      (rule.applies = usual ∨ ∃ condition, Predicate.ofSource (entry.field "when") = .ok condition ∧
        rule.applies = do if ← usual then condition else return false) := by
  obtain ⟨unchecked, made, ready⟩ := exists_rule?_of_ofEntry given
  rw [(UncheckedRule.guards_of_rule? ready).1]
  obtain ⟨closing, -, rfl⟩ | ⟨-, guarded⟩ := UncheckedRule.all_cases_of_ofEntry made
  · exact ⟨_, .pure true, Or.inl rfl⟩
  · obtain ⟨offCommandLine, inLanguages, condition, isApplicability, ofLanguages, ofWhen⟩ :=
      guarded.applies_eq
    refine ⟨_, UncheckedRule.applicability_none_isSteady offCommandLine fun predicate named =>
      ofLanguages predicate named ▸ (Predicate.ofLanguageOperand_isOrderly _).isSteady gives, ?_⟩
    rw [isApplicability]
    cases condition with
    | none => exact Or.inl rfl
    | some predicate =>
      exact Or.inr ⟨predicate, ofWhen predicate rfl, UncheckedRule.applicability_some _ _ _⟩

theorem Rule.allows_isSteady_of_ofEntry (gives : ctx.oracle.Gives answers) (declarative : entry.IsDeclarative)
    (given : Rule.ofEntry key entry order = .ok rule) (action : Action) :
    (rule.allows action).IsSteady ctx answers := by
  obtain ⟨unchecked, made, ready⟩ := exists_rule?_of_ofEntry given
  rw [(UncheckedRule.guards_of_rule? ready).2]
  obtain ⟨closing, -, rfl⟩ | ⟨-, guarded⟩ := UncheckedRule.all_cases_of_ofEntry made
  · exact .pure true
  · exact (Predicate.ofFlag_isOrderly (declarative.flags action) (guarded.allows_eq action)).isSteady gives

/-- The rule of a definition without functions ends in one way wherever it is looked at. -/
theorem Rule.isSteady_of_ofEntry (gives : ctx.oracle.Gives answers) (declarative : entry.IsDeclarative)
    (given : Rule.ofEntry key entry order = .ok rule) : rule.IsSteady ctx answers := by
  refine ⟨?_, allows_isSteady_of_ofEntry gives declarative given⟩
  obtain ⟨usual, steady, same | ⟨condition, compiled, same⟩⟩ := exists_applies_of_ofEntry gives given
  · rwa [same]
  · rw [same]
    have steadyCondition := (Predicate.ofSource_isOrderly declarative.condition compiled).isSteady gives
    exact steady.bind fun _ => .ite steadyCondition (.pure false)

/-- Looking at where a rule applies, one learns what the host answers, if one does so from a function that
says it. -/
theorem Rule.keeps_applies_of_ofEntry (gives : ctx.oracle.Gives answers)
    (honest : ∀ body, entry.field "when" = .function body → body.answer.Keeps ctx answers)
    (given : Rule.ofEntry key entry order = .ok rule) : rule.applies.Keeps ctx answers := by
  obtain ⟨usual, steady, same | ⟨condition, compiled, same⟩⟩ := exists_applies_of_ofEntry gives given
  · rw [same]
    exact steady.keeps
  · have keeps : condition.Keeps ctx answers := by
      by_cases isFunction : ∃ body, entry.field "when" = .function body
      · obtain ⟨body, isBody⟩ := isFunction
        rw [isBody] at compiled
        obtain rfl := Except.ok.inj compiled
        exact (honest body isBody).bind fun _ => (Query.IsSteady.pure _).keeps
      · exact ((Predicate.ofSource_isOrderly (not_exists.mp isFunction) compiled).isSteady gives).keeps
    rw [same]
    refine steady.keeps.bind fun holds => ?_
    split
    · exact keeps
    · exact (Query.IsSteady.pure false).keeps

end Pairing
