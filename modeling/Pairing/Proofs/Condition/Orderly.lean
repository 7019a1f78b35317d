/-
**Conditions that ask through what is kept.**

A condition as data asks the host and looks at the context, and at nothing else. Checked or not, it is an
orderly query; only a function of a host may do as it likes:

* `Predicate.ofTextOperand_isOrderly` and its like: conditions on texts, spans and scopes;
* `Predicate.ofConditionData_isOrderly`: all conditions, by the recursion over their data;
* `Predicate.ofSource_isOrderly`, `Predicate.ofFlag_isOrderly`: what a definition says about a rule and its
  actions, unless it is a function.
-/

import Pairing.Proofs.Definition.Compiled
import Pairing.Proofs.Query.Orderly

namespace Pairing.Predicate

theorem always_isOrderly (value : Bool) : (always value).IsOrderly :=
  .pure value

theorem fails_isOrderly (fault : Fault) : (fails fault).IsOrderly :=
  .throw fault

theorem negation_isOrderly {predicate : Predicate} (orderly : predicate.IsOrderly) :
    (negation predicate).IsOrderly :=
  orderly.bind fun _ => .pure _

theorem allOf_isOrderly {predicates : List Predicate}
    (orderly : ∀ predicate ∈ predicates, predicate.IsOrderly) : (allOf predicates).IsOrderly := by
  induction predicates with
  | nil => exact always_isOrderly true
  | cons predicate rest ih =>
    obtain ⟨first, others⟩ := List.forall_mem_cons.mp orderly
    exact first.bind fun holds => .ite (ih others) (.pure false)

theorem anyOf_isOrderly {predicates : List Predicate}
    (orderly : ∀ predicate ∈ predicates, predicate.IsOrderly) : (anyOf predicates).IsOrderly := by
  induction predicates with
  | nil => exact always_isOrderly false
  | cons predicate rest ih =>
    obtain ⟨first, others⟩ := List.forall_mem_cons.mp orderly
    exact first.bind fun holds => .ite (.pure true) (ih others)

/-- The parts of a condition are orderly. -/
def Parts.AreOrderly (parts : Parts) : Prop :=
  ∀ predicates, parts = .predicates predicates → ∀ predicate ∈ predicates, predicate.IsOrderly

theorem ofParts_isOrderly {parts : Parts} (orderly : parts.AreOrderly) (quantifier : Quantifier) :
    (ofParts quantifier parts).IsOrderly := by
  cases parts with
  | predicates predicates =>
    cases quantifier with
    | all => exact allOf_isOrderly (orderly predicates rfl)
    | any => exact anyOf_isOrderly (orderly predicates rfl)
  | given value =>
    cases value with
    | list items =>
      cases items with
      | nil => exact always_isOrderly _
      | cons item rest => exact fails_isOrderly _
    | _ => exact fails_isOrderly _

/-! ### Operands -/

section Operands

variable {φ : Type} [Callable φ]

theorem ofTextOperand_isOrderly (operand : Data φ) (reach : Context → Data φ → Except Thrown (Data Unit))
    (test : Context → Text → Except Fault Bool) : (ofTextOperand operand reach test).IsOrderly := by
  have ofLength (value : Data φ) (notText : ∀ t, value ≠ .text t) :
      (ofTextOperand value reach test).IsOrderly := by
    unfold ofTextOperand
    split
    · next t => exact absurd rfl (notText t)
    · split
      · exact fails_isOrderly _
      · exact .ofExcept _
  cases operand with
  | text t => exact .ofExcept _
  | _ => exact ofLength _ fun t same => by cases same

omit [Callable φ] in
theorem ofSpanOperand_isOrderly (operand : Data φ) : (ofSpanOperand operand).IsOrderly := by
  refine .bind .spanKind fun kind => ?_
  cases operand <;> exact .pure _

theorem ofScopeOperand_isOrderly (scopes place : Data φ) : (ofScopeOperand scopes place).IsOrderly := by
  unfold ofScopeOperand
  split
  · exact .scopeMatches _ _
  · exact always_isOrderly false

theorem ofLanguageOperand_isOrderly (operand : Data φ) : (ofLanguageOperand operand).IsOrderly :=
  .isLanguageAmong _ _

end Operands

/-! ### Conditions as data -/

section Conditions

variable {φ : Type} [Callable φ]

/-- What a value is as a condition, and what it gives as parts of one, is orderly. -/
structure Operand.IsOrderly (operand : Operand φ) : Prop where
  condition : ∀ predicate, operand.condition = .ok predicate → predicate.IsOrderly
  parts : ∀ parts, operand.parts = .ok parts → parts.AreOrderly

theorem ofOperands_isOrderly {operands : Fields (Operand φ)}
    (orderly : ∀ name operand, Fields.get? name operands = some operand → operand.IsOrderly)
    {predicate : Predicate} (given : ofOperands operands = .ok predicate) : predicate.IsOrderly := by
  have ofParts {operand : Operand φ} {name : Text} (found : Fields.get? name operands = some operand)
      {quantifier : Quantifier} (given : operand.parts.map (ofParts quantifier) = .ok predicate) :
      predicate.IsOrderly := by
    obtain ⟨parts, areParts, rfl⟩ := exists_of_map_eq_ok given
    exact ofParts_isOrderly ((orderly name operand found).parts parts areParts) quantifier
  unfold ofOperands at given
  dsimp only at given
  split at given
  · obtain rfl := Except.ok.inj given
    exact ofTextOperand_isOrderly _ _ _
  · obtain rfl := Except.ok.inj given
    exact ofTextOperand_isOrderly _ _ _
  · obtain rfl := Except.ok.inj given
    exact ofSpanOperand_isOrderly _
  · obtain rfl := Except.ok.inj given
    exact ofScopeOperand_isOrderly _ _
  · obtain rfl := Except.ok.inj given
    exact negation_isOrderly (ofScopeOperand_isOrderly _ _)
  · obtain rfl := Except.ok.inj given
    exact .ofContext _
  · next found _ _ _ _ _ _ => exact ofParts found given
  · next found _ _ _ _ _ _ _ => exact ofParts found given
  · split at given
    · next operand found =>
      obtain ⟨part, isCondition, rfl⟩ := exists_of_map_eq_ok given
      exact negation_isOrderly ((orderly _ operand found).condition part isCondition)
    · cases given

mutual

/-- The predicate of a condition as data is orderly. -/
theorem ofConditionData_isOrderly : ∀ (value : Data φ) {predicate : Predicate},
    ofConditionData value = .ok predicate → predicate.IsOrderly
  | .record fields, _, given => ofOperands_isOrderly (operandsOf_areOrderly fields) given
  | .missing, _, given | .null, _, given | .bool _, _, given | .number _, _, given
  | .text _, _, given | .list _, _, given | .error _ _, _, given | .integer _, _, given
  | .circular, _, given | .function _, _, given => by cases given

theorem partsOf_areOrderly : ∀ (value : Data φ) {parts : Parts},
    partsOf value = .ok parts → parts.AreOrderly
  | .list items, parts, given => by
    obtain ⟨predicates, arePredicates, rfl⟩ := exists_of_map_eq_ok given
    intro others same
    obtain rfl := Parts.predicates.inj same
    exact ofConditionItems_areOrderly items arePredicates
  | .record fields, parts, given => by
    rw [partsOf] at given
    split at given
    · next body _ =>
      -- What a function of the record gives holds no predicates.
      intro predicates same
      subst same
      cases called : Callable.call body (Data.function ()) <;> rw [called] at given <;> cases given
    · cases given
  | .missing, _, given | .null, _, given | .bool _, _, given | .number _, _, given
  | .text _, _, given | .error _ _, _, given | .integer _, _, given
  | .circular, _, given | .function _, _, given => by cases given

theorem ofConditionItems_areOrderly : ∀ (items : List (Data φ)) {predicates : List Predicate},
    ofConditionItems items = .ok predicates → ∀ predicate ∈ predicates, predicate.IsOrderly
  | [], predicates, given => by
    obtain rfl := Except.ok.inj given
    exact List.forall_mem_nil _
  | item :: rest, predicates, given => by
    rw [ofConditionItems] at given
    split at given
    · cases given
    · next first isFirst =>
      obtain ⟨others, areMore, rfl⟩ := exists_of_map_eq_ok given
      exact List.forall_mem_cons.mpr ⟨ofConditionData_isOrderly item isFirst,
        ofConditionItems_areOrderly rest areMore⟩

theorem operandsOf_areOrderly : ∀ (fields : List (Text × Data φ)) name operand,
    Fields.get? name (operandsOf fields) = some operand → operand.IsOrderly
  | [], _, _, found => by cases found
  | (key, value) :: rest, name, operand, found => by
    rw [operandsOf, Fields.get?] at found
    split at found
    · obtain rfl := Option.some.inj found
      exact ⟨fun _ => ofConditionData_isOrderly value, fun _ => partsOf_areOrderly value⟩
    · exact operandsOf_areOrderly rest name operand found

end

end Conditions

/-! ### What a definition says -/

/-- A condition of a definition is orderly, unless it is a function. -/
theorem ofSource_isOrderly {source : Data HostFunction} (declarative : ∀ body, source ≠ .function body)
    {predicate : Predicate} (given : ofSource source = .ok predicate) : predicate.IsOrderly := by
  cases source with
  | function body => exact absurd rfl (declarative body)
  | list items =>
    obtain ⟨predicates, arePredicates, rfl⟩ := exists_of_map_eq_ok (f := allOf) given
    exact allOf_isOrderly (ofConditionItems_areOrderly items arePredicates)
  | _ => exact ofConditionData_isOrderly _ given

theorem ofFlag_isOrderly {flag : Data HostFunction} (declarative : ∀ body, flag ≠ .function body)
    {predicate : Predicate} (given : ofFlag flag = .ok predicate) : predicate.IsOrderly := by
  cases flag with
  | missing =>
    obtain rfl := Except.ok.inj given
    exact always_isOrderly true
  | bool value =>
    obtain rfl := Except.ok.inj given
    exact always_isOrderly value
  | _ => exact ofSource_isOrderly declarative given

end Pairing.Predicate
