/-
**What conditions compile to.**

A condition that was read is handed on as data, and the data is compiled to a predicate. Nothing is lost
and nothing fails on the way: the predicate is that of the condition.

* `Predicate.ofConditionData_toData`: by induction over the condition, with
  `Predicate.ofConditionItems_listData` for lists of conditions;
* `ConditionSource.predicate`, `Predicate.ofSource_toData`: the same of one condition or several;
* `Flag.predicate`, `Predicate.ofFlag_toData`: the same of what a definition says about an action;
* `Predicate.ofLanguageOperand_textsData`: languages are those of their names.
-/

import Pairing.Definition.Validation

namespace Pairing

namespace Predicate

variable {φ : Type}

/-! ### Operands -/

/-- The place of a condition on scopes as data, missing where it names none. -/
def placeData (place : Option ScopePlace) : Data φ :=
  (place.map fun p => Data.text (Condition.placeName p)).getD .missing

theorem placeOf?_placeData (place : Option ScopePlace) :
    placeOf? (placeData place : Data φ) = some (place.getD .inside) := by
  cases place with
  | none => rfl
  | some p => cases p <;> rfl

theorem filterMap_text? (texts : List Text) :
    (texts.map fun t => (Data.text t : Data φ)).filterMap Data.text? = texts := by
  induction texts with
  | nil => rfl
  | cons t rest ih => simpa [Data.text?] using ih

variable [Callable φ]

theorem ofScopeOperand_textsData (scopes : List Text) (place : Option ScopePlace) :
    ofScopeOperand (Condition.textsData scopes : Data φ) (placeData place) =
      Query.scopeAmong scopes (place.getD .inside) := by
  rw [ofScopeOperand, placeOf?_placeData, scopeBelongsTo_textsData]
  rfl

theorem ofLanguageOperand_textsData (languages : List Text) :
    ofLanguageOperand (Condition.textsData languages : Data φ) = Query.isLanguage languages := by
  have handled : filetypesAmong (languages.map fun t => (Data.text t : Data φ)) =
      filetypesOf languages := by
    rw [filetypesAmong, filetypesOf, filterMap_text?, List.mapM_map]
    rfl
  show Query.isLanguageAmong ((languages.map Data.text).filterMap Data.text?) _ = _
  rw [filterMap_text?]
  exact congrArg _ handled

theorem ofParts_all (conditions : List Condition) :
    ofParts .all (.predicates (conditions.map Condition.predicate)) = Condition.allHold conditions := by
  show allOf _ = _
  induction conditions with
  | nil => rfl
  | cons condition rest ih => rw [List.map_cons, allOf, ih, Condition.allHold]

theorem ofParts_any (conditions : List Condition) :
    ofParts .any (.predicates (conditions.map Condition.predicate)) =
      Condition.someHolds conditions := by
  show anyOf _ = _
  induction conditions with
  | nil => rfl
  | cons condition rest ih => rw [List.map_cons, anyOf, ih, Condition.someHolds]

/-! ### Conditions -/

mutual

/-- The data of a condition compiles to the predicate of the condition. -/
theorem ofConditionData_toData : ∀ condition : Condition,
    ofConditionData (condition.toData : Data φ) = .ok condition.predicate
  | .textBefore _ => rfl
  | .textAfter _ => rfl
  | .inSpan _ => rfl
  | .scopeAmong scopes place => by
    have record : ofConditionData ((Condition.scopeAmong scopes place).toData : Data φ) =
        .ok (ofScopeOperand (Condition.textsData scopes : Data φ) (placeData place)) := by
      cases place <;> rfl
    rw [record, ofScopeOperand_textsData, Condition.predicate]
  | .scopeNotAmong scopes place => by
    have record : ofConditionData ((Condition.scopeNotAmong scopes place).toData : Data φ) =
        .ok (negation (ofScopeOperand (Condition.textsData scopes : Data φ) (placeData place))) := by
      cases place <;> rfl
    rw [record, ofScopeOperand_textsData, Condition.predicate, negation]
  | .charUnderCursor isWord => by cases isWord <;> rfl
  | .all conditions => by
    show (partsOf (.list (Condition.listData conditions) : Data φ)).map (ofParts .all) = _
    rw [partsOf, ofConditionItems_listData]
    show Except.ok (ofParts .all _) = _
    rw [ofParts_all, Condition.predicate]
  | .any conditions => by
    show (partsOf (.list (Condition.listData conditions) : Data φ)).map (ofParts .any) = _
    rw [partsOf, ofConditionItems_listData]
    show Except.ok (ofParts .any _) = _
    rw [ofParts_any, Condition.predicate]
  | .not condition => by
    show (ofConditionData (condition.toData : Data φ)).map negation = _
    rw [ofConditionData_toData condition, Condition.predicate]
    rfl

/-- The data of some conditions compiles to their predicates. -/
theorem ofConditionItems_listData : ∀ conditions : List Condition,
    ofConditionItems (Condition.listData conditions : List (Data φ)) =
      .ok (conditions.map Condition.predicate)
  | [] => rfl
  | condition :: rest => by
    rw [Condition.listData, ofConditionItems, ofConditionData_toData condition,
      ofConditionItems_listData rest]
    rfl

end

end Predicate

/-! ### Sources and flags -/

/-- Where one condition or several of a definition hold. -/
def ConditionSource.predicate : ConditionSource → Predicate
  | .one condition => condition.predicate
  | .each conditions => Condition.allHold conditions

/-- Where an action is allowed by what a definition says about it. -/
def Flag.predicate : Flag → Predicate
  | .fixed allowed => .always allowed
  | .given source => source.predicate

/-- The data of a source is a list or a record. -/
theorem ConditionSource.toData_cases {φ : Type} (source : ConditionSource) :
    (∃ items, source.toData = (.list items : Data φ)) ∨
      ∃ fields, source.toData = (.record fields : Data φ) := by
  cases source with
  | one condition => cases condition <;> exact Or.inr ⟨_, rfl⟩
  | each conditions => exact Or.inl ⟨_, rfl⟩

namespace Predicate

theorem ofSource_toData (source : ConditionSource) :
    ofSource source.toData = .ok source.predicate := by
  cases source with
  | one condition =>
    have record : ofSource (ConditionSource.one condition).toData =
        ofConditionData (condition.toData : Data HostFunction) := by
      cases condition <;> rfl
    rw [record, ofConditionData_toData, ConditionSource.predicate]
  | each conditions =>
    show (ofConditionItems (Condition.listData conditions)).map allOf = _
    rw [ofConditionItems_listData]
    exact congrArg Except.ok (ofParts_all conditions)

theorem ofFlag_toData (flag : Flag) : ofFlag flag.toData = .ok flag.predicate := by
  cases flag with
  | fixed allowed => rfl
  | given source =>
    have sameSource : ofFlag (Flag.given source).toData = ofSource source.toData := by
      obtain ⟨items, list⟩ | ⟨fields, record⟩ := source.toData_cases (φ := HostFunction)
      · rw [Flag.toData, list]
        rfl
      · rw [Flag.toData, record]
        rfl
    rw [sameSource, ofSource_toData, Flag.predicate]

end Predicate

end Pairing
