/-
**Rules of checked definitions.**

A definition that was read is handed on as a record of the fields that were read. The rule that is built
from the record is the one that the definition declares:

* `Definition.optionalFields`, `Definition.field_toData`: the record of a definition has each field under
  its name;
* `Definition.rule`, `Entry.rule`: the rule that a checked definition declares;
* `Rule.ofEntry_toData`: the rule that is built from its data is that one, whatever the definition;
* `RuleIndex.compile_ofEntries`, `RuleIndex.compile_ofDefinition`: what the definitions under one key compile to.
-/

import Pairing.Definition.Reading
import Pairing.Proofs.Condition.Compiled
import Pairing.Proofs.Definition.Closings
import Pairing.Proofs.Fields.Distinct

namespace Pairing

/-! ### The record of a definition -/

section Records

variable {φ : Type}

/-- The fields that a definition may leave out. -/
def Definition.optionalFields (definition : Definition) : List (Text × Option (Data φ)) :=
  [(Text.ofString "opening", definition.opening.map .text),
    (Text.ofString "priority", definition.priority.map .number),
    (Text.ofString "languages", definition.languages.map Condition.textsData),
    (Text.ofString "cmdline", definition.cmdline.map .bool),
    (Text.ofString "when", definition.condition.map ConditionSource.toData)] ++
    Action.all.map fun action => (action.name, (definition.flags action).map Flag.toData)

theorem Action.mem_all (action : Action) : action ∈ Action.all := by
  cases action <;> decide

theorem Definition.names_eq (definition : Definition) :
    Text.ofString "closing" :: (definition.optionalFields (φ := φ)).map (·.1) = fieldNames :=
  rfl

theorem Definition.fieldNames_nodup : Definition.fieldNames.Nodup := by
  decide

theorem Definition.toData_eq (definition : Definition) :
    (definition.toData : Data φ) =
      .record ((Text.ofString "closing", .text definition.closing) ::
        Fields.ofOptions definition.optionalFields) := by
  simp [toData, optionalFields, Fields.ofOptions, optionalField, Function.comp_def, List.flatMap_map]

/-- Under each name stands the field that the definition has. -/
theorem Definition.field_toData (definition : Definition) {name : Text} {value : Option (Data φ)}
    (member : (name, value) ∈ definition.optionalFields) :
    (definition.toData : Data φ).field name = value.getD .missing := by
  obtain ⟨closingNew, distinct⟩ := List.nodup_cons.mp
    (definition.names_eq (φ := φ) ▸ Definition.fieldNames_nodup)
  have different : Text.ofString "closing" ≠ name := fun same =>
    closingNew (same ▸ List.mem_map_of_mem (f := (·.1)) member)
  rw [toData_eq, Data.field, Data.fields?, Option.bind_some, Fields.get?, if_neg different,
    Fields.get?_ofOptions distinct member]
  intro errorName message isError
  cases isError

/-- Under the names of the fields stand what the definition says, and nothing where it says nothing. -/
theorem Definition.fields_toData (definition : Definition) :
    let record : Data φ := definition.toData
    record.field "closing" = .text definition.closing ∧
      record.field "opening" = (definition.opening.map .text).getD .missing ∧
      record.field "priority" = (definition.priority.map .number).getD .missing ∧
      record.field "languages" = (definition.languages.map Condition.textsData).getD .missing ∧
      record.field "cmdline" = (definition.cmdline.map .bool).getD .missing ∧
      record.field "when" = (definition.condition.map ConditionSource.toData).getD .missing ∧
      ∀ action : Action,
        record.field action.name = ((definition.flags action).map Flag.toData).getD .missing := by
  refine ⟨?_, ?_, ?_, ?_, ?_, ?_, fun action => ?_⟩
  · rw [toData_eq]
    rfl
  case refine_7 =>
    exact definition.field_toData
      (List.mem_append_right _ (List.mem_map_of_mem action.mem_all))
  all_goals exact definition.field_toData (by simp [optionalFields])

end Records

/-! ### The rule of a definition -/

/-- Where a rule allows an action that its definition may say something about. -/
def Flag.predicateOf : Option Flag → Predicate
  | none => .always true
  | some flag => flag.predicate

/-- The priority of a rule that names none. -/
def Definition.usualPriority (definition : Definition) (key : Text) : Number :=
  ((Number.ofNat (definition.opening.getD key).length).add (.ofNat definition.closing.length)).add
    (.ofNat (if definition.condition.isSome then UncheckedRule.conditionBonus else 0))

/-- The rule that a checked definition declares under a key. -/
def Definition.rule (definition : Definition) (key : Text) (order : Nat) : Rule where
  key := key
  opening := definition.opening.getD key
  closing := definition.closing
  priority := definition.priority.getD (definition.usualPriority key)
  order := order
  applies := UncheckedRule.applicability (definition.cmdline == some false)
    (definition.languages.map Query.isLanguage) (definition.condition.map ConditionSource.predicate)
  allows action := Flag.predicateOf (definition.flags action)

/-- The rule that a checked definition in either form declares under a key. -/
def Entry.rule (entry : Entry) (key : Text) (order : Nat) : Rule :=
  match entry with
  | .closing t => .ofClosing key t order
  | .full definition => definition.rule key order

theorem Predicate.ofFlag_getD_missing (flag : Option Flag) :
    Predicate.ofFlag ((flag.map Flag.toData).getD .missing) = .ok (Flag.predicateOf flag) := by
  cases flag with
  | none => rfl
  | some flag => exact ofFlag_toData flag

theorem Definition.allows_rule (definition : Definition) (key : Text) (order : Nat) :
    (definition.rule key order).allows = fun
      | .opening => Flag.predicateOf (definition.flags .opening)
      | .closing => Flag.predicateOf (definition.flags .closing)
      | .openingOrClosing => Flag.predicateOf (definition.flags .openingOrClosing)
      | .enter => Flag.predicateOf (definition.flags .enter)
      | .backspace => Flag.predicateOf (definition.flags .backspace)
      | .space => Flag.predicateOf (definition.flags .space) := by
  funext action
  cases action <;> rfl

/-- The data of a checked definition has a rule. Its fields are looked up one by one, and each of them is
taken as the definition has it. -/
theorem UncheckedRule.ofEntry_toData (key : Text) (definition : Definition) (order : Nat) :
    UncheckedRule.ofEntry key definition.toData order =
      .ok {
        key := key
        opening := .text (definition.opening.getD key)
        closing := .text definition.closing
        priority := .number (definition.priority.getD (definition.usualPriority key))
        order := order
        applies := (definition.rule key order).applies
        allows := (definition.rule key order).allows } := by
  obtain ⟨closing, opening, priority, languages, cmdline, condition, flag⟩ :=
    definition.fields_toData (φ := HostFunction)
  obtain ⟨fields, record⟩ : ∃ fields, definition.toData = (.record fields : Data HostFunction) :=
    ⟨_, rfl⟩
  have opens : ((definition.opening.map (Data.text : Text → Data HostFunction)).getD .missing).orElse
      (.text key) = .text (definition.opening.getD key) := by
    cases definition.opening <;> rfl
  have worth (usual : Number) :
      ((definition.priority.map (Data.number : Number → Data HostFunction)).getD .missing).orElse
        (.number usual) = .number (definition.priority.getD usual) := by
    cases definition.priority <;> rfl
  have inLanguages :
      (let names : Data HostFunction := (definition.languages.map Condition.textsData).getD .missing
        if names.isMissing then none else some (Predicate.ofLanguageOperand names)) =
        definition.languages.map Query.isLanguage := by
    cases definition.languages with
    | none => rfl
    | some names => exact congrArg some (Predicate.ofLanguageOperand_textsData names)
  simp only [record] at closing opening priority languages cmdline condition flag ⊢
  simp only [UncheckedRule.ofEntry, closing, opening, priority, languages, cmdline, condition, flag,
    Predicate.ofFlag_getD_missing, opens, UncheckedRule.usualPriority_texts, inLanguages]
  rw [definition.allows_rule, ← worth, Definition.rule, Definition.usualPriority]
  -- Whether there is a condition decides the priority too.
  cases definition.condition with
  | none => obtain _ | _ | _ := definition.cmdline <;> rfl
  | some source =>
    have present : (source.toData : Data HostFunction).isMissing = false := by
      obtain ⟨items, list⟩ | ⟨fields, record⟩ := source.toData_cases (φ := HostFunction)
      · rw [list]
        rfl
      · rw [record]
        rfl
    rw [Option.map_some, Option.getD_some, present, if_neg Bool.false_ne_true,
      Predicate.ofSource_toData]
    obtain _ | _ | _ := definition.cmdline <;> rfl

/-- The rule of a checked definition is the one that the definition declares. -/
theorem Rule.ofEntry_toData (key : Text) (entry : Entry) (order : Nat) :
    Rule.ofEntry key entry.toData order = .ok (entry.rule key order) := by
  cases entry with
  | closing t => exact Rule.ofEntry_text key t order
  | full definition =>
    rw [Rule.ofEntry, Entry.toData, UncheckedRule.ofEntry_toData]
    rfl

/-! ### One key -/

/-- The definitions under one key compile to their own rules. -/
theorem RuleIndex.compile_ofEntries {key : Text} {value : Data HostFunction} {entries : List Entry}
    (readable : Definitions.areReadable [(key, value)] = true) (asList : value.asList = entries.map Entry.toData)
    (single : key.isSingleCluster = true)
    (noProblems : ∀ entry ∈ entries, Definitions.problemsOf key entry.toData = []) :
    compile [(key, value)] =
      .ok (.ofRules (entries.mapIdx fun order entry => entry.rule key.composed order)) := by
  refine compile_eq_ok_iff.mpr ⟨⟨readable, ?_, ?_⟩, _, Definitions.rules_eq_ok_iff.mpr ?_, rfl⟩
  · intro other given member
    obtain ⟨rfl, rfl⟩ := Prod.mk.inj (List.mem_singleton.mp member)
    exact single
  · intro other given member data inside
    obtain ⟨rfl, rfl⟩ := Prod.mk.inj (List.mem_singleton.mp member)
    rw [asList] at inside
    obtain ⟨entry, place, rfl⟩ := List.mem_map.mp inside
    exact noProblems entry place
  · have declared : Definitions.entries [(key, value)] = entries.map fun entry => (key.composed, entry.toData) := by
      simp [Definitions.entries, asList]
    rw [declared]
    refine List.ext_getElem (by simp) fun order _ _ => ?_
    simp only [List.getElem_mapIdx, List.getElem_map]
    exact Rule.ofEntry_toData _ _ order

/-- One record under one key compiles to its own rule. -/
theorem RuleIndex.compile_ofDefinition (key : Text) (definition : Definition)
    (single : key.isSingleCluster = true) (noProblems : Definitions.problemsOf key definition.toData = []) :
    compile [(key, definition.toData)] = .ok (.ofRules [definition.rule key.composed 0]) := by
  have asList : (definition.toData : Data HostFunction).asList = [Entry.full definition].map Entry.toData := rfl
  exact compile_ofEntries rfl asList single (List.forall_mem_singleton.mpr noProblems)

end Pairing
