/-
**Values that are opened as conditions.**

A condition that nobody checked is opened from the outside to the inside, and the first name that is known
decides what a record is. Told by how a value is built, and not by how it is opened:

* `Data.CanBeOpened`: the values that give a predicate;
* `Predicate.exists_ofOperands_iff`: when a record does, by its fields;
* `Predicate.exists_ofConditionData`: all of them give one, by induction over how they are built;
* `Predicate.canBeOpened_of_ofConditionData`: of the values of a configuration text no others do, by the
  recursion over the text;
* `Predicate.exists_ofSource_iff`, `Predicate.exists_ofFlag_iff`: what a definition says about a rule and
  about its actions.
-/

import Mathlib.Logic.Basic
import Pairing.Condition.Unchecked
import Pairing.Proofs.Definition.Compiled
import Pairing.Proofs.Definition.Wording

namespace Pairing

/-- The names whose values are kept as they are, and looked into for each key only. -/
def Predicate.testNames : List Text :=
  ["textBefore", "textAfter", "inSpan", "scopeWhitelist", "scopeBlacklist", "charUnderCursor"].map Text.ofString

section Opened

variable {φ : Type}

/-- The values that give a predicate. A name further down counts only where none of the names above it is
there. -/
inductive Data.CanBeOpened : Data φ → Prop
  | test {fields : Fields (Data φ)} {name : Text} (known : name ∈ Predicate.testNames)
      (present : (Fields.get? name fields).isSome = true) : CanBeOpened (.record fields)
  | all {fields : Fields (Data φ)} {parts : List (Data φ)}
      (isAll : Fields.get? "all" fields = some (.list parts)) (each : ∀ part ∈ parts, CanBeOpened part) :
      CanBeOpened (.record fields)
  | any {fields : Fields (Data φ)} {parts : List (Data φ)} (noAll : Fields.get? "all" fields = none)
      (isAny : Fields.get? "any" fields = some (.list parts)) (each : ∀ part ∈ parts, CanBeOpened part) :
      CanBeOpened (.record fields)
  | not {fields : Fields (Data φ)} {part : Data φ} (noAll : Fields.get? "all" fields = none)
      (noAny : Fields.get? "any" fields = none) (isNot : Fields.get? "not" fields = some part)
      (opens : CanBeOpened part) : CanBeOpened (.record fields)

/-- What gives a predicate as the condition of a rule: one such value, or a list of them. -/
def Data.IsOpenSource : Data φ → Prop
  | .list items => ∀ item ∈ items, item.CanBeOpened
  | value => value.CanBeOpened

/-- What gives a predicate for an action: nothing, a truth value, or what does for a rule. -/
def Data.IsOpenFlag : Data φ → Prop
  | .missing | .bool _ => True
  | value => value.IsOpenSource

end Opened

namespace Predicate

variable {φ : Type} [Callable φ]

/-! ### One record -/

theorem exists_map_eq_ok_iff {α β ε : Type} {result : Except ε α} {f : α → β} :
    (∃ value, result.map f = .ok value) ↔ ∃ value, result = .ok value := by
  cases result <;> simp [Except.map]

theorem forall_mem_testNames {P : Text → Prop} :
    (∀ name ∈ testNames, P name) ↔ P "textBefore" ∧ P "textAfter" ∧ P "inSpan" ∧ P "scopeWhitelist" ∧
      P "scopeBlacklist" ∧ P "charUnderCursor" := by
  simp [testNames]

/-- What a record gives a predicate by: a name that is kept, or the first of the other three names. -/
theorem exists_ofOperands_iff {operands : Fields (Operand φ)} :
    (∃ predicate, ofOperands operands = .ok predicate) ↔
      (∃ name ∈ testNames, (Fields.get? name operands).isSome = true) ∨
      (∃ operand, Fields.get? "all" operands = some operand ∧ ∃ parts, operand.parts = .ok parts) ∨
      (Fields.get? "all" operands = none ∧
        ∃ operand, Fields.get? "any" operands = some operand ∧ ∃ parts, operand.parts = .ok parts) ∨
      Fields.get? "all" operands = none ∧ Fields.get? "any" operands = none ∧
        ∃ operand, Fields.get? "not" operands = some operand ∧ ∃ part, operand.condition = .ok part := by
  have kept {name : Text} {operand : Operand φ} (known : name ∈ testNames)
      (found : Fields.get? name operands = some operand) :
      ∃ name ∈ testNames, (Fields.get? name operands).isSome = true :=
    ⟨name, known, Option.isSome_iff_exists.mpr ⟨operand, found⟩⟩
  have unkept (each : ∀ name ∈ testNames, ∀ operand, Fields.get? name operands = some operand → False) :
      ¬ ∃ name ∈ testNames, (Fields.get? name operands).isSome = true := by
    rintro ⟨name, known, present⟩
    obtain ⟨operand, there⟩ := Option.isSome_iff_exists.mp present
    exact each name known operand there
  have absent {name : Text} (missing : ∀ operand, Fields.get? name operands = some operand → False) :
      Fields.get? name operands = none :=
    Option.eq_none_iff_forall_ne_some.mpr missing
  unfold ofOperands
  dsimp only
  split
  · next found => exact iff_of_true ⟨_, rfl⟩ (Or.inl (kept (by decide) found))
  · next found _ => exact iff_of_true ⟨_, rfl⟩ (Or.inl (kept (by decide) found))
  · next found _ _ => exact iff_of_true ⟨_, rfl⟩ (Or.inl (kept (by decide) found))
  · next found _ _ _ => exact iff_of_true ⟨_, rfl⟩ (Or.inl (kept (by decide) found))
  · next found _ _ _ _ => exact iff_of_true ⟨_, rfl⟩ (Or.inl (kept (by decide) found))
  · next found _ _ _ _ _ => exact iff_of_true ⟨_, rfl⟩ (Or.inl (kept (by decide) found))
  · next operand found before after span among notAmong under =>
    have noTest := unkept (forall_mem_testNames.mpr ⟨before, after, span, among, notAmong, under⟩)
    simp [noTest, found, exists_map_eq_ok_iff]
  · next operand found before after span among notAmong under all =>
    have noTest := unkept (forall_mem_testNames.mpr ⟨before, after, span, among, notAmong, under⟩)
    simp [noTest, found, exists_map_eq_ok_iff, absent all]
  · next before after span among notAmong under all any =>
    have noTest := unkept (forall_mem_testNames.mpr ⟨before, after, span, among, notAmong, under⟩)
    split
    · next operand found =>
      simp [noTest, found, exists_map_eq_ok_iff, absent all, absent any]
    · next nowhere =>
      simp [noTest, absent all, absent any, nowhere]

/-! ### Several values -/

theorem exists_ofConditionItems_iff {items : List (Data φ)} :
    (∃ predicates, ofConditionItems items = .ok predicates) ↔
      ∀ item ∈ items, ∃ predicate, ofConditionData item = .ok predicate := by
  induction items with
  | nil => exact iff_of_true ⟨[], rfl⟩ (List.forall_mem_nil _)
  | cons item rest ih =>
    rw [List.forall_mem_cons, ← ih, ofConditionItems]
    split
    · next refused => simp [refused]
    · next given => simp [given, exists_map_eq_ok_iff]

/-- A record gives a predicate by its values. -/
theorem exists_ofConditionData_record_iff {fields : Fields (Data φ)} :
    (∃ predicate, ofConditionData (.record fields) = .ok predicate) ↔
      (∃ name ∈ testNames, (Fields.get? name fields).isSome = true) ∨
      (∃ value, Fields.get? "all" fields = some value ∧ ∃ parts, partsOf value = .ok parts) ∨
      (Fields.get? "all" fields = none ∧
        ∃ value, Fields.get? "any" fields = some value ∧ ∃ parts, partsOf value = .ok parts) ∨
      Fields.get? "all" fields = none ∧ Fields.get? "any" fields = none ∧
        ∃ value, Fields.get? "not" fields = some value ∧ ∃ part, ofConditionData value = .ok part := by
  rw [ofConditionData, exists_ofOperands_iff]
  simp [operandsOf_get?]

/-! ### Values that can be opened give a predicate -/

/-- Whatever can be opened gives a predicate. -/
theorem exists_ofConditionData {value : Data φ} (opens : value.CanBeOpened) :
    ∃ predicate, ofConditionData value = .ok predicate := by
  induction opens with
  | test known present => exact exists_ofConditionData_record_iff.mpr (Or.inl ⟨_, known, present⟩)
  | all isAll _ each =>
    obtain ⟨predicates, given⟩ := exists_ofConditionItems_iff.mpr each
    refine exists_ofConditionData_record_iff.mpr (Or.inr (Or.inl ⟨_, isAll, .predicates predicates, ?_⟩))
    rw [partsOf, given]
    rfl
  | any noAll isAny _ each =>
    obtain ⟨predicates, given⟩ := exists_ofConditionItems_iff.mpr each
    refine exists_ofConditionData_record_iff.mpr
      (Or.inr (Or.inr (Or.inl ⟨noAll, _, isAny, .predicates predicates, ?_⟩)))
    rw [partsOf, given]
    rfl
  | not noAll noAny isNot _ part =>
    exact exists_ofConditionData_record_iff.mpr (Or.inr (Or.inr (Or.inr ⟨noAll, noAny, _, isNot, part⟩)))

/-! ### No other value of a configuration text does -/

/-- What is left of a value once its predicates are there: it can be opened, and what it gives as parts is a
list of values that can be. -/
structure OpensBy (value : Data φ) : Prop where
  condition : ∀ predicate, ofConditionData value = .ok predicate → value.CanBeOpened
  parts : ∀ parts, partsOf value = .ok parts →
    ∃ items, value = .list items ∧ ∀ item ∈ items, item.CanBeOpened

/-- A record gives a predicate only if it can be opened, if that is so of the values in it. -/
theorem canBeOpened_of_fields {fields : Fields (Data φ)}
    (each : ∀ name value, Fields.get? name fields = some value → OpensBy value) {predicate : Predicate}
    (given : ofConditionData (.record fields) = .ok predicate) : (Data.record fields).CanBeOpened := by
  rcases exists_ofConditionData_record_iff.mp ⟨predicate, given⟩ with
    ⟨name, known, present⟩ | ⟨value, isAll, parts, areParts⟩ | ⟨noAll, value, isAny, parts, areParts⟩ |
      ⟨noAll, noAny, value, isNot, part, isPart⟩
  · exact .test known present
  · obtain ⟨items, rfl, opened⟩ := (each _ value isAll).parts parts areParts
    exact .all isAll opened
  · obtain ⟨items, rfl, opened⟩ := (each _ value isAny).parts parts areParts
    exact .any noAll isAny opened
  · exact .not noAll noAny isNot ((each _ value isNot).condition part isPart)

mutual

/-- A value of a configuration text gives a predicate only if it can be opened. -/
theorem opensBy_ofJson : ∀ json : Json, OpensBy (Data.ofJson json : Data φ)
  | .null | .bool _ | .number _ | .text _ =>
    ⟨fun _ given => (by cases given), fun _ given => (by cases given)⟩
  | .list items => by
    refine ⟨fun _ given => (by cases given), fun parts given => ?_⟩
    obtain ⟨predicates, arePredicates, -⟩ := exists_of_map_eq_ok given
    refine ⟨Data.ofJsonItems items, rfl, fun item member => ?_⟩
    obtain ⟨predicate, isPredicate⟩ := exists_ofConditionItems_iff.mp ⟨predicates, arePredicates⟩ item member
    exact (opensBy_ofJsonItems items item member).condition predicate isPredicate
  | .record fields => by
    refine ⟨fun predicate given => canBeOpened_of_fields (opensBy_ofJsonFields fields) given,
      fun parts given => ?_⟩
    rw [Data.ofJson, partsOf, Data.ownFunction?_ofJsonFields] at given
    cases given

theorem opensBy_ofJsonItems : ∀ (items : List Json) (item : Data φ),
    item ∈ Data.ofJsonItems items → OpensBy item
  | [], _, member => absurd member List.not_mem_nil
  | first :: rest, item, member => by
    rcases List.mem_cons.mp member with rfl | later
    · exact opensBy_ofJson first
    · exact opensBy_ofJsonItems rest item later

theorem opensBy_ofJsonFields : ∀ (fields : List (Text × Json)) (name : Text) (value : Data φ),
    Fields.get? name (Data.ofJsonFields fields) = some value → OpensBy value
  | [], _, _, found => by cases found
  | (key, first) :: rest, name, value, found => by
    rw [Data.ofJsonFields, Fields.get?] at found
    split at found
    · obtain rfl := Option.some.inj found
      exact opensBy_ofJson first
    · exact opensBy_ofJsonFields rest name value found

end

/-- A value of a configuration text gives a predicate exactly if it can be opened. -/
theorem exists_ofConditionData_iff (json : Json) :
    (∃ predicate, ofConditionData (Data.ofJson json : Data φ) = .ok predicate) ↔
      (Data.ofJson json : Data φ).CanBeOpened :=
  ⟨fun ⟨predicate, given⟩ => (opensBy_ofJson json).condition predicate given, exists_ofConditionData⟩

/-! ### What a definition says -/

/-- What a configuration text gives as the condition of a rule. -/
theorem exists_ofSource_iff (json : Json) :
    (∃ predicate, ofSource (Data.ofJson json) = .ok predicate) ↔
      (Data.ofJson json : Data HostFunction).IsOpenSource := by
  cases json with
  | list items =>
    have each : (∃ predicate, ofSource (Data.ofJson (.list items)) = .ok predicate) ↔
        ∀ item ∈ (Data.ofJsonItems items : List (Data HostFunction)),
          ∃ predicate, ofConditionData item = .ok predicate := by
      rw [← exists_ofConditionItems_iff]
      exact exists_map_eq_ok_iff
    rw [each]
    refine forall₂_congr fun item member => ?_
    have inList : item ∈ (Data.ofJson (.list items) : Data HostFunction).asList := member
    obtain ⟨value, rfl⟩ := Data.exists_of_mem_asList_ofJson inList
    exact exists_ofConditionData_iff value
  | _ => exact exists_ofConditionData_iff _

/-- What it gives for an action. -/
theorem exists_ofFlag_iff (json : Json) :
    (∃ predicate, ofFlag (Data.ofJson json) = .ok predicate) ↔
      (Data.ofJson json : Data HostFunction).IsOpenFlag := by
  cases json with
  | bool value => exact iff_of_true ⟨_, rfl⟩ trivial
  | null => exact exists_ofSource_iff .null
  | number value => exact exists_ofSource_iff (.number value)
  | text value => exact exists_ofSource_iff (.text value)
  | list items => exact exists_ofSource_iff (.list items)
  | record fields => exact exists_ofSource_iff (.record fields)

end Predicate

end Pairing
