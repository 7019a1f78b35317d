/-
**Reading conditions from data.**

* `Refusal` — why a value is no condition, with what was expected instead.
* `Condition.ofData` — the condition that a value is, or why it is none. A condition has one key, and
  a condition on scopes may also name a place. Of several parts, the first one that is no condition
  is reported.
* `Condition.operandsOf_get?` — how a field is found among the operands.
-/

import Pairing.Condition
import Pairing.Data.Shown

namespace Pairing

/-- Why a value is no condition. -/
inductive Refusal where
  /-- It is no record. -/
  | notRecord
  /-- The place of a condition on scopes is unknown. -/
  | unknownPlace
  /-- The scopes are no list of texts. -/
  | notTexts
  /-- It is a record that is no condition. -/
  | unknown (record : Data.Written)

namespace Refusal

/-- What was expected instead. -/
def expected : Refusal → Text
  | .notRecord | .unknown _ => "condition object"
  | .unknownPlace => "inside | after | insideOrAfter"
  | .notTexts => "string[]"

/-- The wording of a refusal. A record that cannot be written has no wording. -/
def message? : Refusal → Option Text
  | .notRecord => some "must be a condition object"
  | .unknownPlace => some "position must be one of inside, after, insideOrAfter"
  | .notTexts => some "scope lists must be arrays of strings"
  | .unknown (.as form) => some (Text.ofString "unknown condition " ++ form)
  | .unknown .absent => some "unknown condition undefined"
  | .unknown (.refused _) => none

/-- What is thrown where a refusal has no wording. -/
def cause? : Refusal → Option Thrown
  | .unknown (.refused cause) => some cause
  | _ => none

end Refusal

namespace Condition

variable {φ : Type}

/-- The value of a field, with what it is as a condition and as a list of conditions. -/
structure Operand (φ : Type) where
  /-- The value. -/
  value : Data φ
  /-- The condition that it is. -/
  condition : Except Refusal Condition
  /-- The conditions that its items are, when it is a list. -/
  conditions : Option (Except Refusal (List Condition))

/-- Whether a key is one of two. -/
def isEither (first second key : Text) : Bool :=
  key == first || key == second

/-- The condition on scopes of a record, or why it is none. -/
def scopesOfFields (keys : List Text) (whitelist blacklist place : Data φ) :
    Except Refusal Condition := do
  let position ← match place with
    | .missing => pure none
    | .text name =>
      match placeOfName? name with
      | some p => pure (some p)
      | none => throw .unknownPlace
    | _ => throw .unknownPlace
  match whitelist.texts?, blacklist.texts? with
  | some scopes, others =>
    if keys.all (isEither "scopeWhitelist" "position") then return .scopeAmong scopes position
    else
      match others with
      | some scopes =>
        if keys.all (isEither "scopeBlacklist" "position") then return .scopeNotAmong scopes position
        else throw .notTexts
      | none => throw .notTexts
  | none, some scopes =>
    if keys.all (isEither "scopeBlacklist" "position") then return .scopeNotAmong scopes position
    else throw .notTexts
  | none, none => throw .notTexts

/-- The condition of a record of operands, or why it is none. -/
def ofOperands (operands : Fields (Operand φ)) (written : Data.Written) : Except Refusal Condition :=
  let operand? := fun key : String => Fields.get? (Text.ofString key) operands
  let value := fun key : String => ((operand? key).map (·.value)).getD .missing
  let isSingle := operands.length == 1
  match value "textBefore", value "textAfter", value "inSpan", value "charUnderCursor", isSingle with
  | .text (unit :: rest), _, _, _, true => .ok (.textBefore (unit :: rest))
  | _, .text (unit :: rest), _, _, true => .ok (.textAfter (unit :: rest))
  | _, _, .text kind, _, true => .ok (.inSpan kind)
  | _, _, _, kind, _ =>
    if !(value "scopeWhitelist").isMissing || !(value "scopeBlacklist").isMissing then
      scopesOfFields (Fields.keys operands) (value "scopeWhitelist") (value "scopeBlacklist")
        (value "position")
    else if isSingle && kind.text? == some (Text.ofString "word") then .ok (.charUnderCursor true)
    else if isSingle && kind.text? == some (Text.ofString "nonWord") then
      .ok (.charUnderCursor false)
    else
      match (operand? "all").bind (·.conditions), (operand? "any").bind (·.conditions), operand? "not",
        isSingle with
      | some parts, _, _, true => parts.map .all
      | none, some parts, _, true => parts.map .any
      | none, none, some part, true =>
        if part.value.isMissing then .error (.unknown written) else part.condition.map .not
      | _, _, _, _ => .error (.unknown written)

variable [Callable φ]

mutual

/-- The condition that a value is, or why it is none. -/
def ofData : Data φ → Except Refusal Condition
  | .record fields => ofOperands (operandsOf fields) (Data.record fields).written
  | .error name message => .error (.unknown (Data.error name message : Data φ).written)
  | .circular => .error (.unknown (Data.circular : Data φ).written)
  | _ => .error .notRecord

/-- The conditions that the items of a list are. -/
def ofListData : Data φ → Option (Except Refusal (List Condition))
  | .list items => some (ofItems items)
  | _ => none

/-- The conditions that some values are, or why the first one that is none is none. -/
def ofItems : List (Data φ) → Except Refusal (List Condition)
  | [] => .ok []
  | item :: rest =>
    match ofData item with
    | .error refusal => .error refusal
    | .ok condition =>
      match ofItems rest with
      | .error refusal => .error refusal
      | .ok conditions => .ok (condition :: conditions)

/-- The fields of a record as operands. -/
def operandsOf : List (Text × Data φ) → Fields (Operand φ)
  | [] => []
  | (key, value) :: rest => (key, ⟨value, ofData value, ofListData value⟩) :: operandsOf rest

end

theorem operandsOf_get? (key : Text) (fields : List (Text × Data φ)) :
    Fields.get? key (operandsOf fields) = (Fields.get? key fields).map fun value =>
      ⟨value, ofData value, ofListData value⟩ := by
  induction fields with
  | nil => rfl
  | cons field rest ih =>
    obtain ⟨k, v⟩ := field
    simp only [operandsOf, Fields.get?]
    split
    · rfl
    · exact ih

end Condition

/-- What a rule gives as a condition in a configuration: one condition, or several that all have to
hold. -/
inductive ConditionSource where
  /-- One condition. -/
  | one (condition : Condition)
  /-- Several conditions. -/
  | each (conditions : List Condition)

namespace ConditionSource

variable {φ : Type}

/-- The source that a value is, or why it is none. -/
def ofData [Callable φ] (value : Data φ) : Except Refusal ConditionSource :=
  match value with
  | .list items => (Condition.ofItems items).map .each
  | _ => (Condition.ofData value).map .one

/-- A source as configuration data. -/
def toData : ConditionSource → Data φ
  | .one condition => condition.toData
  | .each conditions => .list (Condition.listData conditions)

end ConditionSource

end Pairing
