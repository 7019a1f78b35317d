/-
**Conditions that nobody checked.**

A host may build rules from data that was never checked. Such data is used as it is: an operand of a
wrong kind never matches, or fails where it is looked into.

* `Predicate.ofLanguageOperand` — the predicate of what a rule gives as its languages.
* `Predicate.ofConditionData` — the predicate of a condition as data. A value that is no record, and a
  record without a known key, cannot be looked into.
* `Predicate.ofSource` — the predicate of what a rule gives as a condition: a function of the host, a
  condition, or a list of conditions that all have to hold.
* `Predicate.ofFlag` — the predicate of an action flag; a flag that is missing allows the action.
* `Query.ofSource`, `Query.ofFlag` — what a host is told when it asks them itself: a truth value, or what
  its own function answers.
* `Query.scopesTold` — what it is told of a scope: nothing, at a place that is none.
* `Predicate.operandsOf_get?` — how a field is found among the operands.
-/

import Pairing.Condition
import Pairing.Context.Reach
import Pairing.Data.Shown
import Pairing.HostFunction

namespace Pairing

namespace Predicate

/-- A predicate that always has the same value. -/
def always (value : Bool) : Predicate :=
  return value

/-- A predicate that always fails. -/
def fails (fault : Fault) : Predicate :=
  throw fault

section Operands

variable {φ : Type}

/-- A predicate on the span at the cursor. No span is what null stands for. -/
def ofSpanOperand (operand : Data φ) : Predicate := do
  let kind ← Query.spanKind
  match operand with
  | .text t => return kind == some t
  | .null => return kind == none
  | _ => return false

variable [Callable φ]

/-- A predicate on the text next to the cursor, given the text looked for and how far it reaches by its
length. Looking into a missing value fails, and a value of another kind is next to no cursor. -/
def ofTextOperand (operand : Data φ) (reach : Context → Data φ → Except Thrown (Data Unit))
    (test : Context → Text → Except Fault Bool) : Predicate :=
  match operand with
  | .text t => Query.ofExcept (test · t)
  | _ =>
    match operand.extent with
    | .error fault => fails fault
    | .ok length => Query.ofExcept fun ctx => ((reach ctx length).map fun _ => false).mapError .thrown

/-- A predicate on a text that ends at the cursor. -/
def ofTextBefore (operand : Data φ) : Predicate :=
  ofTextOperand operand Context.reachBefore fun ctx t => .ok (ctx.endsBefore t)

/-- A predicate on a text that stands at the cursor. -/
def ofTextAfter (operand : Data φ) : Predicate :=
  ofTextOperand operand Context.reachAfter fun ctx t => .ok (ctx.startsAfter t)

/-- What the scopes that a condition gives answer about a scope. A text is searched for the name of the
scope, and a record may have a function that tells. -/
def scopeAnswer (operand : Data φ) (scope : Text) : Except Fault (Data Unit) :=
  match operand with
  | .list items => .ok (.bool (items.any fun item => item.text? == some scope))
  | .text t => .ok (.bool (t.contains scope))
  | .missing => .error (.missingValue false "includes")
  | .null => .error (.missingValue true "includes")
  | .record fields =>
    match Data.ownFunction? "includes" fields with
    | some body => (Callable.call body (.text scope)).mapError .thrown
    | none => .error (.notFunction "scopes.includes")
  | _ => .error (.notFunction "scopes.includes")

/-- Whether a scope belongs to what a condition gives as its scopes. -/
def scopeBelongsTo (operand : Data φ) (scope : Text) : Except Fault Bool :=
  (scopeAnswer operand scope).map Data.isTruthy

/-- The place that a condition gives, the cursor where it gives none. -/
def placeOf? (place : Data φ) : Option ScopePlace :=
  match place with
  | .missing => some .inside
  | .text name => Condition.placeOfName? name
  | _ => none

/-- A predicate on the scope at a place. Nothing is known at a place of another name. -/
def ofScopeOperand (scopes place : Data φ) : Predicate :=
  match placeOf? place with
  | some p => Query.scopeMatches (scopeBelongsTo scopes) p
  | none => always false

/-- The filetypes that some values handle, of which the texts are languages. The table of languages is
asked for the text of every value. -/
def filetypesAmong (values : List (Data φ)) : Except Fault (List Text) := do
  let handled ← values.mapM fun value => do tableFiletypes (← value.plain.mapError .thrown)
  return distinct (values.filterMap Data.text? ++ handled.flatten)

/-- A predicate on the language at the cursor. Only texts are languages. -/
def ofLanguageOperand (operand : Data φ) : Predicate :=
  Query.isLanguageAmong (operand.asList.filterMap Data.text?) (filetypesAmong operand.asList)

end Operands

/-- Whether all of some predicates hold, up to the first one that does not. -/
def allOf : List Predicate → Predicate
  | [] => always true
  | predicate :: rest => do if ← predicate then allOf rest else return false

/-- Whether some predicate of several holds, up to the first one that does. -/
def anyOf : List Predicate → Predicate
  | [] => always false
  | predicate :: rest => do if ← predicate then return true else anyOf rest

/-- The negation of a predicate. -/
def negation (predicate : Predicate) : Predicate := do
  return !(← predicate)

/-! ### Conditions as data -/

/-- What a record gives as its parts. -/
inductive Parts where
  /-- Conditions. -/
  | predicates (parts : List Predicate)
  /-- What a function of its own gives in their place. -/
  | given (value : Data Unit)

/-- What a list of parts is asked when they are looked at. -/
inductive Quantifier where
  /-- Whether all of them hold. -/
  | all
  /-- Whether some of them hold. -/
  | any
  deriving DecidableEq, Repr

/-- The name of the question. -/
def Quantifier.member : Quantifier → Text
  | .all => "every"
  | .any => "some"

/-- What a list without parts answers. -/
def Quantifier.ofNone : Quantifier → Bool
  | .all => true
  | .any => false

/-- The predicate on all or some of the parts. What stands in the place of parts is looked at as it is,
and holds no predicates. -/
def ofParts (quantifier : Quantifier) (parts : Parts) : Predicate :=
  match parts, quantifier with
  | .predicates parts, .all => allOf parts
  | .predicates parts, .any => anyOf parts
  | .given (.list []), _ => always quantifier.ofNone
  | .given (.list _), _ => fails (.notFunction "part")
  | .given .missing, _ => fails (.missingValue false quantifier.member)
  | .given .null, _ => fails (.missingValue true quantifier.member)
  | .given _, _ => fails (.notFunction (Text.ofString "parts." ++ quantifier.member))

section Conditions

variable {φ : Type} [Callable φ]

/-- The value of a field, with what it is as a condition and as parts of one. -/
structure Operand (φ : Type) where
  /-- The value. -/
  value : Data φ
  /-- Its predicate as a condition. -/
  condition : Except Fault Predicate
  /-- What it gives as parts. -/
  parts : Except Fault Parts

/-- The predicate of a record of operands. The first known key decides what the condition is; a
record without one is taken for a negation of nothing. -/
def ofOperands (operands : Fields (Operand φ)) : Except Fault Predicate :=
  let operand? := fun key : String => Fields.get? (Text.ofString key) operands
  let place := ((operand? "position").map (·.value)).getD .missing
  match operand? "textBefore", operand? "textAfter", operand? "inSpan", operand? "scopeWhitelist",
    operand? "scopeBlacklist", operand? "charUnderCursor", operand? "all", operand? "any" with
  | some t, _, _, _, _, _, _, _ => .ok (ofTextBefore t.value)
  | _, some t, _, _, _, _, _, _ => .ok (ofTextAfter t.value)
  | _, _, some kind, _, _, _, _, _ => .ok (ofSpanOperand kind.value)
  | _, _, _, some scopes, _, _, _, _ => .ok (ofScopeOperand scopes.value place)
  | _, _, _, _, some scopes, _, _, _ => .ok (negation (ofScopeOperand scopes.value place))
  | _, _, _, _, _, some kind, _, _ =>
    let isWord := kind.value.text? == some (Text.ofString "word")
    .ok (Query.ofContext fun ctx => ctx.charUnderCursor.isWord == isWord)
  | _, _, _, _, _, _, some operand, _ => operand.parts.map (ofParts .all)
  | _, _, _, _, _, _, _, some operand => operand.parts.map (ofParts .any)
  | _, _, _, _, _, _, _, _ =>
    match operand? "not" with
    | some operand => operand.condition.map negation
    | none => .error .notCondition

mutual

/-- The predicate of a condition as data. -/
def ofConditionData : Data φ → Except Fault Predicate
  | .record fields => ofOperands (operandsOf fields)
  | _ => .error .notCondition

/-- What a value gives as parts of a condition. A record may have a function of its own that gives
them. -/
def partsOf : Data φ → Except Fault Parts
  | .list items => (ofConditionItems items).map .predicates
  | .record fields =>
    match Data.ownFunction? "map" fields with
    | some body => ((Callable.call body (.function ())).map .given).mapError .thrown
    | none => .error (.notFunction "map")
  | .missing => .error (.missingValue false "map")
  | .null => .error (.missingValue true "map")
  | _ => .error (.notFunction "map")

/-- The predicates of conditions as data. -/
def ofConditionItems : List (Data φ) → Except Fault (List Predicate)
  | [] => .ok []
  | item :: rest =>
    match ofConditionData item with
    | .error fault => .error fault
    | .ok predicate => (ofConditionItems rest).map (predicate :: ·)

/-- The fields of a record as operands. -/
def operandsOf : List (Text × Data φ) → Fields (Operand φ)
  | [] => []
  | (key, value) :: rest => (key, ⟨value, ofConditionData value, partsOf value⟩) :: operandsOf rest

end

end Conditions

/-- The predicate of what a rule gives as a condition. -/
def ofSource : Data HostFunction → Except Fault Predicate
  | .function body => .ok body.predicate
  | .list items => (ofConditionItems items).map allOf
  | value => ofConditionData value

/-- The predicate of an action flag. -/
def ofFlag : Data HostFunction → Except Fault Predicate
  | .missing => .ok (always true)
  | .bool value => .ok (always value)
  | source => ofSource source

/-! ### What a host is told -/

/-- The scopes and the place that a record asks for, if that is what it asks. -/
def scopesAsked? (fields : Fields (Data HostFunction)) : Option (Data HostFunction × Data HostFunction) :=
  let value? := fun key : String => Fields.get? (Text.ofString key) fields
  if (value? "textBefore").isSome || (value? "textAfter").isSome || (value? "inSpan").isSome then none
  else (value? "scopeWhitelist").map fun scopes => (scopes, (value? "position").getD .missing)

end Predicate

namespace Query

/-- What a host is told of a predicate. -/
def told (predicate : Predicate) : Query (Data Unit) := do
  return .bool (← predicate)

section Scopes

variable {φ : Type} [Callable φ]

/-- What a host is told of a scope: what the scopes that are given answer. No scope belongs to none. -/
def scopeTold (scopes : Data φ) (scope : Option Text) : Query (Data Unit) :=
  match scope with
  | some name => ofExcept fun _ => Predicate.scopeAnswer scopes name
  | none => return .bool false

/-- What a host is told of the scope at a place. Nothing is known at a place of another name. -/
def scopesTold (scopes place : Data φ) : Query (Data Unit) :=
  match Predicate.placeOf? place with
  | none => return .missing
  | some .inside => scopeHere >>= scopeTold scopes
  | some .after => scopeBefore >>= scopeTold scopes
  | some .insideOrAfter => do
    let here ← scopeHere >>= scopeTold scopes
    if here.isTruthy then return here
    scopeBefore >>= scopeTold scopes

end Scopes

/-- What a host is told of what a rule gives as a condition. -/
def ofSource (source : Data HostFunction) : Except Fault (Query (Data Unit)) :=
  match source with
  | .function body => .ok body.answer
  | .record fields =>
    match Predicate.scopesAsked? fields with
    | some (scopes, place) => .ok (scopesTold scopes place)
    | none => (Predicate.ofSource source).map told
  | _ => (Predicate.ofSource source).map told

/-- What a host is told of an action flag. -/
def ofFlag (flag : Data HostFunction) : Except Fault (Query (Data Unit)) :=
  match flag with
  | .missing | .bool _ => (Predicate.ofFlag flag).map told
  | source => ofSource source

end Query

namespace Predicate

/-! ### Checked conditions -/

theorem operandsOf_get? {φ : Type} [Callable φ] (key : Text) (fields : List (Text × Data φ)) :
    Fields.get? key (operandsOf fields) = (Fields.get? key fields).map fun value =>
      ⟨value, ofConditionData value, partsOf value⟩ := by
  induction fields with
  | nil => rfl
  | cons field rest ih =>
    obtain ⟨k, v⟩ := field
    simp only [operandsOf, Fields.get?]
    split
    · rfl
    · exact ih

theorem scopeBelongsTo_textsData {φ : Type} [Callable φ] (scopes : List Text) :
    scopeBelongsTo (Condition.textsData scopes : Data φ) = fun scope => .ok (scopes.contains scope) := by
  funext scope
  simp only [Condition.textsData, scopeBelongsTo, scopeAnswer, Except.map, Data.isTruthy, List.any_map,
    List.contains_eq_any_beq]
  congr 2
  funext t
  exact BEq.comm

end Predicate

end Pairing
