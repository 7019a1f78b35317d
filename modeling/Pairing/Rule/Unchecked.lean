/-
**Rules that nobody checked.**

A host may build a rule from a definition that was never checked. What the definition says is kept as it
is, and what it leaves out is filled in.

* `UncheckedRule` — a rule whose delimiters and priority may be of any kind.
* `UncheckedRule.usualPriority` — the priority of a rule that names none.
* `UncheckedRule.ofEntry` — the rule of a definition, or why there is none: the definition or one of its
  conditions cannot be looked into, or its delimiters have no lengths to add.
* `UncheckedRule.rule?` — the rule for use, where the delimiters are texts.
* `UncheckedRule.usualPriority_texts` — texts are worth their lengths.
-/

import Pairing.Condition.Unchecked
import Pairing.Rule

namespace Pairing

/-- A value in the place of one that is missing or null. -/
def Data.orElse {φ : Type} (value default : Data φ) : Data φ :=
  if value.isNullish then default else value

/-- A rule whose delimiters and priority may be of any kind. -/
structure UncheckedRule where
  /-- The key that the rule was declared under. -/
  key : Text
  /-- The opening delimiter. -/
  opening : Data HostFunction
  /-- The closing delimiter. -/
  closing : Data HostFunction
  /-- The priority. -/
  priority : Data HostFunction
  /-- The place of the declaration among all declarations. -/
  order : Nat
  /-- Where the rule applies. -/
  applies : Predicate
  /-- Where the rule allows an action. -/
  allows : Action → Predicate

namespace UncheckedRule

/-- What a rule with a condition of its own is worth over one without. -/
def conditionBonus : Nat := 4

/-- The priority of a rule that names none: the longer its delimiters, the higher. -/
def usualPriority (opening closing : Data HostFunction) (hasCondition : Bool) :
    Except Fault (Data Unit) := do
  let openingLength ← opening.extent
  let closingLength ← closing.extent
  let length ← (openingLength.sum closingLength).mapError .thrown
  (length.sum (.number (.ofNat (if hasCondition then conditionBonus else 0)))).mapError .thrown

/-- The rule of a bare closing delimiter: it opens with its key and always applies. -/
def ofClosing (key closing : Text) (order : Nat) : UncheckedRule where
  key := key
  opening := .text key
  closing := .text closing
  priority := .number ((Number.ofNat key.length).add (.ofNat closing.length))
  order := order
  applies := .always true
  allows _ := .always true

/-- Where a rule applies: not on the command line if it is kept off it, only in its languages, and
where its own condition holds. -/
def applicability (offCommandLine : Bool) (inLanguages condition : Option Predicate) : Predicate := do
  if offCommandLine && (← read).mode == .command then return false
  if let some predicate := inLanguages then
    if !(← predicate) then return false
  match condition with
  | some predicate => predicate
  | none => return true

/-- The rule of a definition. -/
def ofEntry (key : Text) (entry : Data HostFunction) (order : Nat) : Except Fault UncheckedRule :=
  match entry with
  | .text closing => .ok (ofClosing key closing order)
  | .missing => .error (.missingValue false "closing")
  | .null => .error (.missingValue true "closing")
  | _ => do
    let source := entry.field "when"
    let condition ← if source.isMissing then pure none else (Predicate.ofSource source).map some
    let closing := entry.field "closing"
    let opening := (entry.field "opening").orElse (.text key)
    let usual ← usualPriority opening closing condition.isSome
    let flag := fun action : Action => Predicate.ofFlag (entry.field action.name)
    let opens ← flag .opening
    let closes ← flag .closing
    let opensOrCloses ← flag .openingOrClosing
    let enters ← flag .enter
    let erases ← flag .backspace
    let spaces ← flag .space
    let languages := entry.field "languages"
    let inLanguages := if languages.isMissing then none else some (.ofLanguageOperand languages)
    let offCommandLine := match entry.field "cmdline" with | .bool value => !value | _ => false
    return {
      key := key
      opening := opening
      closing := closing
      priority := (entry.field "priority").orElse (usual.map fun _ => .constant .missing)
      order := order
      applies := applicability offCommandLine inLanguages condition
      allows := fun
        | .opening => opens
        | .closing => closes
        | .openingOrClosing => opensOrCloses
        | .enter => enters
        | .backspace => erases
        | .space => spaces }

/-- The rule for use. A priority that is no number comes before and after nothing. -/
def rule? (rule : UncheckedRule) : Option Rule := do
  return {
    key := rule.key
    opening := ← rule.opening.text?
    closing := ← rule.closing.text?
    priority := rule.priority.number?.getD .nan
    order := rule.order
    applies := rule.applies
    allows := rule.allows }

@[simp]
theorem usualPriority_texts (opening closing : Text) (hasCondition : Bool) :
    usualPriority (.text opening) (.text closing) hasCondition =
      .ok (.number (((Number.ofNat opening.length).add (.ofNat closing.length)).add
        (.ofNat (if hasCondition then conditionBonus else 0)))) := rfl

end UncheckedRule

/-- The rule for use of a definition. -/
def Rule.ofEntry (key : Text) (entry : Data HostFunction) (order : Nat) : Except Fault Rule := do
  let rule ← UncheckedRule.ofEntry key entry order
  match rule.rule? with
  | some rule => return rule
  | none => throw .delimiterKind

end Pairing
