/-
**Deciding by rules that nobody checked.**

A host may build an index of rules that nobody checked, and their delimiters may be of any kind. Keys are
decided by them as by other rules. A delimiter that is no text stands at no cursor, but it can be put
into a text, and it stands for one where a text is asked for.

* `UncheckedIndex` — such an index, with `UncheckedIndex.checked?` where all delimiters are texts.
* `UncheckedIndex.query` — what a key does.
* `LooseVerdict` — the edit for a key, and how it is recorded.
* `UncheckedIndex.decide` — the verdict on a key.
-/

import Pairing.Data.Shown
import Pairing.Edit.Unchecked
import Pairing.Rule.Unchecked
import Pairing.Verdict

namespace Pairing

/-- An index of rules that nobody checked. -/
structure UncheckedIndex where
  /-- The rules that each key reaches, in the order in which they are tried. -/
  byKey : Fields (List UncheckedRule)
  /-- Every rule once, in the order in which they are tried. -/
  all : List UncheckedRule

namespace UncheckedIndex

/-- The index for use, where all delimiters are texts. -/
def checked? (index : UncheckedIndex) : Option RuleIndex := do
  let all ← index.all.mapM UncheckedRule.rule?
  let byKey ← index.byKey.mapM fun (key, rules) => do return (key, ← rules.mapM UncheckedRule.rule?)
  return ⟨byKey, all⟩

end UncheckedIndex

namespace UncheckedRule

/-- Whether a rule applies and, if an action is given, allows it. -/
def isActive (rule : UncheckedRule) (action : Option Action) : Predicate := do
  if !(← rule.applies) then return false
  match action with
  | some a => rule.allows a
  | none => return true

/-- All rules that apply. -/
def allActive : List UncheckedRule → Query (List UncheckedRule)
  | [] => return []
  | rule :: rest => do
    if ← rule.isActive none then return rule :: (← allActive rest) else allActive rest

/-- Whether opening and closing are the same. Functions are the same as nothing. -/
def isSymmetric (rule : UncheckedRule) : Bool :=
  match rule.opening, rule.closing with
  | .text a, .text b | .integer a, .integer b => a == b
  | .number a, .number b => a.equals b
  | .bool a, .bool b => a == b
  | _, _ => false

/-- The delimiters of a rule, as the texts that they stand for. A delimiter without a text is empty. -/
def delimiters (rule : UncheckedRule) : Delimiters :=
  ⟨rule.opening.plain.toOption.getD [], rule.closing.plain.toOption.getD []⟩

end UncheckedRule

namespace LooseDecision

/-- An edit, with the rule that it comes from. -/
structure Outcome where
  /-- The edit. -/
  edit : LooseEdit
  /-- The rule that decided, if one did. -/
  rule : Option UncheckedRule

/-- What comes of a value in the middle of a decision, or the fault that it is. -/
def attempt {α : Type} (value : Except Fault α) : Query α :=
  Query.ofExcept fun _ => value

/-- What comes of a value in the middle of a decision, or the fault of what it throws. -/
def attemptThrown {α : Type} (value : Except Thrown α) : Query α :=
  attempt (value.mapError .thrown)

/-- The length of a delimiter. -/
def lengthOf (delimiter : Data HostFunction) : Query (Data HostFunction) :=
  attempt delimiter.extent

/-- Whether a delimiter has a length of one. -/
def isSingle (delimiter : Data HostFunction) : Query Bool := do
  return (← lengthOf delimiter).number?.any fun length => length.equals (.ofNat 1)

/-- The sum of two values as a delimiter. -/
def joined (a b : Data HostFunction) : Query (Data HostFunction) := do
  return LooseEdit.part (← attemptThrown (a.sum b))

/-- Whether a value stands at the cursor. Nothing stands at a cursor that is lost. -/
def isAfter (lost : Bool) (value : Data HostFunction) : Predicate :=
  .ofTextOperand value Context.reachAfter fun ctx t => do
    let found ← ctx.isAfter t false
    return found && !lost

/-- Whether a value ends at the cursor. -/
def isBefore (lost : Bool) (value : Data HostFunction) : Predicate :=
  .ofTextOperand value Context.reachBefore fun ctx t => do
    let found ← ctx.isBefore t false
    return found && !lost

/-- Where a key is in a delimiter. A record may have a function of its own that tells. -/
def keyPlace (key : Text) (delimiter : Data HostFunction) : Except Fault (Data Unit) :=
  let place := fun found : Option Nat => found.elim (.number (.ofInt (-1))) fun i => .number (.ofNat i)
  match delimiter with
  | .text t => .ok (place (Text.indexOf? key t))
  | .list items => .ok (place (items.findIdx? fun item => item.text? == some key))
  | .record fields =>
    match Data.ownFunction? "indexOf" fields with
    | some body => (body.give (.text key)).mapError .thrown
    | none => .error (.notFunction "rule.opening.indexOf")
  | _ => .error (.notFunction "rule.opening.indexOf")

/-- The part of a delimiter between two offsets. A record may have a function of its own that gives
it. -/
def between (delimiter : Data HostFunction) (start stop : Data Unit) :
    Except Fault (Data HostFunction) := do
  let offset := fun value : Data Unit => (value.amount.map (·.truncated)).mapError Fault.thrown
  match delimiter with
  | .text t =>
    let first ← offset start
    let last ← if stop.isMissing then pure (t.length : Int) else offset stop
    return .text (t.slice first last)
  | .list items =>
    let first ← offset start
    let last ← if stop.isMissing then pure (items.length : Int) else offset stop
    return .list ((items.take (Text.endpoint items.length last)).drop (Text.endpoint items.length first))
  | .record fields =>
    match Data.ownFunction? "slice" fields with
    | some body => ((body.give start).map LooseEdit.part).mapError .thrown
    | none => throw (.notFunction "rule.opening.slice")
  | _ => throw (.notFunction "rule.opening.slice")

/-! ### What a rule does with its key -/

/-- Inserts a pair, without the part of the opening that was typed. -/
def openPair (key : Text) (rule : UncheckedRule) (typed : Data Unit) : Query LooseEdit := do
  if !(← rule.allows .opening) then return .passThrough key
  if (← read).isEscaped then return .passThrough key
  if (← Query.unmatchedClosing rule.delimiters).isSome then return .passThrough key
  let opening ← attempt (between rule.opening typed .missing)
  let pair ← joined opening rule.closing
  let closingLength ← lengthOf rule.closing
  attempt (LooseEdit.insertPair pair closingLength)

/-- Inserts a closing, or passes over the one after the cursor. -/
def closePair (lost : Bool) (key : Text) (rule : UncheckedRule) : Query LooseEdit := do
  if !(← rule.allows .closing) then return .passThrough key
  if (← Query.unmatchedOpening rule.delimiters).isSome then
    return ← attempt (LooseEdit.insertText rule.closing)
  if ← isAfter lost rule.closing then return .move (← lengthOf rule.closing)
  if ← isAfter lost (← joined (.text [Text.space]) rule.closing) then
    return .move (← joined (← lengthOf rule.closing) (LooseEdit.whole 1))
  attempt (LooseEdit.insertText rule.closing)

/-- Passes over a delimiter after the cursor, or inserts it on both sides. -/
def openOrClosePair (lost : Bool) (key : Text) (rule : UncheckedRule) : Query LooseEdit := do
  if !(← rule.allows .openingOrClosing) then return .passThrough key
  if (← read).isEscaped then return .passThrough key
  let pair := rule.opening
  let length ← lengthOf pair
  if ← isAfter lost pair then return .move length
  match pair with
  | .text t =>
    if 1 < t.length then
      let ctx ← read
      let opening := t.drop (overlap ctx.before t)
      let closing := t.take (t.length - overlap t ctx.after)
      return ← attempt (LooseEdit.insertPair (.text (opening ++ closing)) (LooseEdit.whole closing.length))
    return ← attempt (LooseEdit.insertPair (.text (t ++ t)) length)
  | _ => attempt (LooseEdit.insertPair (← joined pair pair) length)

/-- The rule that a key opens or closes by its opening of several units, if it does so. -/
def decideLong (lost : Bool) (key : Text) (rule : UncheckedRule) : Query (Option LooseEdit) := do
  let place ← attempt (keyPlace key rule.opening)
  if place.number?.any fun n => n.equals (.ofInt (-1)) then
    match rule.opening.written with
    | .as form => throw (.keyOutsideOpening key form)
    | .absent => throw (.keyOutsideOpening key "undefined")
    | .refused cause => throw (.thrown cause)
  let isFirst := place.number?.any fun n => n.equals (.zero false)
  let startsHere ←
    if isFirst then pure true
    else isBefore lost (← attempt (between rule.opening (.number (.zero false)) place))
  if startsHere then return some (← openPair key rule place)
  if ← isBefore lost rule.opening then return some (← closePair lost key rule)
  return none

/-- Tries applicable rules one after the other. -/
def decideAmong (lost : Bool) (key : Text) : List UncheckedRule → Query Outcome
  | [] => return ⟨.passThrough key, none⟩
  | rule :: rest => do
    if rule.isSymmetric then return ⟨← openOrClosePair lost key rule, some rule⟩
    if ← isSingle rule.opening then
      if rule.opening.text? == some key then
        return ⟨← openPair key rule (.number (.zero false)), some rule⟩
      else return ⟨← closePair lost key rule, some rule⟩
    match ← decideLong lost key rule with
    | some edit => return ⟨edit, some rule⟩
    | none => decideAmong lost key rest

/-! ### Between delimiters -/

/-- Whether the delimiters of a rule stand around a place between two texts. -/
def standsAround (rule : UncheckedRule) (before after : Text) : Query Bool := do
  if (← attemptThrown rule.opening.plain).isSuffixOf before then
    return (← attemptThrown rule.closing.plain).isPrefixOf after
  return false

/-- The first active rule whose delimiters stand around the cursor, and whether one space separates the
cursor from each of them. -/
def surrounding (action : Action) : List UncheckedRule → Query (Option (UncheckedRule × Bool))
  | [] => return none
  | rule :: rest => do
    if ← rule.isActive (some action) then
      let ctx ← read
      let hasSpaces := ctx.before.getLast? == some Text.space && ctx.after.head? == some Text.space
      let padded ←
        if acceptsPadding (some action) && hasSpaces then
          standsAround rule ctx.before.dropLast ctx.after.tail
        else pure false
      if padded then return some (rule, true)
      if ← standsAround rule ctx.before ctx.after then return some (rule, false)
    surrounding action rest

/-- A key between delimiters: what a surrounding rule does with it. -/
def decideBetween (index : UncheckedIndex) (key : Text) (action : Action)
    (edit : UncheckedRule → Bool → Query LooseEdit) : Query Outcome := do
  match ← surrounding action index.all with
  | none => return ⟨.passThrough key, none⟩
  | some (rule, padded) => return ⟨← edit rule padded, some rule⟩

/-- Erases both delimiters, or the spaces inside them. -/
def backspaceEdit (rule : UncheckedRule) (padded : Bool) : Query LooseEdit := do
  let none := LooseEdit.whole 0
  let one := LooseEdit.whole 1
  if padded then return .replace one one (.text []) none
  return .replace (← lengthOf rule.opening) (← lengthOf rule.closing) (.text []) none

/-- An edit whose parts are texts and numbers. -/
def ofEdit : Edit → LooseEdit
  | .passThrough key => .passThrough key
  | .move offset => .move (LooseEdit.whole offset)
  | .replace before after text offset =>
    .replace (LooseEdit.whole before) (LooseEdit.whole after) (.text text) (LooseEdit.whole offset)

/-- A rule that no edit looks into. -/
def noRule : Rule :=
  ⟨[], [], [], .nan, 0, .always true, fun _ => .always true⟩

/-- An edit that does not look at the delimiters. -/
def plainEdit (edit : Context → Surrounding → Edit) (_ : UncheckedRule) (padded : Bool) :
    Query LooseEdit :=
  Query.ofContext fun ctx => ofEdit (edit ctx ⟨noRule, padded⟩)

end LooseDecision

/-- What a key of a kind does. -/
def UncheckedIndex.query (index : UncheckedIndex) (kind : KeyKind) (key : Text) (lost : Bool) :
    Query LooseDecision.Outcome :=
  match kind with
  | .printable => do
    let rules := (Fields.get? key index.byKey).getD []
    LooseDecision.decideAmong lost key (← UncheckedRule.allActive rules)
  | .backspace => LooseDecision.decideBetween index backspaceKey .backspace LooseDecision.backspaceEdit
  | .enter => LooseDecision.decideBetween index enterKey .enter (LooseDecision.plainEdit enterEdit)
  | .space => LooseDecision.decideBetween index spaceKey .space (LooseDecision.plainEdit spaceEdit)

/-! ### Verdicts -/

/-- The verdict on a key by rules that nobody checked. -/
structure LooseVerdict where
  /-- What to do. -/
  edit : LooseEdit
  /-- The record, without the rule that decided. -/
  record : DecisionRecord
  /-- The rule that decided, if one did. -/
  rule : Option UncheckedRule
  /-- What was learned about the context. -/
  memo : Memo

namespace LooseVerdict

/-- The verdict of an outcome, or of the fault that came instead of it. -/
def ofOutcome (key : Text) (kind : KeyKind) (outcome : Except Fault LooseDecision.Outcome)
    (memo : Memo) : LooseVerdict :=
  match outcome with
  | .ok ⟨edit, rule⟩ => ⟨edit, ⟨key, kind, edit.kind, none, none⟩, rule, memo⟩
  | .error fault =>
    ⟨.passThrough key, ⟨key, kind, .passThrough, none, some fault.message⟩, none, memo⟩

/-- The wording of the record, or what is thrown because a delimiter has no text. -/
def message (verdict : LooseVerdict) : Except Thrown Text :=
  match verdict.rule with
  | none => .ok verdict.record.text
  | some rule => do
    let name : RuleName := ⟨rule.key, ← rule.opening.plain, ← rule.closing.plain⟩
    return { verdict.record with rule := some name }.text

end LooseVerdict

/-- The verdict on a key of a kind, in the context of a cursor that may be lost. -/
def UncheckedIndex.decide (index : UncheckedIndex) (kind : KeyKind) (key : Text) (lost : Bool)
    (ctx : Context) : LooseVerdict :=
  let (outcome, memo) := (index.query kind key lost).run' ctx {}
  .ofOutcome key kind outcome memo

end Pairing
