/-
**Deciding a keystroke.**

* `Outcome` — an edit, with the rule that it comes from.
* `openPair`, `closePair`, `openOrClosePair` — what an applicable rule does with its key.
* `decidePrintable` — the first applicable rule decides, except that an opening of several units whose
  beginning is not there leaves the decision to the next rule.
* `surrounding` — the first active rule whose delimiters stand on both sides of the cursor.
* `decideBackspace`, `decideEnter`, `decideSpace` — what these keys do between delimiters.
* `overlap` — the longest text that ends one text and starts another.
-/

import Pairing.Edit
import Pairing.RuleIndex

namespace Pairing

/-- An edit, with the rule that it comes from. -/
structure Outcome where
  /-- The edit. -/
  edit : Edit
  /-- The rule that decided, if one did. -/
  rule : Option Rule

/-- The longest length up to a bound of a text that ends `a` and starts `b`. -/
def overlapUpTo (a b : Text) : Nat → Nat
  | 0 => 0
  | length + 1 => if (b.take (length + 1)).isSuffixOf a then length + 1 else overlapUpTo a b length

/-- The length of the longest text that ends `a` and starts `b`. -/
def overlap (a b : Text) : Nat :=
  overlapUpTo a b (min a.length b.length)

/-! ### What a rule does with its key -/

/-- Inserts a pair, without the part of the opening that stands before the cursor. Nothing is
inserted where the cursor is escaped, and where the closing is there already. -/
def openPair (key : Text) (rule : Rule) (typed : Nat) : Query Edit := do
  if !(← rule.allows .opening) then return .passThrough key
  if (← read).isEscaped then return .passThrough key
  if (← Query.unmatchedClosing rule.delimiters).isSome then return .passThrough key
  return .insertPair (rule.opening.drop typed ++ rule.closing) rule.closing.length

/-- Inserts a closing, or passes over the one after the cursor if every opening has its closing. -/
def closePair (key : Text) (rule : Rule) : Query Edit := do
  if !(← rule.allows .closing) then return .passThrough key
  if (← Query.unmatchedOpening rule.delimiters).isSome then return .insertText rule.closing
  if ← Query.ofExcept (·.isAfter rule.closing false) then return .move rule.closing.length
  if ← Query.ofExcept (·.isAfter (Text.space :: rule.closing) false) then
    return .move (rule.closing.length + 1)
  return .insertText rule.closing

/-- Passes over a delimiter after the cursor, or inserts it on both sides. What stands next to the
cursor of a delimiter of several units is completed. -/
def openOrClosePair (key : Text) (rule : Rule) : Query Edit := do
  if !(← rule.allows .openingOrClosing) then return .passThrough key
  if (← read).isEscaped then return .passThrough key
  let pair := rule.opening
  if ← Query.ofExcept (·.isAfter pair false) then return .move pair.length
  if 1 < pair.length then
    let ctx ← read
    let opening := pair.drop (overlap ctx.before pair)
    let closing := pair.take (pair.length - overlap pair ctx.after)
    return .insertPair (opening ++ closing) closing.length
  return .insertPair (pair ++ pair) pair.length

/-- Tries applicable rules one after the other. -/
def decideAmong (key : Text) : List Rule → Query Outcome
  | [] => return ⟨.passThrough key, none⟩
  | rule :: rest => do
    if rule.isSymmetric then return ⟨← openOrClosePair key rule, some rule⟩
    if rule.opening.length = 1 then
      if rule.opening = key then return ⟨← openPair key rule 0, some rule⟩
      else return ⟨← closePair key rule, some rule⟩
    match Text.indexOf? key rule.opening with
    | none => throw (.keyOutsideOpening key rule.opening.quoted)
    | some index =>
      let startsHere ←
        if index = 0 then pure true
        else Query.ofExcept (·.isBefore (rule.opening.take index) false)
      if startsHere then return ⟨← openPair key rule index, some rule⟩
      if ← Query.ofExcept (·.isBefore rule.opening false) then
        return ⟨← closePair key rule, some rule⟩
      decideAmong key rest

/-- What typing a key does. -/
def decidePrintable (index : RuleIndex) (key : Text) : Query Outcome := do
  decideAmong key (← Rule.allActive (index.rulesFor key) none)

/-! ### Between delimiters -/

/-- A rule whose delimiters stand on both sides of the cursor. -/
structure Surrounding where
  /-- The rule. -/
  rule : Rule
  /-- Whether one space separates the cursor from each delimiter. -/
  padded : Bool

/-- Whether padding is accepted for an action. -/
def acceptsPadding (action : Option Action) : Bool :=
  action == some .backspace || action == some .enter

/-- How the delimiters of a rule stand around the cursor: apart by one space on each side, where that
is accepted, or next to it. -/
def Context.surroundedBy (ctx : Context) (rule : Rule) (acceptsPadding : Bool) : Option Bool :=
  let hasSpaces := ctx.before.getLast? == some Text.space && ctx.after.head? == some Text.space
  if acceptsPadding && hasSpaces && rule.opening.isSuffixOf ctx.before.dropLast &&
      rule.closing.isPrefixOf ctx.after.tail then some true
  else if rule.opening.isSuffixOf ctx.before && rule.closing.isPrefixOf ctx.after then some false
  else none

/-- The first active rule whose delimiters stand on both sides of the cursor. -/
def surrounding (action : Option Action) : List Rule → Query (Option Surrounding)
  | [] => return none
  | rule :: rest => do
    if ← rule.isActive action then
      match (← read).surroundedBy rule (acceptsPadding action) with
      | some padded => return some ⟨rule, padded⟩
      | none => surrounding action rest
    else surrounding action rest

/-- A key between delimiters: what a surrounding rule does with it. -/
def decideBetween (index : RuleIndex) (key : Text) (action : Action)
    (edit : Context → Surrounding → Edit) : Query Outcome := do
  match ← surrounding (some action) index.all with
  | none => return ⟨.passThrough key, none⟩
  | some found => return ⟨edit (← read) found, some found.rule⟩

/-- Erases both delimiters, or the spaces inside them. -/
def backspaceEdit (_ : Context) (found : Surrounding) : Edit :=
  if found.padded then .replace 1 1 [] 0
  else .replace found.rule.opening.length found.rule.closing.length [] 0

/-- Opens an indented line between the delimiters, in place of the spaces inside them. -/
def enterEdit (ctx : Context) (found : Surrounding) : Edit :=
  let inner := ctx.baseIndent ++ ctx.indentUnit
  let padding := if found.padded then 1 else 0
  .replace padding padding ([Text.newline] ++ inner ++ [Text.newline] ++ ctx.baseIndent)
    (1 + inner.length)

/-- Puts a space on both sides of the cursor. -/
def spaceEdit (_ : Context) (_ : Surrounding) : Edit :=
  .insertPair [Text.space, Text.space] 1

/-- What the backspace key does. -/
def decideBackspace (index : RuleIndex) : Query Outcome :=
  decideBetween index backspaceKey .backspace backspaceEdit

/-- What the enter key does. -/
def decideEnter (index : RuleIndex) : Query Outcome :=
  decideBetween index enterKey .enter enterEdit

/-- What the space bar does. -/
def decideSpace (index : RuleIndex) : Query Outcome :=
  decideBetween index spaceKey .space spaceEdit

end Pairing
