/-
**Rules.**

A rule pairs an opening with a closing delimiter. It stands under the key it was declared with, applies
where its predicate holds, and may be switched off for single actions.

* `Action` — the things a rule can be asked to do.
* `Rule` — a rule ready for use.
* `Rule.isActive` — whether a rule applies and allows an action.
* `Rule.firstActive`, `Rule.allActive` — the rules of a list that do.
-/

import Pairing.Query

namespace Pairing

/-- What a rule can be asked to do. -/
inductive Action where
  /-- Insert a pair for an opening. -/
  | opening
  /-- Insert or pass over a closing. -/
  | closing
  /-- Either, where opening and closing are the same. -/
  | openingOrClosing
  /-- Lay out a new line between a pair. -/
  | enter
  /-- Remove a pair. -/
  | backspace
  /-- Pad a pair. -/
  | space
  deriving DecidableEq, Repr

/-- All actions, in the order in which definitions are read. -/
def Action.all : List Action :=
  [.opening, .closing, .openingOrClosing, .enter, .backspace, .space]

/-- The name of an action in a definition. -/
def Action.name : Action → Text
  | .opening => "open"
  | .closing => "close"
  | .openingOrClosing => "openOrClose"
  | .enter => "enter"
  | .backspace => "backspace"
  | .space => "space"

/-- A rule ready for use. -/
structure Rule where
  /-- The key that the rule was declared under. -/
  key : Text
  /-- The opening delimiter. -/
  opening : Text
  /-- The closing delimiter. -/
  closing : Text
  /-- Rules of a higher priority are tried first. -/
  priority : Number
  /-- The place of the declaration among all declarations. -/
  order : Nat
  /-- Where the rule applies. -/
  applies : Predicate
  /-- Where the rule allows an action. -/
  allows : Action → Predicate

namespace Rule

/-- The delimiters of a rule. -/
def delimiters (rule : Rule) : Delimiters :=
  ⟨rule.opening, rule.closing⟩

/-- Whether opening and closing are the same. -/
def isSymmetric (rule : Rule) : Bool :=
  rule.opening == rule.closing

/-- Whether a rule applies and, if an action is given, allows it. -/
def isActive (rule : Rule) (action : Option Action) : Predicate := do
  if !(← rule.applies) then return false
  match action with
  | some a => rule.allows a
  | none => return true

/-- The first active rule. -/
def firstActive (rules : List Rule) (action : Option Action) : Query (Option Rule) :=
  match rules with
  | [] => return none
  | rule :: rest => do if ← rule.isActive action then return some rule else firstActive rest action

/-- All active rules. -/
def allActive (rules : List Rule) (action : Option Action) : Query (List Rule) :=
  match rules with
  | [] => return []
  | rule :: rest => do
    if ← rule.isActive action then return rule :: (← allActive rest action)
    else allActive rest action

end Rule

end Pairing
