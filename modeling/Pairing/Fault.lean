/-
**What can go wrong in a decision.**

* `Fault` — the causes: a function or an oracle of the host threw a value, a rule broke an assumption,
  or rule data that nobody checked is not of the kind that it is used as.
* `Fault.name`, `Fault.message` — the kind and the wording of a fault.
-/

import Pairing.Data
import Pairing.Text.Quoted

namespace Pairing

/-- A side of the cursor. -/
inductive Side where
  /-- Before the cursor. -/
  | before
  /-- After the cursor. -/
  | after
  deriving DecidableEq, Repr

/-- A side as a message names it. -/
def Side.text : Side → Text
  | .before => "before"
  | .after => "after"

/-- Why a decision cannot be made. -/
inductive Fault where
  /-- A function or an oracle of the host threw a value. -/
  | thrown (value : Thrown)
  /-- The text next to the cursor was compared with the empty text. -/
  | emptyComparison (side : Side)
  /-- A rule was found under a key that its opening does not contain. The opening comes as it is
  written. -/
  | keyOutsideOpening (key opening : Text)
  /-- A table was asked for a name that every record has, and the member found is no list. -/
  | inheritedName (isFunction : Bool)
  /-- A member of a missing or null value was asked for. -/
  | missingValue (isNull : Bool) (member : Text)
  /-- What is called under a name is no function. -/
  | notFunction (name : Text)
  /-- A condition was looked for in what is no record of a known kind. -/
  | notCondition
  /-- A delimiter is no text. -/
  | delimiterKind

/-- The name of the kind of a fault. A thrown value may have none. -/
def Fault.name : Fault → Option Text
  | .thrown value => (value.field "name").text?
  | .emptyComparison _ | .keyOutsideOpening _ _ => some "RuleInvariantError"
  | .inheritedName _ | .missingValue _ _ | .notFunction _ | .notCondition | .delimiterKind =>
    some "TypeError"

/-- The wording of a fault. -/
def Fault.message : Fault → Text
  | .thrown value => value.errorMessage
  | .emptyComparison side =>
    Text.ofString "Text compared " ++ side.text ++ Text.ofString " the cursor must not be empty"
  | .keyOutsideOpening key opening =>
    Text.ofString "Key " ++ key.quoted ++ Text.ofString " is not part of the opening " ++ opening
  | .inheritedName isFunction =>
    Text.ofString (if isFunction then "function" else "object") ++
      Text.ofString " is not iterable (cannot read property Symbol(Symbol.iterator))"
  | .missingValue isNull member =>
    Text.ofString "Cannot read properties of " ++
      Text.ofString (if isNull then "null" else "undefined") ++
      Text.ofString " (reading '" ++ member ++ Text.ofString "')"
  | .notFunction name => name ++ Text.ofString " is not a function"
  | .notCondition => "This is no condition to look into"
  | .delimiterKind => "A delimiter must be a text"

/-- A fault as a host's value, as a log shows it. -/
def Fault.asThrown : Fault → Thrown
  | .thrown value => value
  | fault => .error (fault.name.getD []) fault.message

end Pairing
