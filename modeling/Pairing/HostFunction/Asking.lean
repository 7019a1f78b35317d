/-
**Functions that look at what they are called with.**

A function of a host may look at one field of what it is called with, or call one of its methods. What it
is called with is the context of a keystroke or a text; where a list of conditions is read, it is the
function that reads them.

* `HostFunction.comparing` — the function that compares a field with a value.
* `HostFunction.calling` — the function that calls a method.
-/

import Pairing.HostFunction
import Pairing.Query.Named
import Pairing.Text.Operation

namespace Pairing

/-- Whether two values are the same. Records and lists are the same as nothing else. -/
def Data.isSame (a b : Data Unit) : Bool :=
  match a, b with
  | .missing, .missing | .null, .null => true
  | .bool x, .bool y => x == y
  | .number x, .number y => x.equals y
  | .text x, .text y | .integer x, .integer y => x == y
  | _, _ => false

namespace HostFunction

/-- What is thrown when a member of a missing value is looked at. -/
def lookedInto (isNull : Bool) (member : Text) : Thrown :=
  (Fault.missingValue isNull member).asThrown

/-! ### Fields -/

/-- What a value has under a name. -/
def memberOf (value : Data Unit) (name : Text) : Except Thrown (Data Unit) :=
  match value with
  | .missing => .error (lookedInto false name)
  | .null => .error (lookedInto true name)
  | .text t => .ok (t.member name)
  | _ => .ok (value.field name)

/-- The function that compares a field of what it is called with with a value. -/
def comparing (field : Text) (expected : Data Unit) : HostFunction where
  asksForValue := true
  answer := do return .bool ((← Query.member field).isSame expected)
  give value := (memberOf value field).map fun found => .bool (found.isSame expected)

/-! ### Methods -/

/-- What the function that reads conditions gives for a value: another function. -/
def conditionRead (value : Data Unit) : Except Thrown (Data Unit) :=
  match Predicate.ofConditionData value with
  | .ok _ => .ok (.function ())
  | .error fault => .error fault.asThrown

/-- The names of the methods of a function that give something of no use. -/
def idleMethods : List String :=
  ["bind", "constructor", "hasOwnProperty", "isPrototypeOf", "propertyIsEnumerable", "toLocaleString",
    "toString", "valueOf"]

/-- What comes of calling a method of the function that reads conditions. -/
def invokeReading (name : Text) (args : List (Data Unit)) : Except Thrown (Data Unit) :=
  let second := (args[1]?).getD .missing
  if name = Text.ofString "call" then conditionRead second
  else if name = Text.ofString "apply" then
    match second with
    | .list items => conditionRead ((items[0]?).getD .missing)
    | _ => conditionRead .missing
  else if (idleMethods.map Text.ofString).contains name then .ok (.function ())
  else .error (Fault.notFunction name).asThrown

/-- What comes of calling a method of a value. -/
def invokeOf (value : Data Unit) (name : Text) (args : List (Data Unit)) : Except Thrown (Data Unit) :=
  match value with
  | .missing => .error (lookedInto false name)
  | .null => .error (lookedInto true name)
  | .text t =>
    match TextOperation.named? name with
    | some operation => operation t args
    | none => .error (Fault.notFunction name).asThrown
  | .function _ => invokeReading name args
  | _ => .error (Fault.notFunction name).asThrown

/-- The function that calls a method of what it is called with. -/
def calling (method : Text) (args : List (Data Unit)) : HostFunction where
  asksForValue := true
  answer := Query.invoke method args
  give value := invokeOf value method args

end HostFunction

end Pairing
