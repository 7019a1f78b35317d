/-
**Simple values.**

A list, a record or a function stands for a simple value where one is asked for: a text, a number, a
truth value or none of them. A record may have functions that give it.

* `Data.simple` — the simple value that a value stands for.
* `Data.plain` — a value where a text is asked for.
* `Data.amount` — a value where a number is asked for.
* `Data.sum`, `Data.difference` — what two values come to. A sum with a text in it is a text.
* `Data.extent` — the length of a value.
-/

import Pairing.Data.Callable
import Pairing.Fault
import Pairing.Number.Sum
import Pairing.Text.Numeral

namespace Pairing.Data

variable {φ : Type}

/-- What is thrown when a record gives no simple value. -/
def noSimpleValue : Thrown :=
  .error "TypeError" "Cannot convert object to primitive value"

/-- What is thrown when an integer of any size meets a number. -/
def mixedNumbers : Thrown :=
  .error "TypeError" "Cannot mix BigInt and other types, use explicit conversions"

/-- The text of a value that is neither a record nor a list nor a function. -/
def simpleText? : Data φ → Option Text
  | .missing => some "undefined"
  | .null => some "null"
  | .bool true => some "true"
  | .bool false => some "false"
  | .number value => some value.text
  | .text value => some value
  | .integer digits => some digits
  | _ => none

/-- The text of an error: its name and its message, or the one of them that is not empty. -/
def errorText (name message : Text) : Text :=
  if name.isEmpty then message
  else if message.isEmpty then name
  else name ++ Text.ofString ": " ++ message

/-- The text of a record that says nothing else. -/
def recordText : Text := "[object Object]"

/-- What a value is asked for. -/
inductive SimpleKind where
  /-- A text. -/
  | text
  /-- A number, or whatever there is. -/
  | any
  deriving DecidableEq, Repr

/-- The names of the functions that a record is asked by, the first one first. -/
def SimpleKind.names : SimpleKind → List Text
  | .text => ["toString", "valueOf"]
  | .any => ["valueOf", "toString"]

section Calls

variable [Callable φ]

/-- What a record gives under the name of a function, if that is a simple value. Every record has a
text, unless it has something else in the place of the function that gives it. -/
def givenUnder (name : Text) (fields : Fields (Data φ)) : Except Thrown (Option (Data Unit)) :=
  match Fields.get? name fields with
  | some (.function body) => (Callable.call body .missing).map fun value =>
      if value.simpleText?.isSome then some value else none
  | some _ => .ok none
  | none => .ok (if name = Text.ofString "toString" then some (.text recordText) else none)

/-- The first simple value that a record gives under some names. -/
def simpleOfFields (fields : Fields (Data φ)) : List Text → Except Thrown (Data Unit)
  | [] => .error noSimpleValue
  | name :: rest => do
    match ← givenUnder name fields with
    | some value => return value
    | none => simpleOfFields fields rest

mutual

/-- A value where a text is asked for, or what is thrown because it has none. -/
def plain : Data φ → Except Thrown Text
  | .list items => (plainItems items).map (Text.join (Text.ofString ","))
  | .record fields =>
    (simpleOfFields fields SimpleKind.text.names).map fun value => value.simpleText?.getD []
  | .circular => .ok recordText
  | .error name message => .ok (errorText name message)
  | .function _ => .ok "function"
  | value => .ok (value.simpleText?.getD [])

/-- The items of a list where a text is asked for. -/
def plainItems : List (Data φ) → Except Thrown (List Text)
  | [] => .ok []
  | item :: rest => do
    let first ← if item.isNullish then .ok [] else plain item
    let others ← plainItems rest
    return first :: others

end

/-- The simple value that a value stands for. -/
def simple (kind : SimpleKind) (value : Data φ) : Except Thrown (Data Unit) :=
  match value with
  | .missing => .ok .missing
  | .null => .ok .null
  | .bool content => .ok (.bool content)
  | .number content => .ok (.number content)
  | .integer digits => .ok (.integer digits)
  | .record fields => simpleOfFields fields kind.names
  | _ => value.plain.map .text

/-- The number that a simple value is, except for an integer of any size. -/
def simpleNumber (value : Data Unit) : Number :=
  match value with
  | .null | .bool false => .zero false
  | .bool true => .ofNat 1
  | .number content => content
  | .text content => content.number
  | _ => .nan

/-- A value where a number is asked for. An integer of any size is none. -/
def amount (value : Data φ) : Except Thrown Number := do
  match ← value.simple .any with
  | .integer _ => throw mixedNumbers
  | found => return simpleNumber found

end Calls

/-! ### Sums and differences -/

/-- The integer that digits denote. -/
def integerValue (digits : Text) : Int :=
  let (negative, magnitude) := Text.signed digits
  let value := (Text.digitsValue? 10 magnitude).getD 0
  if negative then -(value : Int) else value

/-- Two values that are no texts, put together as integers of any size or as numbers. -/
def combined (integers : Int → Int → Int) (numbers : Number → Number → Number) (a b : Data Unit) :
    Except Thrown (Data Unit) :=
  match a, b with
  | .integer x, .integer y => .ok (.integer (Text.ofInt (integers (integerValue x) (integerValue y))))
  | .integer _, _ | _, .integer _ => .error mixedNumbers
  | _, _ => .ok (.number (numbers (simpleNumber a) (simpleNumber b)))

/-- The sum of two simple values. -/
def simpleSum (a b : Data Unit) : Except Thrown (Data Unit) :=
  match a.text?, b.text? with
  | none, none => combined (· + ·) Number.add a b
  | _, _ => .ok (.text (a.simpleText?.getD [] ++ b.simpleText?.getD []))

section Calls

variable [Callable φ]

/-- What two values come to. -/
def sum (a b : Data φ) : Except Thrown (Data Unit) := do
  simpleSum (← a.simple .any) (← b.simple .any)

/-- What is left of a value without another one. -/
def difference (a b : Data φ) : Except Thrown (Data Unit) := do
  combined (· - ·) Number.subtract (← a.simple .any) (← b.simple .any)

/-- The length of a value: that of a text or of a list, what a record says, and how many values a
function asks for. A value without a length has none, and a missing one cannot be looked into. -/
def extent (value : Data φ) : Except Fault (Data φ) :=
  match value with
  | .missing => .error (.missingValue false "length")
  | .null => .error (.missingValue true "length")
  | .text content => .ok (.number (.ofNat content.length))
  | .list items => .ok (.number (.ofNat items.length))
  | .function body => .ok (.number (.ofNat (Callable.asksForValue body).toNat))
  | .record fields => .ok ((Fields.get? (Text.ofString "length") fields).getD .missing)
  | _ => .ok .missing

end Calls

end Pairing.Data
