/-
**Values handed over by a host.**

Rule definitions, settings and thrown values come from a host program as loosely typed data: what a
configuration text can say, and beside it missing values, errors and functions.

* `Data` — such a value, over the type of the functions in it.
* `Data.ofJson` — the value of a configuration text.
* `Data.map` — a value with other functions in it.
* `Data.fields?` — the fields of a record.
* `Data.field` — a field of a value, missing where there is none.
* `Data.entries?` — the fields of a record, a list or a text, as a host enumerates them.
* `Data.texts?`, `Data.isRecord`, `Data.isTruthy` — what kind of value it is.
* `Thrown` — a value that was thrown.
* `Data.errorMessage`, `Data.described` — what a value says when it is thrown.
-/

import Pairing.Json

namespace Pairing

/-- A value handed over by a host, whose functions are of type `φ`. -/
inductive Data (φ : Type) where
  /-- A missing value. -/
  | missing
  /-- The null value. -/
  | null
  /-- A truth value. -/
  | bool (value : Bool)
  /-- A number. -/
  | number (value : Number)
  /-- A text. -/
  | text (value : Text)
  /-- A list. -/
  | list (items : List (Data φ))
  /-- A record, its fields in property order. -/
  | record (fields : List (Text × Data φ))
  /-- An error with its name and its message. -/
  | error (name message : Text)
  /-- An integer of any size, as its digits. -/
  | integer (digits : Text)
  /-- A record that contains itself. -/
  | circular
  /-- A function. -/
  | function (body : φ)

namespace Data

variable {φ : Type}

instance : Inhabited (Data φ) := ⟨.missing⟩

mutual

/-- The value with other functions in it. -/
def map {ψ : Type} (f : φ → ψ) : Data φ → Data ψ
  | .missing => .missing
  | .null => .null
  | .bool value => .bool value
  | .number value => .number value
  | .text value => .text value
  | .list items => .list (mapItems f items)
  | .record fields => .record (mapFields f fields)
  | .error name message => .error name message
  | .integer digits => .integer digits
  | .circular => .circular
  | .function body => .function (f body)

/-- The items of a list with other functions in them. -/
def mapItems {ψ : Type} (f : φ → ψ) : List (Data φ) → List (Data ψ)
  | [] => []
  | item :: rest => map f item :: mapItems f rest

/-- The fields of a record with other functions in them. -/
def mapFields {ψ : Type} (f : φ → ψ) : List (Text × Data φ) → List (Text × Data ψ)
  | [] => []
  | (key, value) :: rest => (key, map f value) :: mapFields f rest

end

mutual

/-- The value of a configuration text. -/
def ofJson : Json → Data φ
  | .null => .null
  | .bool value => .bool value
  | .number value => .number value
  | .text value => .text value
  | .list items => .list (ofJsonItems items)
  | .record fields => .record (ofJsonFields fields)

/-- The items of a list of a configuration text. -/
def ofJsonItems : List Json → List (Data φ)
  | [] => []
  | item :: rest => ofJson item :: ofJsonItems rest

/-- The fields of a record of a configuration text. -/
def ofJsonFields : List (Text × Json) → List (Text × Data φ)
  | [] => []
  | (key, value) :: rest => (key, ofJson value) :: ofJsonFields rest

end

/-- The fields that a record shows. An error shows its name and keeps its message to itself, and a
record that contains itself does so under `self`. -/
def fields? : Data φ → Option (Fields (Data φ))
  | .record fields => some fields
  | .error name _ => some [("name", .text name)]
  | .circular => some [("self", .circular)]
  | _ => none

/-- A field of a value, missing where there is none. -/
def field (name : Text) (value : Data φ) : Data φ :=
  match value with
  | .error errorName message =>
    if name = Text.ofString "name" then .text errorName
    else if name = Text.ofString "message" then .text message
    else .missing
  | _ => (value.fields?.bind (Fields.get? name)).getD .missing

/-- Whether the value is missing. -/
def isMissing : Data φ → Bool
  | .missing => true
  | _ => false

/-- Whether the value is missing or null, and so has no fields to look into. -/
def isNullish : Data φ → Bool
  | .missing | .null => true
  | _ => false

/-- Whether the value is a record. Errors are records. -/
def isRecord : Data φ → Bool
  | .record _ | .error _ _ | .circular => true
  | _ => false

/-- The keys of a record, in property order. -/
def keys (value : Data φ) : List Text :=
  Fields.keys (value.fields?.getD [])

/-- The items of a list. -/
def items? : Data φ → Option (List (Data φ))
  | .list items => some items
  | _ => none

/-- The text of a text. -/
def text? : Data φ → Option Text
  | .text value => some value
  | _ => none

/-- The texts of a list that holds nothing else. -/
def texts? : Data φ → Option (List Text)
  | .list items => items.mapM text?
  | _ => none

/-- Whether the value counts as true where a truth value is asked for. -/
def isTruthy : Data φ → Bool
  | .missing | .null => false
  | .bool value => value
  | .number value => !value.isNaN && value.magnitude != 0
  | .text value => !value.isEmpty
  | .integer digits => digits != [0x30]
  | _ => true

/-- The fields that a host finds when it enumerates a value: those of a record, and the items of a
list or the units of a text under their indexes. Nothing can be enumerated in a missing value. -/
def entries? : Data φ → Option (Fields (Data φ))
  | .missing | .null => none
  | .list items => some (items.mapIdx fun index item => (Text.ofNat index, item))
  | .text value => some (value.mapIdx fun index unit => (Text.ofNat index, .text [unit]))
  | value => some (value.fields?.getD [])

/-- The value under a key that names several entries or one. -/
def asList : Data φ → List (Data φ)
  | .list items => items
  | value => [value]

/-- The number of a number. -/
def number? : Data φ → Option Number
  | .number value => some value
  | _ => none

/-- The truth value of a truth value. -/
def bool? : Data φ → Option Bool
  | .bool value => some value
  | _ => none

/-! ### Thrown values -/

/-- The message of a thrown value: a text itself, or the message of an error. -/
def errorMessage (value : Data φ) : Text :=
  match value with
  | .text message => message
  | _ =>
    match value.field "message" with
    | .text message => message
    | _ => "Unknown error"

/-- The name and the message of a value that is shaped like an error. -/
def described (value : Data φ) : Option Text :=
  match value.field "name", value.field "message" with
  | .text name, .text message => some (name ++ Text.ofString ": " ++ message)
  | _, _ => none

end Data

/-- A value that was thrown. Functions in it are of no use to the library. -/
abbrev Thrown := Data Unit

end Pairing
