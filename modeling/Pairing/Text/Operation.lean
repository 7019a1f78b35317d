/-
**Operations on texts by name.**

A function of a host that is called with a text may ask for an operation on it by its name, with values
of any kind as arguments.

* `TextOperation` — what such an operation gives for a text and its arguments.
* `TextOperation.named?` — the operation of a name.
* `Text.member` — what a text has under a name: its length, a unit of it, or an operation.
-/

import Pairing.Data.Simple
import Pairing.Language
import Pairing.Text.Composed
import Pairing.Text.LetterCase

namespace Pairing

/-- What an operation gives for a text and some arguments. -/
abbrev TextOperation := Text → List (Data Unit) → Except Thrown (Data Unit)

namespace TextOperation

/-- The longest text there is. -/
def longest : Int := 536870888

/-- What is thrown when a number is out of the range of an operation. -/
def outOfRange : Thrown :=
  .error "RangeError" "Invalid value for an operation on a text"

/-! ### Arguments -/

/-- An argument, missing where there are not so many. -/
def argument (args : List (Data Unit)) (index : Nat) : Data Unit :=
  (args[index]?).getD .missing

/-- An argument as a text. -/
def textArgument (args : List (Data Unit)) (index : Nat) : Except Thrown Text :=
  (argument args index).plain

/-- An argument as an offset. -/
def offsetArgument (args : List (Data Unit)) (index : Nat) : Except Thrown Int :=
  (argument args index).amount.map (·.truncated)

/-- An argument as an offset, with a default where it is missing. -/
def offsetArgumentOr (default : Int) (args : List (Data Unit)) (index : Nat) : Except Thrown Int :=
  if (argument args index).isMissing then .ok default else offsetArgument args index

/-- An offset moved into a text. -/
def inside (t : Text) (offset : Int) : Nat :=
  min (max 0 offset).toNat t.length

/-- A whole number as a value. -/
def wholeData (i : Int) : Data Unit :=
  .number (.ofInt i)

/-! ### Kinds of operations -/

/-- An operation without arguments. -/
def plain (f : Text → Text) : TextOperation :=
  fun t _ => .ok (.text (f t))

/-- The unit at an offset, given what stands for one that is not there. -/
def unitAt (found : UInt16 → Data Unit) (absent : Data Unit) (fromEnd : Bool) : TextOperation :=
  fun t args => do
    let offset ← offsetArgument args 0
    let place := if fromEnd && offset < 0 then offset + t.length else offset
    return if place < 0 then absent else (t[place.toNat]?).elim absent found

/-- The code point at an offset. -/
def codePointAt : TextOperation :=
  fun t args => do
    let offset ← offsetArgument args 0
    if offset < 0 then return .missing
    return (Text.codePoints (t.drop offset.toNat)).head?.elim .missing fun point => wholeData point

/-- A text with others after it. -/
def concat : TextOperation :=
  fun t args => do
    let others ← args.mapM (·.plain)
    return .text (t ++ others.flatten)

/-- The offset of the first occurrence of a text from an offset on. -/
def searchFrom (t part : Text) (start : Nat) : Option Nat :=
  (Text.indexOf? part (t.drop start)).map (· + start)

/-- The offset of the last occurrence of a text that starts no later than an offset. -/
def searchBack (t part : Text) : Nat → Option Nat
  | 0 => if part.isPrefixOf t then some 0 else none
  | start + 1 =>
    if part.isPrefixOf (t.drop (start + 1)) then some (start + 1) else searchBack t part start

/-- The offset of an occurrence as a value. -/
def placeData (place : Option Nat) : Data Unit :=
  place.elim (wholeData (-1)) fun index => wholeData index

/-- Where a text occurs first, or whether it occurs. -/
def search (answer : Option Nat → Data Unit) : TextOperation :=
  fun t args => do
    let part ← textArgument args 0
    let start ← offsetArgument args 1
    return answer (searchFrom t part (inside t start))

/-- Where a text occurs last. -/
def searchLast : TextOperation :=
  fun t args => do
    let part ← textArgument args 0
    let start ← (argument args 1).amount
    let bound := if start.isNaN then t.length else inside t start.truncated
    if t.length < part.length then return wholeData (-1)
    return placeData (searchBack t part (min bound (t.length - part.length)))

/-- Whether a text stands at an offset. -/
def startsWith : TextOperation :=
  fun t args => do
    let part ← textArgument args 0
    let start ← offsetArgument args 1
    return .bool (part.isPrefixOf (t.drop (inside t start)))

/-- Whether a text ends at an offset. -/
def endsWith : TextOperation :=
  fun t args => do
    let part ← textArgument args 0
    let stop ← offsetArgumentOr t.length args 1
    return .bool (part.isSuffixOf (t.take (inside t stop)))

/-- A filler repeated up to a length. -/
def filling (filler : Text) (length : Nat) : Text :=
  ((List.replicate (length / filler.length + 1) filler).flatten).take length

/-- A text filled up to a length on one side. -/
def pad (put : Text → Text → Text) : TextOperation :=
  fun t args => do
    let length ← offsetArgument args 0
    if length ≤ t.length then return .text t
    let filler ← if (argument args 1).isMissing then .ok [Text.space] else textArgument args 1
    if filler.isEmpty then return .text t
    if longest < length then throw outOfRange
    return .text (put t (filling filler (length.toNat - t.length)))

/-- A text several times. -/
def repeated : TextOperation :=
  fun t args => do
    let count ← (argument args 0).amount
    let times := count.truncated
    if times < 0 ∨ (!count.isFinite && !count.isNaN) then throw outOfRange
    if t.isEmpty then return .text []
    if longest < times * t.length then throw outOfRange
    return .text (List.replicate times.toNat t).flatten

/-- The units between two offsets. Offsets below zero count from the end. -/
def slice : TextOperation :=
  fun t args => do
    let start ← offsetArgument args 0
    let stop ← offsetArgumentOr t.length args 1
    return .text (t.slice start stop)

/-- The units between two offsets, in either order. -/
def substring : TextOperation :=
  fun t args => do
    let start := inside t (← offsetArgument args 0)
    let stop := inside t (← offsetArgumentOr t.length args 1)
    return .text ((t.take (max start stop)).drop (min start stop))

/-- So many units from an offset on. An offset below zero counts from the end. -/
def stretch : TextOperation :=
  fun t args => do
    let start := Text.endpoint t.length (← offsetArgument args 0)
    let length ← offsetArgumentOr t.length args 1
    return .text ((t.drop start).take length.toNat)

/-- The parts of a text between the occurrences of a separator. -/
def partsBetween (separator : Text) : Nat → Text → List Text
  | 0, t => [t]
  | bound + 1, t =>
    match Text.indexOf? separator t with
    | none => [t]
    | some place => t.take place :: partsBetween separator bound (t.drop (place + separator.length))

/-- The parts of a text between the occurrences of a separator, up to a number of them. -/
def split : TextOperation :=
  fun t args => do
    let limit ← if (argument args 1).isMissing then .ok none
      else (argument args 1).amount.map fun count =>
        some (if count.isFinite then (count.truncated.emod (twoTo 32)).toNat else 0)
    let separator ← textArgument args 0
    let parts : List Text :=
      if (argument args 0).isMissing then [t]
      else if separator.isEmpty then t.map ([·])
      else partsBetween separator t.length t
    return .list ((limit.elim parts parts.take).map .text)

/-- What stands for an occurrence, a dollar sign with a mark after it being filled in. -/
def replacement (before found after : Text) : Text → Text
  | 0x24 :: 0x24 :: rest => 0x24 :: replacement before found after rest
  | 0x24 :: 0x26 :: rest => found ++ replacement before found after rest
  | 0x24 :: 0x60 :: rest => before ++ replacement before found after rest
  | 0x24 :: 0x27 :: rest => after ++ replacement before found after rest
  | unit :: rest => unit :: replacement before found after rest
  | [] => []

/-- The offsets from one on at which a text occurs, each after the end of the one before. -/
def occurrencesFrom (t part : Text) : Nat → Nat → List Nat
  | 0, _ => []
  | bound + 1, start =>
    match searchFrom t part start with
    | none => []
    | some place => place :: occurrencesFrom t part bound (place + part.length)

/-- The offsets at which a text occurs. The empty text occurs everywhere. -/
def occurrences (t part : Text) : List Nat :=
  if part.isEmpty then List.range (t.length + 1) else occurrencesFrom t part (t.length + 1) 0

/-- What follows an offset of a text, with the occurrences of a part at some offsets replaced. -/
def replacedFrom (t part form : Text) (start : Nat) : List Nat → Text
  | [] => t.drop start
  | place :: rest =>
    (t.take place).drop start ++
      replacement (t.take place) part (t.drop (place + part.length)) form ++
      replacedFrom t part form (place + part.length) rest

/-- A text with some of the occurrences of another one replaced. -/
def replaced (choose : List Nat → List Nat) : TextOperation :=
  fun t args => do
    let part ← textArgument args 0
    let form ← textArgument args 1
    return .text (replacedFrom t part form 0 (choose (occurrences t part)))

/-- A text in a normalization form. -/
def normalized : TextOperation :=
  fun t args => do
    let form ← if (argument args 0).isMissing then .ok (Text.ofString "NFC") else textArgument args 0
    if form = Text.ofString "NFC" then return .text t.composed
    if form = Text.ofString "NFD" then return .text t.decomposed
    throw outOfRange

/-- A text with a replacement character in the place of each unpaired surrogate. -/
def wellFormed (t : Text) : Text :=
  Text.ofCodePoints (t.codePoints.map fun point => if Text.isSurrogate point then 0xFFFD else point)

/-- Whether a name is the index of a unit of a text, or also that of its length. -/
def isOwnName (withLength : Bool) : TextOperation :=
  fun t args => do
    let name ← textArgument args 0
    return .bool ((withLength && name == Text.ofString "length") ||
      name.arrayIndex?.any (· < t.length))

/-- A text in the place of another one. -/
def taken : TextOperation :=
  fun _ args => if args.isEmpty then .ok (.text []) else (textArgument args 0).map .text

/-! ### Names -/

/-- The operations by their names. -/
def all : List (String × TextOperation) :=
  [("at", unitAt (.text [·]) .missing true),
    ("charAt", unitAt (.text [·]) (.text []) false),
    ("charCodeAt", unitAt (fun unit => wholeData unit.toNat) (.number .nan) false),
    ("codePointAt", codePointAt),
    ("concat", concat),
    ("constructor", taken),
    ("endsWith", endsWith),
    ("hasOwnProperty", isOwnName true),
    ("includes", search fun place => .bool place.isSome),
    ("indexOf", search placeData),
    ("isPrototypeOf", fun _ _ => .ok (.bool false)),
    ("isWellFormed", fun t _ => .ok (.bool (decide t.IsWellFormed))),
    ("lastIndexOf", searchLast),
    ("normalize", normalized),
    ("padEnd", pad (· ++ ·)),
    ("padStart", pad fun t filler => filler ++ t),
    ("propertyIsEnumerable", isOwnName false),
    ("repeat", repeated),
    ("replace", replaced (·.take 1)),
    ("replaceAll", replaced id),
    ("slice", slice),
    ("split", split),
    ("startsWith", startsWith),
    ("substr", stretch),
    ("substring", substring),
    ("toLocaleLowerCase", plain Text.lowerCased),
    ("toLocaleString", plain id),
    ("toLocaleUpperCase", plain Text.upperCased),
    ("toLowerCase", plain Text.lowerCased),
    ("toString", plain id),
    ("toUpperCase", plain Text.upperCased),
    ("toWellFormed", plain wellFormed),
    ("trim", plain Text.trim),
    ("trimEnd", plain Text.trimEnd),
    ("trimLeft", plain Text.trimStart),
    ("trimRight", plain Text.trimEnd),
    ("trimStart", plain Text.trimStart),
    ("valueOf", plain id)]

/-- The operation of a name. -/
def named? (name : Text) : Option TextOperation :=
  (all.find? fun (known, _) => Text.ofString known == name).map (·.2)

end TextOperation

/-- What a text has under a name. Operations are functions. -/
def Text.member (t : Text) (name : Text) : Data Unit :=
  if name = Text.ofString "length" then TextOperation.wholeData t.length
  else
    match (name.arrayIndex?.bind (t[·]?)).map ([·]) with
    | some unit => .text unit
    | none =>
      if (TextOperation.named? name).isSome then .function ()
      else
        match inherited? name with
        | some .function => .function ()
        | some .record => .record []
        | none => .missing

end Pairing
