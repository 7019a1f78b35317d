/-
**A context by the names of its members.**

A function of a host looks at the context of a keystroke by names: a context has fields, which hold
values, and methods, which are called with values of any kind.

* `Query.fields` — the fields.
* `Query.methods` — the methods.
* `Query.member` — what a context has under a name, a method being a function.
* `Query.invoke` — what comes of calling what a context has under a name.
-/

import Pairing.Condition.Unchecked

namespace Pairing.Query

/-- A whole number as a value. -/
def wholeData (i : Int) : Data Unit :=
  .number (.ofInt i)

/-- A text that may be missing as a value. -/
def optionalData (t : Option Text) : Data Unit :=
  t.elim .null .text

/-- A delimiter without a partner as a value. -/
def unmatchedData (found : Option Unmatched) : Data Unit :=
  found.elim .null fun unmatched =>
    .record [("opening", .text unmatched.delimiters.opening),
      ("closing", .text unmatched.delimiters.closing),
      ("line", wholeData unmatched.position.line), ("ch", wholeData unmatched.position.column)]

/-- A position as a value. -/
def positionData (position : Position) : Data Unit :=
  .record [("line", wholeData position.line), ("ch", wholeData position.column)]

/-! ### Fields -/

/-- The fields of a context. What the host knows is asked when it is looked at. -/
def fields : List (String × Query (Data Unit)) :=
  [("charUnderCursor", ofContext fun ctx => .text ctx.charUnderCursor),
    ("prevNonWhitespaceCol", ofContext fun ctx => wholeData ctx.contentColumn),
    ("language", optionalData <$> language),
    ("spanKind", optionalData <$> spanKind),
    ("baseIndent", ofContext fun ctx => .text ctx.baseIndent),
    ("cursor", ofContext fun ctx => positionData ctx.cursor),
    ("indentUnit", ofContext fun ctx => .text ctx.indentUnit),
    ("mode", ofContext fun ctx => .text ctx.mode.name),
    ("filetype", ofContext fun ctx => .text ctx.filetype),
    ("lineText", ofContext fun ctx => .text ctx.lineText),
    ("rules", return .record []),
    ("oracle", return .record [])]

/-! ### Methods -/

/-- What is called with some arguments, and with missing values after them. -/
abbrev Method := (Nat → Data Unit) → Query (Data Unit)

/-- A text that the arguments say. -/
def textMethod (f : Context → (Nat → Data Unit) → Except Thrown Text) : Method :=
  fun args => ofExcept fun ctx => ((f ctx args).map .text).mapError .thrown

/-- A comparison with the text next to the cursor. -/
def besideMethod (reach : Context → Data Unit → Except Thrown (Data Unit))
    (test : Context → Text → Bool → Except Fault Bool) : Method :=
  fun args => told (.ofTextOperand (args 0) reach fun ctx t => test ctx t (args 1).isTruthy)

/-- Whether the scope at a place is one of those that are given. Nothing is known where no place is. -/
def scopeMethod (place : Data Unit → Data Unit) : Method :=
  fun args =>
    let here := place (args 1)
    if here.isMissing then return .missing else scopesTold (args 0) here

/-- The place at the cursor in the place of one that is missing. -/
def insideWhereMissing (place : Data Unit) : Data Unit :=
  if place.isMissing then .text (Condition.placeName .inside) else place

/-- A delimiter without a partner, looked for by a rule that is given. -/
def unmatchedMethod (find : Delimiters → Query (Option Unmatched)) : Method :=
  fun args => do
    let rule := args 0
    if rule.isNullish then throw (.missingValue (!rule.isMissing) "opening")
    match (rule.field "opening").plain, (rule.field "closing").plain with
    | .ok opening, .ok closing => return unmatchedData (← find ⟨opening, closing⟩)
    | .error cause, _ | _, .error cause => throw (.thrown cause)

/-- The names of what a context has of its own. -/
def ownNames : List String :=
  ["lineText", "cursor", "filetype", "mode", "indentUnit", "rules", "oracle", "charUnderCursorValue",
    "prevNonWhitespaceColValue", "languageValue", "spanKindValue", "scopeAtCursorValue",
    "scopeBeforeCursorValue"]

/-- Whether a context has something of its own under a name. -/
def ownNameMethod : Method :=
  fun args => ofExcept fun _ =>
    ((args 0).plain.map fun name => .bool ((ownNames.map Text.ofString).contains name)).mapError .thrown

/-- The methods of a context. -/
def methods : List (String × Method) :=
  [("textBeforeCursor", textMethod fun ctx args => ctx.textBeforeBy (args 0)),
    ("textAfterCursor", textMethod fun ctx args => ctx.textAfterBy (args 0)),
    ("textAroundCursor", textMethod fun ctx args => ctx.textAroundBy (args 0) (args 1)),
    ("isAfterCursor", besideMethod Context.reachAfter Context.isAfter),
    ("isBeforeCursor", besideMethod Context.reachBefore Context.isBefore),
    ("isEscaped", fun _ => ofContext fun ctx => .bool ctx.isEscaped),
    ("isLanguage", fun args => told (.ofLanguageOperand (args 0))),
    ("inSpan", fun args => told (.ofSpanOperand (args 0))),
    ("scopeWhitelist", scopeMethod insideWhereMissing),
    ("scopeBlacklist", fun args => told (.negation (.ofScopeOperand (args 0) (args 1)))),
    ("matchesScope", scopeMethod id),
    ("findUnmatchedOpeningBefore", unmatchedMethod unmatchedOpening),
    ("findUnmatchedClosingAfter", unmatchedMethod unmatchedClosing),
    ("charUnderCursorValue", fun _ => ofContext fun ctx => .text ctx.charUnderCursor),
    ("prevNonWhitespaceColValue", fun _ => ofContext fun ctx => wholeData ctx.contentColumn),
    ("languageValue", fun _ => optionalData <$> language),
    ("spanKindValue", fun _ => optionalData <$> spanKind),
    ("scopeAtCursorValue", fun _ => optionalData <$> scopeHere),
    ("scopeBeforeCursorValue", fun _ => optionalData <$> scopeBefore),
    ("toString", fun _ => return .text Data.recordText),
    ("toLocaleString", fun _ => return .text Data.recordText),
    ("valueOf", fun _ => return .record []),
    ("isPrototypeOf", fun _ => return .bool false),
    ("hasOwnProperty", ownNameMethod),
    ("propertyIsEnumerable", ownNameMethod)]

/-! ### Members -/

/-- What a list has under a name. -/
def named? {α : Type} (name : Text) (members : List (String × α)) : Option α :=
  (members.find? fun (known, _) => Text.ofString known == name).map (·.2)

/-- What a context has under a name. -/
def member (name : Text) : Query (Data Unit) :=
  match named? name fields with
  | some value => value
  | none =>
    if (named? name methods).isSome then return .function ()
    else
      match inherited? name with
      | some .function => return .function ()
      | some .record => return .record []
      | none => return .missing

/-- What comes of calling what a context has under a name. A field is looked at before it turns out to be
no function. -/
def invoke (name : Text) (args : List (Data Unit)) : Query (Data Unit) := do
  match named? name methods with
  | some method => method fun index => (args[index]?).getD .missing
  | none =>
    if let some value := named? name fields then
      let _ ← value
    throw (.notFunction name)

end Pairing.Query
