/-
**Reading configuration text.**

The text is JSON with comments, trailing commas, single quotes, unquoted names, hexadecimal numbers and
the other relaxations of JSON5. It is read in one pass, one code point at a time.

* `Lexeme` — what the reader is in the middle of.
* `Frame`, `Slot` — the lists and records that are open, and what may stand next.
* `Reader.feed` — the reader after one more code point.
* `Reader.finish` — the value of the text, once it has ended.
* `read` — the value of a text, or the first fault in it.
-/

import Pairing.Json
import Pairing.Json5.Fault
import Pairing.Number.Decimal
import Pairing.Text.Blank
import Pairing.Unicode.Identifier

namespace Pairing.Json5

/-- What the reader is in the middle of. -/
inductive Lexeme where
  /-- Nothing: blanks may follow. -/
  | nothing
  /-- A comment of which the first slash was read. -/
  | slash
  /-- A comment that ends with the line. -/
  | lineComment
  /-- A comment that ends with an asterisk and a slash. -/
  | blockComment
  /-- Such a comment, after an asterisk. -/
  | blockCommentStar
  /-- A word with a meaning of its own, with what is left of it. -/
  | word (rest : List Nat) (value : Json)
  /-- A quoted text. -/
  | quoted (closer : Nat) (content : Text)
  /-- An escape in a quoted text, after its backslash. -/
  | escape (closer : Nat) (content : Text)
  /-- An escaped zero, which no digit may follow. -/
  | escapedZero (closer : Nat) (content : Text)
  /-- An escaped carriage return, to which a line feed belongs. -/
  | escapedReturn (closer : Nat) (content : Text)
  /-- Hexadecimal digits of an escape in a quoted text, with how many are left. -/
  | escapeDigits (closer : Nat) (content : Text) (left : Nat) (value : Nat)
  /-- An unquoted name. -/
  | name (content : Text)
  /-- An escape in a name, after its backslash. -/
  | nameEscape (content : Text)
  /-- Hexadecimal digits of an escape in a name, with how many are left. -/
  | nameDigits (content : Text) (left : Nat) (value : Nat)
  /-- A number of which only the sign was read. -/
  | sign (negative : Bool)
  /-- A number that starts with a zero. -/
  | zero (negative : Bool)
  /-- The digits of a number before a point. -/
  | whole (negative : Bool) (digits : Nat)
  /-- A number that starts with a point. -/
  | leadingPoint (negative : Bool)
  /-- The digits of a number after a point, with how many there are. -/
  | fraction (negative : Bool) (digits : Nat) (places : Nat)
  /-- An exponent of which only the letter was read. -/
  | exponentMark (negative : Bool) (digits : Nat) (places : Nat)
  /-- An exponent of which only the letter and the sign were read. -/
  | exponentSign (negative : Bool) (digits : Nat) (places : Nat) (down : Bool)
  /-- The digits of an exponent. -/
  | exponent (negative : Bool) (digits : Nat) (places : Nat) (down : Bool) (value : Nat)
  /-- A hexadecimal number of which only the prefix was read. -/
  | hexMark (negative : Bool)
  /-- The digits of a hexadecimal number. -/
  | hex (negative : Bool) (value : Nat)

/-- A list or a record that is open. -/
inductive Frame where
  /-- A list with its items, the last one first. -/
  | list (items : List Json)
  /-- A record with its fields and the name read last. -/
  | record (fields : Fields Json) (name : Text)

/-- What may stand next. -/
inductive Slot where
  /-- The value of the text. -/
  | start
  /-- A name, or the end of the record. -/
  | name
  /-- The colon after a name. -/
  | colon
  /-- The value of a name. -/
  | value
  /-- A comma, or the end of the record. -/
  | afterValue
  /-- An item, or the end of the list. -/
  | item
  /-- A comma, or the end of the list. -/
  | afterItem
  /-- Nothing but blanks. -/
  | done
  deriving DecidableEq

/-- The reader between two code points. -/
structure Reader where
  /-- The place of the code point read last. -/
  mark : Mark
  /-- What may stand next. -/
  slot : Slot
  /-- The open lists and records, the innermost first. -/
  frames : List Frame
  /-- What the reader is in the middle of. -/
  lexeme : Lexeme
  /-- The value of the text, once it is complete. -/
  result : Option Json

namespace Reader

/-- The reader before the text. -/
def start : Reader :=
  ⟨⟨1, 0⟩, .start, [], .nothing, none⟩

/-! ### Values -/

/-- Puts a complete value where it belongs. -/
def putValue (value : Json) (r : Reader) : Reader :=
  match r.frames with
  | [] => { r with slot := .done, lexeme := .nothing, result := some value }
  | .list items :: outer =>
    { r with slot := .afterItem, lexeme := .nothing, frames := .list (value :: items) :: outer }
  | .record fields name :: outer =>
    { r with slot := .afterValue, lexeme := .nothing, frames := .record (fields.set name value) name :: outer }

/-- Opens a list or a record. -/
def openFrame (frame : Frame) (slot : Slot) (r : Reader) : Reader :=
  { r with slot := slot, lexeme := .nothing, frames := frame :: r.frames }

/-- Closes the innermost list or record. -/
def closeFrame (r : Reader) : Reader :=
  match r.frames with
  | [] => r
  | .list items :: outer => { r with frames := outer }.putValue (.list items.reverse)
  | .record fields _ :: outer => { r with frames := outer }.putValue (.record fields)

/-- Takes a quoted text or a name as the name of a field, or as a value where one may stand. -/
def putText (content : Text) (r : Reader) : Reader :=
  if r.slot = .name then
    match r.frames with
    | .record fields _ :: outer =>
      { r with slot := .colon, lexeme := .nothing, frames := .record fields content :: outer }
    | _ => r
  else r.putValue (.text content)

/-- The reader in the middle of something. -/
def within (lexeme : Lexeme) (r : Reader) : Reader :=
  { r with lexeme := lexeme }

/-- The reader expecting something else. -/
def expecting (slot : Slot) (r : Reader) : Reader :=
  { r with slot := slot, lexeme := .nothing }

/-- A code point may not stand where it stands. -/
def refuse (point : Nat) (r : Reader) : Except Fault Reader :=
  .error (.character point r.mark)

/-! ### Kinds of code points -/

/-- Whether a code point is blank between lexemes. -/
def isBlank (point : Nat) : Bool :=
  point < 0x10000 && Text.isBlank point.toUInt16

/-- Whether a code point ends a comment that ends with the line. -/
def endsLine (point : Nat) : Bool :=
  point == 0x0A || point == 0x0D || point == 0x2028 || point == 0x2029

/-- Whether a code point is a quotation mark of either kind. -/
def isQuote (point : Nat) : Bool :=
  point == 0x22 || point == 0x27

/-- The value of a decimal digit. -/
def digit? (point : Nat) : Option Nat :=
  if 0x30 ≤ point ∧ point ≤ 0x39 then some (point - 0x30) else none

/-- The value of a hexadecimal digit in either case. -/
def hexDigit? (point : Nat) : Option Nat :=
  if 0x30 ≤ point ∧ point ≤ 0x39 then some (point - 0x30)
  else if 0x41 ≤ point ∧ point ≤ 0x46 then some (point - 0x37)
  else if 0x61 ≤ point ∧ point ≤ 0x66 then some (point - 0x57)
  else none

/-- Whether a code point may start a name. -/
def startsName (point : Nat) : Bool :=
  point == 0x24 || point == 0x5F || Unicode.isIdentifierStart point

/-- Whether a code point may continue a name. -/
def continuesName (point : Nat) : Bool :=
  point == 0x24 || point == 0x5F || point == 0x200C || point == 0x200D ||
    Unicode.isIdentifierPart point

/-- The code points of a word. -/
def points (word : String) : List Nat :=
  word.toList.map Char.toNat

/-! ### The first code point of a lexeme -/

/-- Starts a value. -/
def startValue (point : Nat) (r : Reader) : Except Fault Reader :=
  if point = 0x7B then .ok (r.openFrame (.record [] []) .name)
  else if point = 0x5B then .ok (r.openFrame (.list []) .item)
  else if point = 0x6E then .ok (r.within (.word (points "ull") .null))
  else if point = 0x74 then .ok (r.within (.word (points "rue") (.bool true)))
  else if point = 0x66 then .ok (r.within (.word (points "alse") (.bool false)))
  else if point = 0x2D then .ok (r.within (.sign true))
  else if point = 0x2B then .ok (r.within (.sign false))
  else if point = 0x2E then .ok (r.within (.leadingPoint false))
  else if point = 0x30 then .ok (r.within (.zero false))
  else if point = 0x49 then .ok (r.within (.word (points "nfinity") (.number (.infinity false))))
  else if point = 0x4E then .ok (r.within (.word (points "aN") (.number .nan)))
  else if isQuote point then .ok (r.within (.quoted point []))
  else
    match digit? point with
    | some value => .ok (r.within (.whole false value))
    | none => r.refuse point

/-- Starts a lexeme other than a comment. -/
def startToken (point : Nat) (r : Reader) : Except Fault Reader :=
  match r.slot with
  | .start | .value => r.startValue point
  | .item => if point = 0x5D then .ok r.closeFrame else r.startValue point
  | .name =>
    if point = 0x5C then .ok (r.within (.nameEscape []))
    else if point = 0x7D then .ok r.closeFrame
    else if isQuote point then .ok (r.within (.quoted point []))
    else if startsName point then .ok (r.within (.name (Text.ofCodePoint point)))
    else r.refuse point
  | .colon => if point = 0x3A then .ok (r.expecting .value) else r.refuse point
  | .afterValue =>
    if point = 0x2C then .ok (r.expecting .name)
    else if point = 0x7D then .ok r.closeFrame
    else r.refuse point
  | .afterItem =>
    if point = 0x2C then .ok (r.expecting .item)
    else if point = 0x5D then .ok r.closeFrame
    else r.refuse point
  | .done => r.refuse point

/-- Goes on where nothing is under way. -/
def startLexeme (point : Nat) (r : Reader) : Except Fault Reader :=
  if isBlank point then .ok (r.within .nothing)
  else if point = 0x2F then .ok (r.within .slash)
  else r.startToken point

/-! ### The other code points of a lexeme -/

/-- Goes on after the sign of a number. -/
def feedSign (negative : Bool) (point : Nat) (r : Reader) : Except Fault Reader :=
  if point = 0x2E then .ok (r.within (.leadingPoint negative))
  else if point = 0x30 then .ok (r.within (.zero negative))
  else if point = 0x49 then
    .ok (r.within (.word (points "nfinity") (.number (.infinity negative))))
  else if point = 0x4E then .ok (r.within (.word (points "aN") (.number .nan)))
  else
    match digit? point with
    | some value => .ok (r.within (.whole negative value))
    | none => r.refuse point

/-- Goes on in a quoted text. -/
def feedQuoted (closer : Nat) (content : Text) (point : Nat) (r : Reader) : Except Fault Reader :=
  if point = 0x5C then .ok (r.within (.escape closer content))
  else if point = closer then .ok (r.putText content)
  else if point = 0x0A ∨ point = 0x0D then r.refuse point
  else .ok (r.within (.quoted closer (content ++ Text.ofCodePoint point)))

/-- Goes on after the backslash of an escape in a quoted text. -/
def feedEscape (closer : Nat) (content : Text) (point : Nat) (r : Reader) : Except Fault Reader :=
  let plain := fun units : Text => Except.ok (r.within (.quoted closer (content ++ units)))
  if point = 0x62 then plain [0x08]
  else if point = 0x66 then plain [0x0C]
  else if point = 0x6E then plain [0x0A]
  else if point = 0x72 then plain [0x0D]
  else if point = 0x74 then plain [0x09]
  else if point = 0x76 then plain [0x0B]
  else if point = 0x30 then .ok (r.within (.escapedZero closer content))
  else if point = 0x78 then .ok (r.within (.escapeDigits closer content 2 0))
  else if point = 0x75 then .ok (r.within (.escapeDigits closer content 4 0))
  else if point = 0x0A ∨ point = 0x2028 ∨ point = 0x2029 then plain []
  else if point = 0x0D then .ok (r.within (.escapedReturn closer content))
  else if (digit? point).isSome then r.refuse point
  else plain (Text.ofCodePoint point)

/-- Goes on with a hexadecimal digit of an escape in a quoted text. -/
def feedEscapeDigit (closer : Nat) (content : Text) (left value : Nat) (point : Nat) (r : Reader) :
    Except Fault Reader :=
  match hexDigit? point with
  | none => r.refuse point
  | some digit =>
    let value := 16 * value + digit
    if left ≤ 1 then .ok (r.within (.quoted closer (content ++ Text.ofCodePoint value)))
    else .ok (r.within (.escapeDigits closer content (left - 1) value))

/-- Goes on with a hexadecimal digit of an escape in a name. A code point that may not stand there
is reported at the start of its escape. -/
def feedNameDigit (content : Text) (left value : Nat) (point : Nat) (r : Reader) :
    Except Fault Reader :=
  match hexDigit? point with
  | none => r.refuse point
  | some digit =>
    let value := 16 * value + digit
    if 1 < left then .ok (r.within (.nameDigits content (left - 1) value))
    else if if content.isEmpty then startsName value else continuesName value then
      .ok (r.within (.name (content ++ Text.ofCodePoint value)))
    else .error (.nameEscape { r.mark with column := r.mark.column - 5 })

/-- A number, when what is under way may end as one. -/
def numberEnding? : Lexeme → Option Number
  | .zero negative => some (.zero negative)
  | .whole negative digits => some (.ofDecimal negative digits 0)
  | .fraction negative digits places => some (.ofDecimal negative digits (-(places : Int)))
  | .exponent negative digits places down value =>
    some (.ofDecimal negative digits ((if down then -(value : Int) else value) - places))
  | .hex negative value => some (.ofRatio negative value 1)
  | _ => none

/-- Goes on in the digits of a number before a point. -/
def feedWhole (negative : Bool) (digits : Nat) (point : Nat) : Option Lexeme :=
  if point = 0x2E then some (.fraction negative digits 0)
  else if point = 0x65 ∨ point = 0x45 then some (.exponentMark negative digits 0)
  else (digit? point).map fun d => .whole negative (10 * digits + d)

/-- Goes on in a number, when the code point belongs to it. -/
def continuesNumber? : Lexeme → Nat → Option Lexeme
  | .zero negative, point =>
    if point = 0x2E then some (.fraction negative 0 0)
    else if point = 0x65 ∨ point = 0x45 then some (.exponentMark negative 0 0)
    else if point = 0x78 ∨ point = 0x58 then some (.hexMark negative)
    else none
  | .whole negative digits, point => feedWhole negative digits point
  | .leadingPoint negative, point => (digit? point).map fun d => .fraction negative d 1
  | .fraction negative digits places, point =>
    if point = 0x65 ∨ point = 0x45 then some (.exponentMark negative digits places)
    else (digit? point).map fun d => .fraction negative (10 * digits + d) (places + 1)
  | .exponentMark negative digits places, point =>
    if point = 0x2B then some (.exponentSign negative digits places false)
    else if point = 0x2D then some (.exponentSign negative digits places true)
    else (digit? point).map fun d => .exponent negative digits places false d
  | .exponentSign negative digits places down, point =>
    (digit? point).map fun d => .exponent negative digits places down d
  | .exponent negative digits places down value, point =>
    (digit? point).map fun d => .exponent negative digits places down (10 * value + d)
  | .hexMark negative, point => (hexDigit? point).map fun d => .hex negative d
  | .hex negative value, point => (hexDigit? point).map fun d => .hex negative (16 * value + d)
  | _, _ => none

/-- Goes on in a number. A code point that does not belong to it comes after a number that may end
there, and may not stand after one that may not. -/
def feedNumber (point : Nat) (r : Reader) : Except Fault Reader :=
  match continuesNumber? r.lexeme point with
  | some lexeme => .ok (r.within lexeme)
  | none =>
    match numberEnding? r.lexeme with
    | some value => (r.putValue (.number value)).startLexeme point
    | none => r.refuse point

/-- Goes on with a code point whose place is marked. -/
def feedMarked (point : Nat) (r : Reader) : Except Fault Reader :=
  match r.lexeme with
  | .nothing => r.startLexeme point
  | .slash =>
    if point = 0x2A then .ok (r.within .blockComment)
    else if point = 0x2F then .ok (r.within .lineComment)
    else r.refuse point
  | .lineComment => .ok (if endsLine point then r.within .nothing else r)
  | .blockComment => .ok (if point = 0x2A then r.within .blockCommentStar else r)
  | .blockCommentStar =>
    .ok (if point = 0x2F then r.within .nothing
      else if point = 0x2A then r
      else r.within .blockComment)
  | .word (expected :: rest) value =>
    if point ≠ expected then r.refuse point
    else if rest.isEmpty then .ok (r.putValue value)
    else .ok (r.within (.word rest value))
  | .word [] value => (r.putValue value).startLexeme point
  | .quoted closer content => r.feedQuoted closer content point
  | .escape closer content => r.feedEscape closer content point
  | .escapedZero closer content =>
    if (digit? point).isSome then r.refuse point else r.feedQuoted closer (content ++ [0]) point
  | .escapedReturn closer content =>
    if point = 0x0A then .ok (r.within (.quoted closer content))
    else r.feedQuoted closer content point
  | .escapeDigits closer content left value => r.feedEscapeDigit closer content left value point
  | .name content =>
    if point = 0x5C then .ok (r.within (.nameEscape content))
    else if continuesName point then .ok (r.within (.name (content ++ Text.ofCodePoint point)))
    else (r.putText content).startLexeme point
  | .nameEscape content =>
    if point = 0x75 then .ok (r.within (.nameDigits content 4 0)) else r.refuse point
  | .nameDigits content left value => r.feedNameDigit content left value point
  | .sign negative => r.feedSign negative point
  | _ => r.feedNumber point

/-- The place after one more code point. -/
def markAfter (mark : Mark) (point : Nat) : Mark :=
  if point = 0x0A then ⟨mark.line + 1, 0⟩ else ⟨mark.line, mark.column + Text.pointLength point⟩

/-- The reader after one more code point. -/
def feed (r : Reader) (point : Nat) : Except Fault Reader :=
  { r with mark := markAfter r.mark point }.feedMarked point

/-- The value of a text that has ended. -/
def finish (r : Reader) : Except Fault Json :=
  let ended : Reader :=
    match numberEnding? r.lexeme with
    | some value => r.putValue (.number value)
    | none => if let .lineComment := r.lexeme then r.within .nothing else r
  match ended.lexeme, ended.result with
  | .nothing, some value => .ok value
  | _, _ => .error (.endOfText ⟨r.mark.line, r.mark.column + 1⟩)

end Reader

/-- The value of a configuration text, or the first fault in it. -/
def read (t : Text) : Except Fault Json := do
  let reader ← t.codePoints.foldlM Reader.feed Reader.start
  reader.finish

end Pairing.Json5
