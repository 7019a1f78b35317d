/-
**Reading definitions from text.**

* `RulesText` — what a text of rules turned out to be: definitions, definitions with issues, or no
  configuration text at all.
* `RulesText.ofText` — reads a text. A text of blanks declares nothing.
* `RulesText.outcome` — the definitions, or the wording of what is wrong.
-/

import Pairing.Definition.Reading
import Pairing.Json5.Reader

namespace Pairing

/-- What a text of rules turned out to be. -/
inductive RulesText where
  /-- It holds nothing but blanks. -/
  | blank
  /-- It was read. -/
  | holds (reading : Reading)
  /-- It is no configuration text. -/
  | malformed (fault : Json5.Fault)

namespace RulesText

/-- Reads a text of rules. -/
def ofText (t : Text) : RulesText :=
  if t.trim.isEmpty then .blank
  else
    match Json5.read t with
    | .ok json => .holds (Definitions.read (Data.ofJson json : Data Empty))
    | .error fault => .malformed fault

/-- The definitions of a text without faults, or the wording of its faults. -/
def outcome : RulesText → Except Text CheckedDefinitions
  | .blank => .ok []
  | .holds reading =>
    if reading.issues.isEmpty then .ok reading.definitions
    else .error (Issue.messages reading.issues)
  | .malformed fault => .error (Text.ofString "Invalid JSONC: " ++ fault.message)

end RulesText

end Pairing
