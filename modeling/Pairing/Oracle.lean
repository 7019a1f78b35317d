/-
**What a host knows about the buffer.**

The host keeps an index of its buffer and answers five questions about it: which delimiters have no
partner, in which kind of span and in which scope a place lies, and which language is written there.
Its answers describe the buffer before the pending keystroke.

* `OracleCall` — a question with its arguments.
* `Oracle` — the answers. Each depends also on the calls made before, so that a host may answer the
  same question in another way, or throw, whenever it likes.
* `Oracle.silent` — the host without an index.
-/

import Pairing.Fault
import Pairing.Position

namespace Pairing

/-- An opening and a closing delimiter. -/
structure Delimiters where
  /-- The opening delimiter. -/
  opening : Text
  /-- The closing delimiter. -/
  closing : Text
  deriving DecidableEq, Repr

/-- A delimiter without a partner. -/
structure Unmatched where
  /-- The delimiters it is one of. -/
  delimiters : Delimiters
  /-- Where it stands. -/
  position : Position
  deriving DecidableEq, Repr

/-- A question to the host. -/
inductive OracleCall where
  /-- The nearest opening before a place whose closing is missing. -/
  | unmatchedOpening (delimiters : Delimiters) (place : Position)
  /-- The nearest closing at or after a place whose opening is missing. -/
  | unmatchedClosing (delimiters : Delimiters) (place : Position)
  /-- The kind of the span around a place. -/
  | spanKind (place : Position)
  /-- The syntax scope at a place. -/
  | scope (place : Position)
  /-- The language at a place. -/
  | language (place : Position)
  deriving DecidableEq, Repr

/-- A host's answers. The calls made before come first. -/
structure Oracle where
  /-- The nearest opening before a place whose closing is missing. -/
  unmatchedOpening : List OracleCall → Delimiters → Position → Except Fault (Option Unmatched)
  /-- The nearest closing at or after a place whose opening is missing. -/
  unmatchedClosing : List OracleCall → Delimiters → Position → Except Fault (Option Unmatched)
  /-- The kind of the span around a place. -/
  spanKind : List OracleCall → Position → Except Fault (Option Text)
  /-- The syntax scope at a place. -/
  scope : List OracleCall → Position → Except Fault (Option Text)
  /-- The language at a place. A host that parses no embedded languages has no answer at all. -/
  language : Option (List OracleCall → Position → Except Fault (Option Text))

/-- The host without an index: nothing is unmatched, and there are no spans and no scopes. -/
def Oracle.silent : Oracle where
  unmatchedOpening _ _ _ := .ok none
  unmatchedClosing _ _ _ := .ok none
  spanKind _ _ := .ok none
  scope _ _ := .ok none
  language := none

end Pairing
