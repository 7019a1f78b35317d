/-
**Values of configuration text.**

* `Json` — what a configuration text can say: null, booleans, numbers, texts, lists and records.
* `Json.record` holds its fields in property order.
-/

import Pairing.Fields
import Pairing.Number.Basic

namespace Pairing

/-- A value of a configuration text. -/
inductive Json where
  /-- The null value. -/
  | null
  /-- A truth value. -/
  | bool (value : Bool)
  /-- A number. -/
  | number (value : Number)
  /-- A text. -/
  | text (value : Text)
  /-- A list. -/
  | list (items : List Json)
  /-- A record, its fields in property order. -/
  | record (fields : List (Text × Json))

end Pairing
