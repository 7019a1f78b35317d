/-
**Functions that are called.**

A value may hold functions of a host, and where it is put to use they are called with another value.

* `Callable` — functions that can be called with a value.
* `Data.ownFunction?` — the function that a record has under a name.
-/

import Pairing.Data

namespace Pairing

/-- Functions that can be called with a value. -/
class Callable (φ : Type) where
  /-- What a function gives when it is called with a value, or what it throws. It is called with a
  missing value where it is called with nothing. -/
  call : φ → Data Unit → Except Thrown (Data Unit)
  /-- Whether a function asks for a value to be called with. -/
  asksForValue : φ → Bool

instance : Callable Unit := ⟨fun _ _ => .ok .missing, fun _ => false⟩

instance : Callable Empty := ⟨nofun, nofun⟩

/-- The function that a record has under a name. -/
def Data.ownFunction? {φ : Type} (name : Text) (fields : Fields (Data φ)) : Option φ :=
  match Fields.get? name fields with
  | some (.function body) => some body
  | _ => none

end Pairing
