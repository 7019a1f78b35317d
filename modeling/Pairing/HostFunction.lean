/-
**Functions of a host.**

Where a rule gives a condition, a host may put a function of its own.

* `HostFunction` — such a function, by what it answers about a keystroke and what it gives elsewhere.
* `HostFunction.predicate` — whether its answer counts as true.
* `HostFunction.ofPredicate` — the function that answers as a predicate does.
* `HostFunction.constant`, `HostFunction.throwing` — functions that look at nothing.
-/

import Pairing.Data.Callable
import Pairing.Query

namespace Pairing

/-- A function of a host. -/
structure HostFunction where
  /-- Whether it asks for a value to be called with. -/
  asksForValue : Bool
  /-- What it answers in the context of a keystroke. -/
  answer : Query (Data Unit)
  /-- What it gives, or throws, for another value. -/
  give : Data Unit → Except Thrown (Data Unit)

instance : Callable HostFunction := ⟨HostFunction.give, HostFunction.asksForValue⟩

namespace HostFunction

/-- Whether the answer of a function counts as true. -/
def predicate (body : HostFunction) : Predicate := do
  return (← body.answer).isTruthy

/-- What a function throws that looks at a keystroke where there is none. -/
def noKeystroke : Thrown :=
  .error "TypeError" "There is no keystroke to look at"

/-- The function that answers as a predicate does. -/
def ofPredicate (predicate : Predicate) : HostFunction where
  asksForValue := true
  answer := do return .bool (← predicate)
  give _ := .error noKeystroke

/-- The function that always gives the same value. -/
def constant (value : Data Unit) : HostFunction where
  asksForValue := false
  answer := return value
  give _ := .ok value

/-- The function that always throws the same value. -/
def throwing (value : Thrown) : HostFunction where
  asksForValue := false
  answer := throw (.thrown value)
  give _ := .error value

end HostFunction

end Pairing
