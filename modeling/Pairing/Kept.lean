/-
**Values that are computed once.**

* `keep` — a value that is computed when it is first asked for, and kept in a cell of the state. A
  computation that fails leaves the cell as it is.
-/

namespace Pairing

/-- A value that is computed when it is first asked for, and kept in a cell of the state. -/
def keep {σ α : Type} {m : Type → Type} [Monad m] [MonadStateOf σ m] (cell : σ → Option α)
    (fill : σ → α → σ) (compute : m α) : m α := do
  match cell (← get) with
  | some known => return known
  | none =>
    let found ← compute
    modify fun state => fill state found
    return found

/-- A value computed once, beside the number of times it was computed. -/
structure Kept (α : Type) where
  /-- The value, if it was asked for. -/
  value : Option α
  /-- How often it was computed. -/
  computed : Nat
  deriving DecidableEq, Repr

namespace Kept

variable {α : Type}

/-- A value that was not asked for yet. -/
def unasked : Kept α := ⟨none, 0⟩

/-- Computes the value and counts that. -/
def count (compute : Unit → α) : StateM (Kept α) α := do
  modify fun kept => { kept with computed := kept.computed + 1 }
  return compute ()

/-- Asks for the value. -/
def read (compute : Unit → α) : StateM (Kept α) α :=
  keep Kept.value (fun kept found => { kept with value := some found }) (count compute)

/-- Asks for the value a number of times. -/
def reads (compute : Unit → α) : Nat → StateM (Kept α) (List α)
  | 0 => return []
  | n + 1 => do
    let first ← read compute
    return first :: (← reads compute n)

end Kept

end Pairing
