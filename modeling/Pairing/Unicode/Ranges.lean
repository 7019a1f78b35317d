/-
**Sets of code points.**

A property of code points is a list of ranges in ascending order.

* `Ranges.contains` — whether a code point lies in one of the ranges.
* `Table.find?` — the entry of a table in ascending order of its keys.
-/

namespace Pairing.Unicode

/-- Ranges of code points, both ends included, in ascending order. -/
abbrev Ranges := List (Nat × Nat)

/-- Whether a code point lies in one of the ranges. -/
def Ranges.contains (point : Nat) : Ranges → Bool
  | [] => false
  | (first, last) :: rest => first ≤ point && (point ≤ last || Ranges.contains point rest)

/-- Values for some keys, in ascending order of the keys. -/
abbrev Table (α : Type) := List (Nat × α)

/-- The value of a key. -/
def Table.find? {α : Type} (key : Nat) : Table α → Option α
  | [] => none
  | (k, value) :: rest =>
    if key < k then none else if key = k then some value else Table.find? key rest

end Pairing.Unicode
