/-
**Fields of a record.**

The fields of a record stand in property order: keys that are array indexes come first, in ascending
order, and the others follow in the order in which they first appeared.

* `Fields.set` — gives a key a value; a key that is there keeps its place.
* `Fields.ofList`, `Fields.merge` — several fields set one after the other.
* `Fields.get?` — the value of a key, with `Fields.get?_set_self` and `Fields.get?_set_of_ne`.
-/

import Pairing.Text.Basic

namespace Pairing

/-- The number that a key denotes as an array index: its decimal digits without a leading zero, up
to 2³² − 2. -/
def Text.arrayIndex? (key : Text) : Option Nat :=
  let isDigit := fun unit : UInt16 => 0x30 ≤ unit && unit ≤ 0x39
  if key = [0x30] then some 0
  else if key.isEmpty || !key.all isDigit || key.head? == some 0x30 || 10 < key.length then none
  else
    let index := key.foldl (fun n unit => 10 * n + (unit.toNat - 0x30)) 0
    if index ≤ 0xFFFFFFFE then some index else none

/-- The fields of a record, in property order. -/
abbrev Fields (α : Type) := List (Text × α)

namespace Fields

variable {α : Type}

/-- Whether a new key goes before a key that is there. -/
def goesBefore (key present : Text) : Bool :=
  match key.arrayIndex?, present.arrayIndex? with
  | some i, some j => i < j
  | some _, none => true
  | none, _ => false

/-- Puts a key that is not there in its place. -/
def insertNew (key : Text) (value : α) : Fields α → Fields α
  | [] => [(key, value)]
  | (k, v) :: rest =>
    if goesBefore key k then (key, value) :: (k, v) :: rest else (k, v) :: insertNew key value rest

/-- Gives a key that is there another value. -/
def replace (key : Text) (value : α) : Fields α → Fields α
  | [] => []
  | (k, v) :: rest => if k = key then (k, value) :: rest else (k, v) :: replace key value rest

/-- The value of a key. -/
def get? (key : Text) : Fields α → Option α
  | [] => none
  | (k, v) :: rest => if k = key then some v else get? key rest

/-- The keys, in property order. -/
def keys (fields : Fields α) : List Text :=
  fields.map (·.1)

/-- Gives a key a value. A key that is there keeps its place. -/
def set (key : Text) (value : α) (fields : Fields α) : Fields α :=
  if (get? key fields).isSome then replace key value fields else insertNew key value fields

/-- The fields set by a list of assignments, the first one first. -/
def ofList (assignments : List (Text × α)) : Fields α :=
  assignments.foldl (fun fields (key, value) => set key value fields) []

/-- The fields of one record, with those of another set after them. -/
def merge (base overrides : Fields α) : Fields α :=
  overrides.foldl (fun fields (key, value) => set key value fields) base

/-! ### Looking up a key that was set -/

theorem get?_insertNew_self {key : Text} {value : α} {fields : Fields α}
    (absent : get? key fields = none) : get? key (insertNew key value fields) = some value := by
  induction fields with
  | nil => simp [insertNew, get?]
  | cons field rest ih =>
    obtain ⟨k, v⟩ := field
    have different : k ≠ key := fun same => by simp [get?, same] at absent
    have absentLater : get? key rest = none := by simpa [get?, different] using absent
    unfold insertNew
    split <;> simp [get?, different, ih absentLater]

theorem get?_insertNew_of_ne {key other : Text} {value : α} {fields : Fields α}
    (different : key ≠ other) : get? other (insertNew key value fields) = get? other fields := by
  induction fields with
  | nil => simp [insertNew, get?, different]
  | cons field rest ih =>
    obtain ⟨k, v⟩ := field
    unfold insertNew
    split <;> simp [get?, different, ih]

theorem get?_replace_self {key : Text} {value : α} {fields : Fields α}
    (present : (get? key fields).isSome = true) : get? key (replace key value fields) = some value := by
  induction fields with
  | nil => simp [get?] at present
  | cons field rest ih =>
    obtain ⟨k, v⟩ := field
    by_cases same : k = key
    · simp [replace, get?, same]
    · simp only [replace, same, if_false, get?] at present ⊢
      exact ih present

theorem get?_replace_of_ne {key other : Text} {value : α} {fields : Fields α}
    (different : key ≠ other) : get? other (replace key value fields) = get? other fields := by
  induction fields with
  | nil => simp [replace]
  | cons field rest ih =>
    obtain ⟨k, v⟩ := field
    unfold replace
    split
    · simp_all [get?]
    · simp [get?, ih]

@[simp]
theorem get?_set_self (key : Text) (value : α) (fields : Fields α) :
    get? key (set key value fields) = some value := by
  unfold set
  split
  · next present => exact get?_replace_self present
  · next absent => exact get?_insertNew_self (by simpa using absent)

theorem get?_set_of_ne {key other : Text} (different : key ≠ other) (value : α) (fields : Fields α) :
    get? other (set key value fields) = get? other fields := by
  unfold set
  split
  · exact get?_replace_of_ne different
  · exact get?_insertNew_of_ne different

end Fields

end Pairing
