/-
**Timers.**

* `Timer` — a moment at which something is to happen.
* `Timer.precedes` — timers go off in the order of their moments, and those of one moment in the order
  in which they were set.
* `Timer.earliest?` — the first of several timers to go off, with what it is for.
  `Timer.precedes_of_earliest?` says that it precedes all others.
-/

namespace Pairing

/-- A moment at which something is to happen. -/
structure Timer where
  /-- The moment, in milliseconds. -/
  due : Nat
  /-- How many timers were set before this one. -/
  serial : Nat
  deriving DecidableEq, Repr

namespace Timer

/-- Whether a timer goes off before another one, or is the same. -/
def precedes (a b : Timer) : Bool :=
  a.due < b.due || (a.due == b.due && a.serial ≤ b.serial)

/-- The first of several timers to go off, with what it is for. -/
def earliest? {α : Type} : List (Timer × α) → Option (Timer × α)
  | [] => none
  | first :: rest =>
    match earliest? rest with
    | none => some first
    | some other => if first.1.precedes other.1 then some first else some other

/-! ### The earliest timer -/

theorem precedes_iff {a b : Timer} :
    a.precedes b ↔ a.due < b.due ∨ a.due = b.due ∧ a.serial ≤ b.serial := by
  simp [precedes]

theorem precedes_refl (a : Timer) : a.precedes a := by
  simp [precedes]

theorem precedes_trans {a b c : Timer} (first : a.precedes b) (second : b.precedes c) :
    a.precedes c := by
  rw [precedes_iff] at *
  omega

theorem precedes_total (a b : Timer) : a.precedes b ∨ b.precedes a := by
  simp only [precedes_iff]
  omega

theorem earliest?_eq_none_iff {α : Type} {timers : List (Timer × α)} :
    earliest? timers = none ↔ timers = [] := by
  cases timers with
  | nil => simp [earliest?]
  | cons first rest =>
    simp only [earliest?, reduceCtorEq, iff_false]
    split
    · simp
    · split <;> simp

theorem mem_of_earliest? {α : Type} {timers : List (Timer × α)} {found : Timer × α}
    (earliest : earliest? timers = some found) : found ∈ timers := by
  induction timers generalizing found with
  | nil => simp [earliest?] at earliest
  | cons first rest ih =>
    rw [earliest?] at earliest
    split at earliest
    · simp_all
    · next other known =>
      split at earliest
      · simp_all
      · cases earliest
        exact List.mem_cons_of_mem _ (ih known)

theorem precedes_of_earliest? {α : Type} {timers : List (Timer × α)} {found : Timer × α}
    (earliest : earliest? timers = some found) : ∀ other ∈ timers, found.1.precedes other.1 := by
  induction timers generalizing found with
  | nil => simp
  | cons first rest ih =>
    intro other member
    rw [earliest?] at earliest
    split at earliest
    · next empty =>
      cases earliest
      rw [earliest?_eq_none_iff.mp empty] at member
      simp only [List.mem_singleton] at member
      exact member ▸ precedes_refl _
    · next next known =>
      split at earliest
      · next before =>
        cases earliest
        rcases List.mem_cons.mp member with same | later
        · exact same ▸ precedes_refl _
        · exact precedes_trans before (ih known other later)
      · next behind =>
        cases earliest
        rcases List.mem_cons.mp member with same | later
        · exact same ▸ (precedes_total _ _).resolve_left behind
        · exact ih known other later

end Timer

end Pairing
