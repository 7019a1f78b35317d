/-
**Text as UTF-16 code units.**

Editors count columns, offsets and lengths in UTF-16 code units, and a cut may fall inside a
surrogate pair, so a text is the list of its units and not a list of characters.

* `Text.ofString` — the units of a string.
* `Text.slice` — the units between two ends, an end below zero counting from the back.
* `Text.indexOf?`, `Text.contains` — the first occurrence of one text in another.
* `Text.slice_of_le` — between two ends inside the text, a slice is a `take` and a `drop`.
-/

namespace Pairing

/-- A text, as its UTF-16 code units; unpaired surrogates may occur. -/
abbrev Text := List UInt16

namespace Text

/-- The one or two units that encode a code point. A surrogate stands for itself. -/
def ofCodePoint (point : Nat) : Text :=
  if point < 0x10000 then [point.toUInt16]
  else [(0xD800 + (point - 0x10000) / 0x400).toUInt16, (0xDC00 + (point - 0x10000) % 0x400).toUInt16]

/-- The units of a string. -/
def ofString (s : String) : Text :=
  s.toList.flatMap fun c => ofCodePoint c.toNat

instance : Coe String Text := ⟨ofString⟩

/-- The newline, which ends a line. -/
def newline : UInt16 := 0x0A

/-- The space. -/
def space : UInt16 := 0x20

/-- The tab. -/
def tab : UInt16 := 0x09

/-- The backslash, which escapes the unit after it. -/
def backslash : UInt16 := 0x5C

/-- The quotation mark. -/
def quote : UInt16 := 0x22

/-! ### Slices -/

/-- Where an end of a slice falls: counted from the back when it is negative, and never outside. -/
def endpoint (length : Nat) (i : Int) : Nat :=
  if i < 0 then (length + i).toNat else min i.toNat length

/-- The units from `start` up to but not including `stop`. -/
def slice (t : Text) (start stop : Int) : Text :=
  (t.take (endpoint t.length stop)).drop (endpoint t.length start)

/-- The units from `start` on. -/
def sliceFrom (t : Text) (start : Int) : Text :=
  t.drop (endpoint t.length start)

theorem endpoint_natCast (length n : Nat) : endpoint length (n : Int) = min n length := by
  unfold endpoint
  split <;> omega

/-- Between two ends inside the text, a slice is a `take` and a `drop`. -/
theorem slice_of_le (t : Text) {start stop : Nat} (ordered : start ≤ stop) (inside : stop ≤ t.length) :
    t.slice start stop = (t.take stop).drop start := by
  simp only [slice, endpoint_natCast]
  rw [Nat.min_eq_left inside, Nat.min_eq_left (Nat.le_trans ordered inside)]

theorem sliceFrom_of_le (t : Text) {start : Nat} (inside : start ≤ t.length) :
    t.sliceFrom start = t.drop start := by
  simp only [sliceFrom, endpoint_natCast]
  rw [Nat.min_eq_left inside]

/-! ### Searching -/

/-- The offset of the first occurrence of `part`. -/
def indexOf? (part : Text) : Text → Option Nat
  | [] => if part.isEmpty then some 0 else none
  | unit :: rest =>
    if part.isPrefixOf (unit :: rest) then some 0 else (indexOf? part rest).map (· + 1)

/-- Whether `part` occurs in the text. -/
def contains (t part : Text) : Bool :=
  (indexOf? part t).isSome

/-- What follows a text at the start of another one. -/
def afterPrefix? (start t : Text) : Option Text :=
  if start.isPrefixOf t then some (t.drop start.length) else none

/-- The parts of a text between the occurrences of a unit. -/
def splitAtUnit (separator : UInt16) : Text → List Text
  | [] => [[]]
  | unit :: rest =>
    let parts := splitAtUnit separator rest
    if unit = separator then [] :: parts
    else
      match parts with
      | [] => [[unit]]
      | part :: others => (unit :: part) :: others

/-- The lines of a text. A text has one line more than it has newlines. -/
def lines (t : Text) : List Text :=
  t.splitAtUnit newline

/-- Texts put together with a separator between neighbours. -/
def join (separator : Text) : List Text → Text
  | [] => []
  | [t] => t
  | t :: rest => t ++ separator ++ join separator rest

/-- The decimal digits of a natural number. -/
def ofNat (n : Nat) : Text :=
  ofString (String.ofList (Nat.toDigits 10 n))

/-- The decimal digits of an integer, after a minus sign when it is negative. -/
def ofInt (i : Int) : Text :=
  match i with
  | .ofNat n => ofNat n
  | .negSucc n => ofString "-" ++ ofNat (n + 1)

end Text

end Pairing
