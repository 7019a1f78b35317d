/-
**Balancing the delimiters of a text.**

A host without an index can have the whole text scanned on every question.

* `Scan.run` — the scan: an opening is pushed, a closing pops the last opening or is stray.
* `Scan.leftover` — the openings and closings that the scan of a whole text leaves over.
* `Scan.openingBefore`, `Scan.closingFrom` — the nearest of them on one side of an offset.
* `Oracle.ofLines` — the oracle that scans the lines of a buffer. It knows nothing of strings and
  comments, and so of no spans and no scopes.
-/

import Pairing.Oracle

namespace Pairing.Scan

/-- The openings and closings that a scan has left over so far. -/
structure Leftover where
  /-- The offsets of the openings that wait for a closing, the last one first. -/
  openings : List Nat
  /-- The offsets of the closings without an opening, the last one first. -/
  closings : List Nat
  deriving DecidableEq, Repr

/-- A closing at an offset: it pops the last opening, and is stray where there is none. -/
def Leftover.close (found : Leftover) (offset : Nat) : Leftover :=
  match found.openings with
  | _ :: waiting => { found with openings := waiting }
  | [] => { found with closings := offset :: found.closings }

/-- The scan of the units from an offset on, of which the first `skip` belong to a delimiter that was
found. At each other offset an opening is tried before a closing. -/
def run (delimiters : Delimiters) (offset skip : Nat) (found : Leftover) : Text → Leftover
  | [] => found
  | unit :: rest =>
    match skip with
    | skip + 1 => run delimiters (offset + 1) skip found rest
    | 0 =>
      if delimiters.opening.isPrefixOf (unit :: rest) then
        run delimiters (offset + 1) (delimiters.opening.length - 1)
          { found with openings := offset :: found.openings } rest
      else if delimiters.closing.isPrefixOf (unit :: rest) then
        run delimiters (offset + 1) (delimiters.closing.length - 1) (found.close offset) rest
      else run delimiters (offset + 1) 0 found rest

/-- What a scan of the whole text leaves over. -/
def leftover (delimiters : Delimiters) (t : Text) : Leftover :=
  run delimiters 0 0 ⟨[], []⟩ t

/-- The offset of the last opening left over before an offset. -/
def openingBefore (delimiters : Delimiters) (t : Text) (offset : Int) : Option Nat :=
  (leftover delimiters t).openings.find? fun i => i < offset

/-- The offset of the first closing left over at or after an offset. -/
def closingFrom (delimiters : Delimiters) (t : Text) (offset : Int) : Option Nat :=
  (leftover delimiters t).closings.reverse.find? fun i => offset ≤ i

/-- A delimiter left over at an offset of the text. -/
def unmatchedAt (delimiters : Delimiters) (t : Text) (offset : Nat) : Unmatched :=
  ⟨delimiters, t.positionAt offset⟩

end Pairing.Scan

namespace Pairing

/-- The oracle that scans a text. -/
def Oracle.ofText (t : Text) : Oracle where
  unmatchedOpening _ delimiters place :=
    .ok ((Scan.openingBefore delimiters t (t.offsetAt place)).map (Scan.unmatchedAt delimiters t))
  unmatchedClosing _ delimiters place :=
    .ok ((Scan.closingFrom delimiters t (t.offsetAt place)).map (Scan.unmatchedAt delimiters t))
  spanKind _ _ := .ok none
  scope _ _ := .ok none
  language := none

/-- The oracle that scans the lines of a buffer. -/
def Oracle.ofLines (lines : List Text) : Oracle :=
  Oracle.ofText (Text.join [Text.newline] lines)

end Pairing
