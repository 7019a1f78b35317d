/-
**How far to look from the cursor.**

A host may say by a value of any kind how many units next to the cursor it means.

* `Context.reachBefore`, `Context.reachAfter` — where that many units before or after the cursor end.
* `Context.textBeforeBy`, `Context.textAfterBy`, `Context.textAroundBy` — the units.
-/

import Pairing.Context
import Pairing.Data.Simple

namespace Pairing.Context

variable {φ : Type} [Callable φ]

/-- The column of the cursor as a value. -/
def columnData (ctx : Context) : Data φ :=
  .number (.ofNat ctx.column)

/-- Where some units before the cursor start. -/
def reachBefore (ctx : Context) (count : Data φ) : Except Thrown (Data Unit) :=
  (ctx.columnData).difference count

/-- Where some units after the cursor end. -/
def reachAfter (ctx : Context) (count : Data φ) : Except Thrown (Data Unit) :=
  (ctx.columnData).sum count

/-- The offset that a simple value is. -/
def offsetOf (value : Data Unit) : Int :=
  (Data.simpleNumber value).truncated

/-- Up to so many units before the cursor. -/
def textBeforeBy (ctx : Context) (count : Data φ) : Except Thrown Text :=
  if count.isMissing then .ok ctx.before
  else (ctx.reachBefore count).map fun start => ctx.lineText.slice (max 0 (offsetOf start)) ctx.column

/-- Up to so many units after the cursor. -/
def textAfterBy (ctx : Context) (count : Data φ) : Except Thrown Text :=
  if count.isMissing then .ok ctx.after
  else (ctx.reachAfter count).map fun stop => ctx.lineText.slice ctx.column (offsetOf stop)

/-- The text between two places so far from the cursor. -/
def textAroundBy (ctx : Context) (start stop : Data φ) : Except Thrown Text := do
  let first ← ctx.reachAfter start
  let last ← ctx.reachAfter stop
  return ctx.lineText.slice (max 0 (offsetOf first)) (max 0 (offsetOf last))

end Pairing.Context
