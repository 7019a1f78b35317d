/-
**Conditions of a configuration.**

Configuration text cannot hold functions, so a rule says in a condition where it applies.

* `Condition` — the conditions.
* `Text.isWord` — whether a text holds a letter or a digit. The underscore is punctuation.
* `Condition.predicate` — whether a condition holds. Of several conditions, the first one that
  decides is the last one looked at.
* `Condition.toData` — a condition as configuration data.
-/

import Pairing.Data
import Pairing.Query
import Pairing.Unicode.LetterOrNumber

namespace Pairing

/-- A condition under which a rule applies. -/
inductive Condition where
  /-- A text ends at the cursor. -/
  | textBefore (t : Text)
  /-- A text stands at the cursor. -/
  | textAfter (t : Text)
  /-- The cursor is in a span of a kind. -/
  | inSpan (kind : Text)
  /-- The scope is one of some scopes. Without a place, it is looked for at the cursor. -/
  | scopeAmong (scopes : List Text) (place : Option ScopePlace)
  /-- The scope is none of some scopes. -/
  | scopeNotAmong (scopes : List Text) (place : Option ScopePlace)
  /-- The unit before the cursor is, or is not, part of a word. -/
  | charUnderCursor (isWord : Bool)
  /-- All of some conditions hold. -/
  | all (conditions : List Condition)
  /-- Some condition of several holds. -/
  | any (conditions : List Condition)
  /-- A condition does not hold. -/
  | not (condition : Condition)

/-- Whether a text holds a letter or a digit. -/
def Text.isWord (t : Text) : Bool :=
  t.codePoints.any Unicode.isLetterOrNumber

namespace Condition

mutual

/-- Whether a condition holds. -/
def predicate : Condition → Predicate
  | .textBefore t => Query.ofContext (·.endsBefore t)
  | .textAfter t => Query.ofContext (·.startsAfter t)
  | .inSpan kind => Query.inSpan kind
  | .scopeAmong scopes place => Query.scopeAmong scopes (place.getD .inside)
  | .scopeNotAmong scopes place => do return !(← Query.scopeAmong scopes (place.getD .inside))
  | .charUnderCursor isWord => Query.ofContext fun ctx => ctx.charUnderCursor.isWord == isWord
  | .all conditions => allHold conditions
  | .any conditions => someHolds conditions
  | .not condition => do return !(← predicate condition)

/-- Whether all of some conditions hold. -/
def allHold : List Condition → Predicate
  | [] => return true
  | condition :: rest => do if ← predicate condition then allHold rest else return false

/-- Whether some condition of several holds. -/
def someHolds : List Condition → Predicate
  | [] => return false
  | condition :: rest => do if ← predicate condition then return true else someHolds rest

end

/-! ### Conditions as data -/

/-- The name of a place in configuration data. -/
def placeName : ScopePlace → Text
  | .inside => "inside"
  | .after => "after"
  | .insideOrAfter => "insideOrAfter"

/-- The place of a name. -/
def placeOfName? (name : Text) : Option ScopePlace :=
  [ScopePlace.inside, .after, .insideOrAfter].find? fun place => placeName place == name

variable {φ : Type}

/-- A list of texts as data. -/
def textsData (texts : List Text) : Data φ :=
  .list (texts.map .text)

/-- The fields of a condition on scopes. -/
def scopeFields (key : Text) (scopes : List Text) (place : Option ScopePlace) :
    List (Text × Data φ) :=
  (key, textsData scopes) :: (place.map fun p => (Text.ofString "position", .text (placeName p))).toList

mutual

/-- A condition as configuration data. -/
def toData : Condition → Data φ
  | .textBefore t => .record [("textBefore", .text t)]
  | .textAfter t => .record [("textAfter", .text t)]
  | .inSpan kind => .record [("inSpan", .text kind)]
  | .scopeAmong scopes place => .record (scopeFields "scopeWhitelist" scopes place)
  | .scopeNotAmong scopes place => .record (scopeFields "scopeBlacklist" scopes place)
  | .charUnderCursor isWord =>
    .record [("charUnderCursor", .text (Text.ofString (if isWord then "word" else "nonWord")))]
  | .all conditions => .record [("all", .list (listData conditions))]
  | .any conditions => .record [("any", .list (listData conditions))]
  | .not condition => .record [("not", toData condition)]

/-- A list of conditions as configuration data. -/
def listData : List Condition → List (Data φ)
  | [] => []
  | condition :: rest => toData condition :: listData rest

end

end Condition

end Pairing
