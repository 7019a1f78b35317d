/-
**User-perceived characters.**

A text is cut into clusters (extended grapheme clusters of Unicode 17): a base with its marks, a
Hangul syllable, a conjunct, an emoji sequence, a flag.

* `Border` — what the code points of a cluster so far mean for the next one.
* `Border.continues` — whether the next code point belongs to the same cluster.
* `Text.clusters` — the clusters of a text.
* `Text.firstCluster`, `Text.isSingleCluster`.
-/

import Pairing.Text.Composed
import Pairing.Unicode.ClusterBreak

namespace Pairing

open Unicode

/-- How far an emoji sequence has come. -/
inductive EmojiProgress where
  /-- No sequence is under way. -/
  | none
  /-- A pictograph, perhaps with extending marks. -/
  | pictograph
  /-- A pictograph and a joiner, which another pictograph may follow. -/
  | joined
  deriving DecidableEq, Repr

/-- How far a conjunct has come. -/
inductive ConjunctProgress where
  /-- No conjunct is under way. -/
  | none
  /-- A consonant that nothing has linked yet. -/
  | consonant
  /-- A consonant and a linker, which another consonant may follow. -/
  | linked
  deriving DecidableEq, Repr

/-- What the code points of a cluster so far mean for the next one. -/
structure Border where
  /-- The class of the last code point. -/
  last : ClusterBreak
  /-- How far an emoji sequence has come. -/
  emoji : EmojiProgress
  /-- How far a conjunct has come. -/
  conjunct : ConjunctProgress
  /-- Whether the last code point is a regional indicator without a partner. -/
  halfFlag : Bool
  deriving DecidableEq, Repr

namespace Border

/-- The emoji progress after a code point of a class. -/
def nextEmoji (progress : EmojiProgress) (point : Nat) (kind : ClusterBreak) : EmojiProgress :=
  if isPictographic point then .pictograph
  else
    match progress, kind with
    | .pictograph, .extend => .pictograph
    | .pictograph, .joiner => .joined
    | _, _ => .none

/-- The conjunct progress after a code point. -/
def nextConjunct (progress : ConjunctProgress) (point : Nat) : ConjunctProgress :=
  if isConjunctConsonant point then .consonant
  else
    match progress with
    | .none => .none
    | started =>
      if isConjunctLinker point then .linked
      else if isConjunctExtend point then started
      else .none

/-- The border after the first code point of a cluster. -/
def first (point : Nat) : Border where
  last := clusterBreak point
  emoji := nextEmoji .none point (clusterBreak point)
  conjunct := nextConjunct .none point
  halfFlag := clusterBreak point == .regional

/-- The border after one more code point. -/
def next (border : Border) (point : Nat) : Border where
  last := clusterBreak point
  emoji := nextEmoji border.emoji point (clusterBreak point)
  conjunct := nextConjunct border.conjunct point
  halfFlag := clusterBreak point == .regional && !border.halfFlag

/-- Whether a code point belongs to the cluster of the ones before it. -/
def continues (border : Border) (point : Nat) : Bool :=
  match border.last, clusterBreak point with
  | .carriageReturn, .lineFeed => true
  | .carriageReturn, _ | .lineFeed, _ | .control, _ => false
  | _, .carriageReturn | _, .lineFeed | _, .control => false
  | .leading, .leading | .leading, .vowel | .leading, .openSyllable | .leading, .closedSyllable => true
  | .openSyllable, .vowel | .openSyllable, .trailing | .vowel, .vowel | .vowel, .trailing => true
  | .closedSyllable, .trailing | .trailing, .trailing => true
  | _, .extend | _, .joiner | _, .spacing => true
  | .prepend, _ => true
  | _, kind =>
    (border.conjunct == .linked && isConjunctConsonant point) ||
      (border.emoji == .joined && isPictographic point) ||
      (border.halfFlag && kind == .regional)

end Border

namespace Text

/-- Cuts code points into clusters, given the cluster under way, last code point first. -/
def clustersFrom (border : Border) (current : List Nat) : List Nat → List (List Nat)
  | [] => [current.reverse]
  | point :: rest =>
    if border.continues point then clustersFrom (border.next point) (point :: current) rest
    else current.reverse :: clustersFrom (.first point) [point] rest

/-- The clusters of a list of code points. -/
def clusterPoints : List Nat → List (List Nat)
  | [] => []
  | point :: rest => clustersFrom (.first point) [point] rest

/-- The user-perceived characters of a text. -/
def clusters (t : Text) : List Text :=
  (clusterPoints t.codePoints).map ofCodePoints

/-- The first user-perceived character, empty for the empty text. -/
def firstCluster (t : Text) : Text :=
  t.clusters.head?.getD []

/-- Whether the text is one user-perceived character. -/
def isSingleCluster (t : Text) : Bool :=
  !t.isEmpty && t.composed.clusters.length == 1

theorem ofCodePoint_ne_nil (point : Nat) : ofCodePoint point ≠ [] := by
  unfold ofCodePoint
  split <;> simp

end Text

end Pairing
