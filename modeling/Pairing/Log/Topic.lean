/-
**Which notes are kept.**

A note has a topic, and a filter says which topics are kept.

* `TopicPattern.accepts` — whether a topic fits a pattern, in which an asterisk stands for anything.
* `TopicFilter.ofText` — the filter of a text of patterns between blanks and commas. A pattern after a
  hyphen leaves topics out.
* `TopicFilter.accepts` — whether the notes of a topic are kept.
-/

import Pairing.Text.Blank

namespace Pairing

/-- Whether the rest of a topic holds the parts of a pattern that follow an asterisk, each at its first
place after the one before, and ends with the last one. -/
def TopicPattern.acceptsRest : List Text → Text → Bool
  | [], _ => true
  | [last], topic => last.isSuffixOf topic
  | part :: parts, topic =>
    match Text.indexOf? part topic with
    | some place => acceptsRest parts (topic.drop (place + part.length))
    | none => false

/-- Whether a topic fits a pattern, in which an asterisk stands for any text. -/
def TopicPattern.accepts (pattern topic : Text) : Bool :=
  match pattern.splitAtUnit 0x2A with
  | [] | [_] => pattern == topic
  | first :: parts => first.isPrefixOf topic && acceptsRest parts (topic.drop first.length)

/-- Which topics are kept. -/
structure TopicFilter where
  /-- The patterns of the topics that are kept. -/
  kept : List Text
  /-- The patterns of the topics that are left out all the same. -/
  skipped : List Text
  deriving DecidableEq, Repr

namespace TopicFilter

/-- The filter that keeps nothing. -/
def nothing : TopicFilter := ⟨[], []⟩

/-- The filter of a text of patterns. -/
def ofText (t : Text) : TopicFilter :=
  let separated : Text := t.trim.map fun unit => if Text.isBlank unit then 0x2C else unit
  let patterns := (separated.splitAtUnit 0x2C).filter fun pattern => !pattern.isEmpty
  { kept := patterns.filter fun pattern => pattern.head? != some 0x2D
    skipped := (patterns.filter fun pattern => pattern.head? == some 0x2D).map (·.drop 1) }

/-- Whether the notes of a topic are kept. -/
def accepts (filter : TopicFilter) (topic : Text) : Bool :=
  !filter.skipped.any (TopicPattern.accepts · topic) &&
    filter.kept.any (TopicPattern.accepts · topic)

end TopicFilter

end Pairing
