/-
**The rules in a file.**

A file of rules may be configuration text as it stands, or a document with front matter and a fenced
block.

* `withoutFrontMatter` — a document without the block between lines of three dashes at its start.
* `fencedBlock?` — what the first fenced block holds that is fit for rules.
* `braced?` — what stands from the first opening brace to the last closing brace.
* `extractRules` — the first of these that there is.
-/

import Pairing.Text.Blank

namespace Pairing.RulesFile

/-- What follows a line end at the start of a text. -/
def afterLineEnd? : Text → Option Text
  | 0x0A :: rest => some rest
  | 0x0D :: 0x0A :: rest => some rest
  | _ => none

/-- The text up to the first place where something ends it, and what follows that. -/
def upTo? (ending? : Text → Option Text) : Text → Option (Text × Text)
  | [] => (ending? []).map fun rest => ([], rest)
  | unit :: rest =>
    match ending? (unit :: rest) with
    | some after => some ([], after)
    | none => (upTo? ending? rest).map fun (body, after) => (unit :: body, after)

/-- Three dashes. -/
def dashes : Text := "---"

/-- Three backticks. -/
def fence : Text := "\x60\x60\x60"

/-- What follows a line end and a line of three dashes. -/
def afterDashLine? (t : Text) : Option Text :=
  (afterLineEnd? t).bind fun line => (Text.afterPrefix? dashes line).bind afterLineEnd?

/-- The document after its front matter. -/
def withoutFrontMatter (t : Text) : Text :=
  match ((Text.afterPrefix? dashes t).bind afterLineEnd?).bind (upTo? afterDashLine?) with
  | some (_, rest) => rest
  | none => t

/-- The labels that a fenced block of rules may have, beside none. -/
def labels : List Text :=
  ["jsonc", "json", "json5", "JSON", ""].map Text.ofString

/-- The body of a fenced block, whose opening fence and label the text starts with. -/
def blockBody? (t : Text) : Option Text :=
  (Text.afterPrefix? fence t).bind fun labelled =>
    labels.findSome? fun label =>
      ((Text.afterPrefix? label labelled).bind afterLineEnd?).bind fun body =>
        (upTo? (fun rest => (afterLineEnd? rest).bind (Text.afterPrefix? fence)) body).map (·.1)

/-- The body of the first fenced block. -/
def fencedBlock? : Text → Option Text
  | [] => none
  | unit :: rest => (blockBody? (unit :: rest)).or (fencedBlock? rest)

/-- The text from the first opening brace to the last closing brace after it. -/
def braced? (t : Text) : Option Text :=
  match t.dropWhile (· != 0x7B) with
  | [] => none
  | opener :: rest =>
    match rest.reverse.dropWhile (· != 0x7D) with
    | [] => none
    | inside => some (opener :: inside.reverse)

/-- The rules in a file, without blanks at either end. -/
def extractRules (t : Text) : Text :=
  let document := withoutFrontMatter t
  (((fencedBlock? document).or (braced? document)).getD document).trim

end Pairing.RulesFile
