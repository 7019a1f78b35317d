/-
**The rules of a fresh installation.**

* `proseLanguages` — the languages in which an apostrophe after a letter is no quotation mark.
* `DefaultRules.apostrophe` — where an apostrophe opens or closes a quotation.
* `defaultRules` — the definitions. The scopes `singlequote`, `underscore` and `asterisk` are those
  that a host reports where the character is no delimiter, and `angle` is the one where it is.
-/

import Pairing.Definition

namespace Pairing

/-- The languages in which an apostrophe after a letter is no quotation mark. -/
def proseLanguages : List Text :=
  ["bibtex", "comment", "luadoc", "latex", "markdown", "markdown_inline", "typst"].map Text.ofString

namespace DefaultRules

/-- Where an apostrophe opens or closes a quotation: not in plain TeX, of which no syntax is known, not
after a letter in prose, and not where the host knows it to be no delimiter. -/
def apostrophe : Predicate := do
  if (← read).filetype = Text.ofString "plaintex" then return false
  if ← Query.isLanguage proseLanguages then
    if (← read).charUnderCursor.isWord then return false
  return !(← Query.scopeAmong [Text.ofString "singlequote"] .insideOrAfter)

/-- Names as data. -/
def names (languages : List String) : Data HostFunction :=
  Condition.textsData (languages.map Text.ofString)

/-- A definition as data. -/
def definition (closing : String) (fields : List (String × Data HostFunction)) : Data HostFunction :=
  .record ((Text.ofString "closing", .text closing) ::
    fields.map fun (name, value) => (Text.ofString name, value))

/-- The fields of a quotation mark: it neither opens lines nor is padded. -/
def quotation : List (String × Data HostFunction) :=
  [("enter", .bool false), ("space", .bool false)]

/-- The field of a definition that applies only after a text. -/
def afterText (t : String) : String × Data HostFunction :=
  ("when", (Condition.textBefore t).toData)

/-- The field of a definition for some languages. -/
def forLanguages (languages : List String) : String × Data HostFunction :=
  ("languages", names languages)

/-- A scope at the cursor or before it is not the given one. -/
def outsideScope (scope : String) : Condition :=
  .scopeNotAmong [Text.ofString scope] (some .insideOrAfter)

end DefaultRules

open DefaultRules in
/-- The rules of a fresh installation. Definitions of a user replace them key by key. -/
def defaultRules : Definitions :=
  [("!", .list [definition "-->" [("opening", .text "<!--"),
      forLanguages ["html", "markdown", "markdown_inline"]]]),
    ("(", .text ")"),
    ("[", .text "]"),
    ("\x7b", .text "\x7d"),
    ("'", .list [
      definition "'''" [afterText "''", forLanguages ["python"]],
      definition "'" (quotation ++ [("when", .function (.ofPredicate apostrophe))])]),
    ("\"", .list [
      definition "\"#" [("opening", .text "r#\""), forLanguages ["rust"],
        ("priority", .number (.ofNat 100))],
      definition "\"\"\"" [afterText "\"\"",
        forLanguages ["python", "elixir", "julia", "kotlin", "scala"]],
      definition "\"" quotation]),
    ("\x60", .list [
      definition "\x60\x60\x60" [afterText "\x60\x60",
        forLanguages ["markdown", "markdown_inline", "typst", "vimwiki", "rmarkdown", "rmd",
          "quarto"]],
      definition "'" [forLanguages ["bibtex", "latex", "plaintex"]],
      definition "\x60" quotation]),
    ("_", .list [definition "_" [
      ("when", .list [(Condition.charUnderCursor false).toData, (outsideScope "underscore").toData]),
      forLanguages ["typst"]]]),
    ("*", .list [definition "*" [("when", (outsideScope "asterisk").toData),
      forLanguages ["typst"]]]),
    ("<", .list [definition ">" [
      ("when", (Condition.scopeAmong [Text.ofString "angle"] (some .insideOrAfter)).toData),
      forLanguages ["rust"]]]),
    ("$", .list [definition "$" [
      forLanguages ["markdown", "markdown_inline", "typst", "latex", "plaintex"]]])]

end Pairing
