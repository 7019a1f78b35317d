/-
**Languages and filetypes.**

Editors name the kind of a buffer by its filetype, parsers name what is written there by its language,
and the two names often differ.

* `languageFiletypes` — the filetypes of the languages whose names differ from them.
* `distinct` — a list without repetitions. It has the same members, each of them once.
* `languagesOf` — the languages that handle some filetypes; a filetype is also its own language.
* `filetypesOf` — the filetypes that some languages handle, the languages' own names included. Names
  that every record has are no languages, and asking for their filetypes fails.
-/

import Pairing.Fault

namespace Pairing

/-- The filetypes that a language handles, beside the one of its own name. -/
structure LanguageEntry where
  /-- The language. -/
  language : Text
  /-- The filetypes. -/
  filetypes : List Text
  deriving DecidableEq, Repr

/-- The languages and their filetypes, as plain names. -/
def languageNames : List (String × List String) :=
  [("angular", ["htmlangular"]),
   ("bash", ["sh"]),
   ("bibtex", ["bib"]),
   ("c_sharp", ["cs"]),
   ("commonlisp", ["lisp"]),
   ("cooklang", ["cook"]),
   ("devicetree", ["dts"]),
   ("eex", ["elixir"]),
   ("git_config", ["gitconfig"]),
   ("git_rebase", ["gitrebase"]),
   ("godot_resource", ["gdresource"]),
   ("idris", ["idris2"]),
   ("javascript", ["javascriptreact"]),
   ("javascript_glimmer", ["javascript.glimmer"]),
   ("latex", ["tex"]),
   ("linkerscript", ["ld"]),
   ("make", ["automake"]),
   ("markdown", ["pandoc"]),
   ("markdown_inline", ["markdown"]),
   ("muttrc", ["neomuttrc"]),
   ("poe_filter", ["poefilter"]),
   ("powershell", ["ps1"]),
   ("properties", ["jproperties"]),
   ("python", ["gyp"]),
   ("qmljs", ["qml"]),
   ("scala", ["sbt"]),
   ("slang", ["shaderslang"]),
   ("ssh_config", ["sshconfig"]),
   ("terraform", ["terraform-vars"]),
   ("starlark", ["bzl"]),
   ("systemverilog", ["verilog"]),
   ("tcl", ["expect"]),
   ("textproto", ["pbtxt"]),
   ("tsx", ["typescriptreact", "typescript.tsx"]),
   ("typescript_glimmer", ["typescript.glimmer"]),
   ("udev", ["udevrules"]),
   ("xml", ["svg", "xsd", "xslt"]),
   ("xresources", ["xdefaults"])]

/-- The languages whose filetypes have other names. -/
def languageFiletypes : List LanguageEntry :=
  languageNames.map fun (language, filetypes) => ⟨language, filetypes.map Text.ofString⟩

/-- A list with the later repetitions of its elements left out. -/
def distinct {α : Type} [BEq α] (items : List α) : List α :=
  (items.foldl (fun seen item => if seen.contains item then seen else item :: seen) []).reverse

section Distinct

variable {α : Type} [BEq α] [LawfulBEq α]

theorem mem_foldl_distinct {item : α} (items seen : List α) :
    item ∈ items.foldl (fun seen item => if seen.contains item then seen else item :: seen) seen ↔
      item ∈ seen ∨ item ∈ items := by
  induction items generalizing seen with
  | nil => simp
  | cons first rest ih =>
    rw [List.foldl_cons, ih, List.mem_cons]
    split
    · next known =>
      rw [List.contains_iff_mem] at known
      constructor
      · exact Or.imp_right Or.inr
      · rintro (old | rfl | later)
        · exact Or.inl old
        · exact Or.inl known
        · exact Or.inr later
    · rw [List.mem_cons, or_comm (a := item = first), or_assoc]

theorem nodup_foldl_distinct (items : List α) {seen : List α} (apart : seen.Nodup) :
    (items.foldl (fun seen item => if seen.contains item then seen else item :: seen) seen).Nodup := by
  induction items generalizing seen with
  | nil => exact apart
  | cons first rest ih =>
    rw [List.foldl_cons]
    split
    · exact ih apart
    · next new =>
      rw [List.contains_iff_mem] at new
      exact ih (List.nodup_cons.mpr ⟨new, apart⟩)

theorem mem_distinct {item : α} {items : List α} : item ∈ distinct items ↔ item ∈ items := by
  rw [distinct, List.mem_reverse, mem_foldl_distinct]
  simp

theorem nodup_distinct (items : List α) : (distinct items).Nodup :=
  List.pairwise_reverse.mpr ((nodup_foldl_distinct items List.nodup_nil).imp Ne.symm)

end Distinct

/-- The languages that handle any of some filetypes, then the filetypes themselves. -/
def languagesOf (filetypes : List Text) : List Text :=
  let handling := languageFiletypes.filter fun entry =>
    entry.filetypes.any fun filetype => filetypes.contains filetype
  distinct (handling.map (·.language) ++ filetypes)

/-- The names that every record has as functions. -/
def inheritedFunctions : List String :=
  ["constructor", "hasOwnProperty", "isPrototypeOf", "propertyIsEnumerable", "toLocaleString",
    "toString", "valueOf", "__defineGetter__", "__defineSetter__", "__lookupGetter__",
    "__lookupSetter__"]

/-- What a record has under a name that nobody put there: a function, another record, or nothing. -/
inductive Inherited where
  /-- A function. -/
  | function
  /-- A record. -/
  | record
  deriving DecidableEq, Repr

/-- What every record has under a name. -/
def inherited? (name : Text) : Option Inherited :=
  if (inheritedFunctions.map Text.ofString).contains name then some .function
  else if name = Text.ofString "__proto__" then some .record
  else none

/-- The filetypes that the table has for a language. -/
def tableFiletypes (language : Text) : Except Fault (List Text) :=
  match languageFiletypes.find? (·.language == language) with
  | some entry => .ok entry.filetypes
  | none =>
    match inherited? language with
    | some member => .error (.inheritedName (member == .function))
    | none => .ok []

/-- The languages themselves, then the filetypes they handle. -/
def filetypesOf (languages : List Text) : Except Fault (List Text) := do
  let handled ← languages.mapM tableFiletypes
  return distinct (languages ++ handled.flatten)

end Pairing
