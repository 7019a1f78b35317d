/-
**Rules as they stand.**

A file of rules that is no document is configuration text, and its rules are looked for between its first
opening and its last closing brace. Comments may hold braces, too, which this search does not tell from those of
the rules:

* `RulesFile.IsPlain`: a file without front matter and without a fenced block;
* `RulesFile.OpensFirst`: the first opening brace of a text opens its value;
* `RulesFile.EndsInBlockComment`: the last closing brace of a text stands in a block comment;
* `RulesFile.extractRules_of_isPlain`: what is taken from such a file;
* `FileSession.read_eq`: what reading a file comes to.

`FileSession.read_plain` says which of these files are read as they stand, and `FileSession.misreads_comments`
which are not.
-/

import Pairing.Proofs.Definition.Compiled
import Pairing.Proofs.Json5.Record
import Pairing.Proofs.RulesFile.Fenced
import Pairing.RulesFile.Session

namespace Pairing

variable {content t front inside after : Text}

/-! ### Texts by their braces -/

/-- A list by the last place of a member. -/
theorem exists_last {α : Type} {a : α} {entries : List α} (present : a ∈ entries) :
    ∃ inside after, entries = inside ++ a :: after ∧ a ∉ after := by
  obtain ⟨behind, before, parts, last⟩ := List.eq_append_cons_of_mem (List.mem_reverse.mpr present)
  refine ⟨before.reverse, behind.reverse, ?_, mt List.mem_reverse.mp last⟩
  rw [← List.reverse_reverse entries, parts]
  simp

namespace Text

variable {unit : UInt16}

theorem dropWhile_ne (absent : unit ∉ front) (t : Text) :
    (front ++ unit :: t).dropWhile (· != unit) = unit :: t := by
  rw [List.dropWhile_append_of_pos fun other member => by
    simpa using fun same : other = unit => absent (same ▸ member)]
  exact List.dropWhile_cons_of_neg (by simp)

theorem takeWhile_ne (absent : unit ∉ front) (t : Text) :
    (front ++ unit :: t).takeWhile (· != unit) = front := by
  rw [List.takeWhile_append_of_pos fun other member => by
    simpa using fun same : other = unit => absent (same ▸ member)]
  rw [List.takeWhile_cons_of_neg (by simp), List.append_nil]

theorem rdropWhile_ne (absent : unit ∉ after) (t : Text) :
    (t ++ unit :: after).rdropWhile (· != unit) = t ++ [unit] := by
  unfold List.rdropWhile
  rw [List.reverse_append, List.reverse_cons, List.append_assoc, List.singleton_append,
    dropWhile_ne (mt List.mem_reverse.mp absent), List.reverse_cons, List.reverse_reverse]

/-- A text that starts and ends with units that are not blank has no blanks to cut off. -/
theorem trim_of_ends {first last : UInt16} (starts : isBlank first = false) (ends : isBlank last = false)
    (inside : Text) : trim (first :: (inside ++ [last])) = first :: (inside ++ [last]) := by
  unfold trim trimStart trimEnd
  rw [List.dropWhile_cons_of_neg (by simp [starts]), ← List.cons_append, List.reverse_append,
    List.reverse_singleton, List.singleton_append, List.dropWhile_cons_of_neg (by simp [ends])]
  simp

end Text

/-! ### Plain files -/

namespace RulesFile

/-- A file without front matter and without a fenced block. -/
structure IsPlain (content : Text) : Prop where
  noFrontMatter : withoutFrontMatter content = content
  noBlock : fencedBlock? content = none

/-- Nothing but blanks and comments stands before the first opening brace of a text, and it stands in none of
these. -/
structure OpensFirst (content : Text) : Prop where
  brace : 0x7B ∈ content
  fresh : ∃ r, Json5.readerAfter (content.takeWhile (· != 0x7B)) = .ok r ∧ r.isFresh = true

/-- The last closing brace of a text stands in a comment that ends with an asterisk and a slash. -/
def EndsInBlockComment (content : Text) : Prop :=
  ∃ r, Json5.readerAfter (content.rdropWhile (· != 0x7D)) = .ok r ∧ r.lexeme.isBlockComment = true

theorem braced?_eq (first : 0x7B ∉ front) (last : 0x7D ∉ after) :
    braced? (front ++ 0x7B :: (inside ++ 0x7D :: after)) = some (0x7B :: (inside ++ [0x7D])) := by
  unfold braced?
  rw [Text.dropWhile_ne first]
  dsimp only
  rw [List.reverse_append, List.reverse_cons, List.append_assoc, List.singleton_append,
    Text.dropWhile_ne (mt List.mem_reverse.mp last)]
  dsimp only
  rw [List.reverse_cons, List.reverse_reverse]

/-- From a plain file the text from its first opening to its last closing brace is taken. -/
theorem extractRules_of_isPlain (plain : IsPlain (front ++ 0x7B :: (inside ++ 0x7D :: after)))
    (first : 0x7B ∉ front) (last : 0x7D ∉ after) :
    extractRules (front ++ 0x7B :: (inside ++ 0x7D :: after)) = 0x7B :: (inside ++ [0x7D]) := by
  unfold extractRules
  rw [plain.noFrontMatter]
  dsimp only
  rw [plain.noBlock, Option.none_or, braced?_eq first last]
  exact Text.trim_of_ends (by decide) (by decide) inside

end RulesFile

/-! ### Reading texts of rules -/

namespace Text

/-- A unit that is not blank is none of the blanks that a text starts with. -/
theorem mem_dropWhile_isBlank {unit : UInt16} (present : unit ∈ t) (visible : isBlank unit = false) :
    unit ∈ t.dropWhile isBlank := by
  rw [← List.takeWhile_append_dropWhile (p := isBlank) (l := t)] at present
  refine (List.mem_append.mp present).resolve_left fun leading => ?_
  rw [List.mem_takeWhile_imp leading] at visible
  cases visible

theorem trim_ne_nil_of_mem {unit : UInt16} (present : unit ∈ t) (visible : isBlank unit = false) :
    t.trim ≠ [] := by
  have kept := mem_dropWhile_isBlank (List.mem_reverse.mpr (mem_dropWhile_isBlank present visible)) visible
  exact List.ne_nil_of_mem (List.mem_reverse.mpr kept)

end Text

namespace RulesText

/-- A text that is not blank holds the definitions of its value, or it is no configuration text. -/
theorem ofText_of_visible (visible : t.trim ≠ []) :
    (∃ json, Json5.read t = .ok json ∧
      ofText t = .holds (Definitions.read (Data.ofJson json : Data Empty))) ∨
    ∃ fault, Json5.read t = .error fault ∧ ofText t = .malformed fault := by
  unfold ofText
  rw [if_neg (by simpa using visible)]
  cases Json5.read t with
  | ok json => exact Or.inl ⟨json, rfl, rfl⟩
  | error fault => exact Or.inr ⟨fault, rfl, rfl⟩

theorem exists_read_of_outcome {checked : CheckedDefinitions} (visible : t.trim ≠ [])
    (parses : (ofText t).outcome = .ok checked) : ∃ json, Json5.read t = .ok json := by
  rcases ofText_of_visible visible with ⟨json, reads, -⟩ | ⟨fault, -, same⟩
  · exact ⟨json, reads⟩
  · rw [same] at parses
    cases parses

/-- Texts with the same value hold the same definitions. -/
theorem ofText_eq_of_read {other : Text} {json : Json} (visible : t.trim ≠ []) (otherVisible : other.trim ≠ [])
    (reads : Json5.read t = .ok json) (otherReads : Json5.read other = .ok json) : ofText t = ofText other := by
  unfold ofText
  rw [if_neg (by simpa using visible), if_neg (by simpa using otherVisible), reads, otherReads]

end RulesText

namespace FileSession

variable {session : FileSession} {limit : Int}

/-- A file that can be read is read at the first attempt. -/
theorem read_eq (readable : session.host.read session.file.path = .ok content) (attempts : 1 ≤ limit) :
    session.read limit = (session, [.ok (RulesText.ofText (RulesFile.extractRules content))]) := by
  have hasAttempt : (FileRead.start session.file.path limit).hasAttempt = true :=
    decide_eq_true attempts
  have finishes : (FileRead.start session.file.path limit).proceed (.ok content) =
      .finished (.ok (RulesText.ofText (RulesFile.extractRules content))) := by
    unfold FileRead.proceed
    rw [hasAttempt]
    rfl
  show session.proceed (.start session.file.path limit) = _
  unfold proceed
  rw [show (FileRead.start session.file.path limit).path = session.file.path from rfl, readable, finishes]

/-- **A plain file of rules is read as it stands**, whatever its texts and comments hold, if nothing but blanks and
comments stands before the first opening brace, unless its last closing brace stands in a block comment: then it is
taken for malformed. -/
theorem read_plain {checked : CheckedDefinitions} (readable : session.host.read session.file.path = .ok content)
    (attempts : 1 ≤ limit) (plain : RulesFile.IsPlain content)
    (parses : (RulesText.ofText content).outcome = .ok checked) (opensFirst : RulesFile.OpensFirst content) :
    ∃ text : FileText, session.read limit = (session, [text]) ∧
      (¬ RulesFile.EndsInBlockComment content → text.error? = none ∧ text.definitions = checked) ∧
      (RulesFile.EndsInBlockComment content → text.error?.isSome = true ∧ text.definitions = []) := by
  obtain ⟨brace, leading, reached, isFresh⟩ := opensFirst
  have braceVisible : Text.isBlank 0x7B = false := by decide
  have visible := Text.trim_ne_nil_of_mem brace braceVisible
  obtain ⟨json, reads⟩ := RulesText.exists_read_of_outcome visible parses
  -- The file by its first opening and its last closing brace.
  obtain ⟨front, rest, rfl, first⟩ := List.eq_append_cons_of_mem brace
  rw [Text.takeWhile_ne first, Json5.Reader.eq_of_isFresh isFresh] at reached
  obtain ⟨inside, after, rfl, last⟩ := exists_last (Json5.closingBrace_mem reached reads)
  obtain ⟨ending, atLast, readsOutside, faultInComment⟩ := Json5.read_fromBrace reached reads last
  have endsInComment : RulesFile.EndsInBlockComment (front ++ 0x7B :: (inside ++ 0x7D :: after)) ↔
      ending.lexeme.isBlockComment = true := by
    have upToLast : (front ++ 0x7B :: (inside ++ 0x7D :: after)).rdropWhile (· != 0x7D) =
        front ++ 0x7B :: (inside ++ [0x7D]) := by
      have cut := Text.rdropWhile_ne last (front ++ 0x7B :: inside)
      simpa only [List.append_assoc, List.cons_append] using cut
    unfold RulesFile.EndsInBlockComment
    rw [upToLast, atLast]
    refine ⟨?_, fun inComment => ⟨ending, rfl, inComment⟩⟩
    rintro ⟨other, same, inComment⟩
    exact Except.ok.inj same ▸ inComment
  have piecePlace : (0x7B : UInt16) ∈ 0x7B :: (inside ++ [0x7D]) := List.mem_cons_self
  have pieceVisible := Text.trim_ne_nil_of_mem piecePlace braceVisible
  refine ⟨_, read_eq readable attempts, ?_⟩
  rw [RulesFile.extractRules_of_isPlain plain first last, endsInComment]
  refine ⟨fun outside => ?_, fun inComment => ?_⟩
  · rw [RulesText.ofText_eq_of_read pieceVisible visible (readsOutside (by simpa using outside)) reads]
    unfold FileText.error? FileText.definitions
    dsimp only
    rw [parses]
    exact ⟨rfl, rfl⟩
  · obtain ⟨fault, faulty⟩ := faultInComment inComment
    rcases RulesText.ofText_of_visible pieceVisible with ⟨other, otherReads, -⟩ | ⟨other, -, same⟩
    · rw [faulty] at otherReads
      cases otherReads
    · rw [same]
      exact ⟨rfl, rfl⟩

/-- A file with a comment at either end, the last of which holds a brace, and with braces in its rule. -/
theorem read_plain_comments :
    let content : Text := "// pairs\n\x7b\"\x7b\": \"\x7d\"\x7d // \x7d"
    let session := start (Host.start [("rules.jsonc", content)] []) "rules.jsonc"
    ∃ checked, (RulesText.ofText content).outcome = .ok checked ∧ checked ≠ [] ∧
      ∃ text : FileText, session.read FileRead.defaultLimit = (session, [text]) ∧ text.error? = none ∧
        text.definitions = checked := by
  intro content session
  have holds : (RulesText.ofText content).outcome.toOption.map List.length = some 1 := by decide +kernel
  obtain ⟨checked, parses, single⟩ := Option.map_eq_some_iff.mp holds
  have starts : (Json5.readerAfter (content.takeWhile (· != 0x7B))).toOption.map (·.isFresh) = some true := by
    decide +kernel
  obtain ⟨leading, reached, isFresh⟩ := Option.map_eq_some_iff.mp starts
  have ends : (Json5.readerAfter (content.rdropWhile (· != 0x7D))).toOption.map (·.lexeme.isBlockComment) =
      some false := by
    decide +kernel
  have outside : ¬ RulesFile.EndsInBlockComment content := by
    rintro ⟨ending, same, inComment⟩
    rw [same] at ends
    exact Bool.false_ne_true (Option.some.inj ends ▸ inComment)
  obtain ⟨text, reads, asWritten, -⟩ := read_plain (show session.host.read "rules.jsonc" = .ok content from rfl)
    (show 1 ≤ FileRead.defaultLimit by decide) ⟨by decide +kernel, by decide +kernel⟩
    (eq_ok_of_toOption parses) ⟨by decide +kernel, leading, eq_ok_of_toOption reached, isFresh⟩
  refine ⟨checked, eq_ok_of_toOption parses, ?_, text, reads, asWritten outside⟩
  rintro rfl
  cases single

/-- A plain file holds definitions, but there is an error and no definition when it is read. -/
def IsMisread (content : Text) : Prop :=
  RulesFile.IsPlain content ∧
  (∃ checked, (RulesText.ofText content).outcome = .ok checked ∧ checked ≠ []) ∧
  ((start (Host.start [("rules.jsonc", content)] []) "rules.jsonc").read FileRead.defaultLimit).2.map
    (fun text => (text.error?.isSome, text.definitions.isEmpty)) = [(true, true)]

theorem isMisread_of_holds (plain : RulesFile.IsPlain content)
    (holds : (RulesText.ofText content).outcome.toOption.map List.isEmpty = some false)
    (misread : ((start (Host.start [("rules.jsonc", content)] []) "rules.jsonc").read FileRead.defaultLimit).2.map
      (fun text => (text.error?.isSome, text.definitions.isEmpty)) = [(true, true)]) :
    IsMisread content := by
  obtain ⟨checked, parses, nonempty⟩ := Option.map_eq_some_iff.mp holds
  refine ⟨plain, ⟨checked, eq_ok_of_toOption parses, ?_⟩, misread⟩
  rintro rfl
  cases nonempty

/-- Neither a plain file with an opening brace in the comment before its rules nor one with a closing brace in the
block comment after them is read as it stands. -/
theorem misreads_comments :
    IsMisread "// \x7b\n\x7b\"(\": \")\"\x7d" ∧ IsMisread "\x7b\"(\": \")\"\x7d /* \x7d */" := by
  constructor
  · exact isMisread_of_holds ⟨by decide +kernel, by decide +kernel⟩ (by decide +kernel) (by decide +kernel)
  · exact isMisread_of_holds ⟨by decide +kernel, by decide +kernel⟩ (by decide +kernel) (by decide +kernel)

end FileSession

end Pairing
