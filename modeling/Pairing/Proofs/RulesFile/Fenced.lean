/-
**Rules in a fenced block.**

A document of rules is searched twice for the first place that fits: for the line of dashes that closes its
front matter, and for a fenced block whose label is known. Whatever stands around the block, neither search
stops early or late:

* `Text.afterPrefix?_eq_some_iff`: what follows a text at the start of another one;
* `Text.trim_concat_of_isBlank`: a blank at the end does not count once blanks are cut off;
* `RulesFile.LineEnd`: the two ways to end a line;
* `RulesFile.upTo?_closing`: a body goes on to the first line that closes it;
* `RulesFile.withoutFrontMatter_append`: front matter goes on to the first line of three dashes;
* `RulesFile.fencedBlock?_append`: prose without three backticks does not hide the block after it.

`RulesFile.extractRules_fenced` puts this together.
-/

import Pairing.Proofs.Position.Lines
import Pairing.RulesFile.Extract

namespace Pairing

namespace Text

variable {start front t rest : Text} {unit : UInt16}

/-! ### Starts and ends of texts -/

theorem afterPrefix?_eq_some_iff : afterPrefix? start t = some rest ↔ t = start ++ rest := by
  unfold afterPrefix?
  split
  · next starts =>
    obtain ⟨after, rfl⟩ := List.isPrefixOf_iff_prefix.mp starts
    rw [List.drop_left, Option.some.injEq, List.append_cancel_left_eq]
  · next differs =>
    refine iff_of_false (by simp) ?_
    rintro rfl
    exact differs (List.isPrefixOf_iff_prefix.mpr (List.prefix_append start rest))

theorem afterPrefix?_append (start t : Text) : afterPrefix? start (start ++ t) = some t :=
  afterPrefix?_eq_some_iff.mpr rfl

theorem afterPrefix?_eq_none (differs : ¬ start <+: t) : afterPrefix? start t = none := by
  refine Option.eq_none_iff_forall_ne_some.mpr fun rest found => differs ?_
  rw [afterPrefix?_eq_some_iff] at found
  exact ⟨rest, found.symm⟩

/-- A start does not reach over a unit that it does not have. -/
theorem prefix_of_prefix_append_cons (foreign : unit ∉ start) (starts : start <+: front ++ unit :: rest) :
    start <+: front := by
  rcases List.prefix_or_prefix_of_prefix starts (List.prefix_append front _) with inside | ⟨more, rfl⟩
  · exact inside
  · cases more with
    | nil => exact ⟨[], by rw [List.append_nil, List.append_nil]⟩
    | cons first others =>
      have meets : first :: others <+: unit :: rest := (List.prefix_append_right_inj front).mp starts
      obtain ⟨rfl, -⟩ := List.cons_prefix_cons.mp meets
      exact absurd (List.mem_append_right front List.mem_cons_self) foreign

/-- A blank at the end does not count once blanks are cut off. -/
theorem trim_concat_of_isBlank (blank : isBlank unit = true) (t : Text) : (t ++ [unit]).trim = t.trim := by
  have cut : (t ++ [unit]).trimStart.trimEnd = t.trimStart.trimEnd := by
    unfold trimStart trimEnd
    rw [List.dropWhile_append]
    split
    · next allBlank =>
      rw [List.isEmpty_iff.mp allBlank, List.dropWhile_cons_of_pos blank]
      rfl
    · rw [List.reverse_append, List.reverse_singleton, List.singleton_append,
        List.dropWhile_cons_of_pos blank]
  exact cut

end Text

namespace RulesFile

/-! ### Ends of lines -/

/-- A carriage return, which may stand before a newline at the end of a line. -/
def carriageReturn : UInt16 := 0x0D

/-- How a line ends. -/
inductive LineEnd where
  | newline
  | returnNewline
  deriving DecidableEq, Repr

/-- The units of a line end. -/
def LineEnd.text : LineEnd → Text
  | .newline => [Text.newline]
  | .returnNewline => [carriageReturn, Text.newline]

variable {t line body tail rest start : Text} {unit : UInt16}

theorem afterLineEnd?_text (ending : LineEnd) (t : Text) : afterLineEnd? (ending.text ++ t) = some t := by
  cases ending <;> rfl

theorem afterLineEnd?_cases (ends : afterLineEnd? t = some line) :
    t = Text.newline :: line ∨ t = carriageReturn :: Text.newline :: line := by
  unfold afterLineEnd? at ends
  split at ends
  · exact Or.inl (congrArg (Text.newline :: ·) (Option.some.inj ends))
  · exact Or.inr (congrArg (carriageReturn :: Text.newline :: ·) (Option.some.inj ends))
  · cases ends

theorem afterLineEnd?_cons_of_ne (notReturn : unit ≠ carriageReturn) (notNewline : unit ≠ Text.newline) :
    afterLineEnd? (unit :: t) = none := by
  refine Option.eq_none_iff_forall_ne_some.mpr fun line ends => ?_
  rcases afterLineEnd?_cases ends with same | same
  · exact notNewline (List.cons.inj same).1
  · exact notReturn (List.cons.inj same).1

/-- A text without line ends starts a text that a line end parts only if it starts the first part. -/
theorem prefix_of_prefix_lineEnd {front : Text} {ending : LineEnd} (noReturn : carriageReturn ∉ start)
    (noNewline : Text.newline ∉ start) (starts : start <+: front ++ (ending.text ++ rest)) :
    start <+: front := by
  cases ending with
  | newline => exact Text.prefix_of_prefix_append_cons noNewline starts
  | returnNewline => exact Text.prefix_of_prefix_append_cons noReturn starts

/-! ### Up to a closing line -/

/-- A body goes on to the first line that closes it. The carriage return at its end may be taken for a
part of the line end that follows. -/
theorem upTo?_closing (closes? : Text → Option Text) (ending : LineEnd) (closes : closes? tail = some rest)
    (notBefore : ∀ before after, body = before ++ Text.newline :: after →
      closes? (after ++ (ending.text ++ tail)) = none) :
    ∃ found, upTo? (fun t => (afterLineEnd? t).bind closes?) (body ++ (ending.text ++ tail)) =
        some (found, rest) ∧ (found = body ∨ body = found ++ [carriageReturn]) := by
  induction body with
  | nil =>
    refine ⟨[], ?_, Or.inl rfl⟩
    have here := afterLineEnd?_text ending tail
    cases ending <;> simp only [LineEnd.text, List.nil_append, List.cons_append] at here ⊢ <;>
      simp only [upTo?, here, Option.bind_some, closes]
  | cons first others ih =>
    obtain ⟨found, later, kept⟩ := ih fun before after same =>
      notBefore (first :: before) after (congrArg (first :: ·) same)
    rw [List.cons_append]
    unfold upTo?
    split
    · -- Something closes the body here: only a carriage return that ends it can be why.
      next after ends =>
      obtain ⟨line, lineEnds, lineCloses⟩ := Option.bind_eq_some_iff.mp ends
      rcases afterLineEnd?_cases lineEnds with same | same
      · obtain ⟨rfl, rfl⟩ := List.cons.inj same
        rw [notBefore [] others rfl] at lineCloses
        cases lineCloses
      · obtain ⟨rfl, follows⟩ := List.cons.inj same
        cases others with
        | nil =>
          cases ending with
          | newline =>
            obtain rfl : tail = line := (List.cons.inj follows).2
            rw [closes, Option.some.injEq] at lineCloses
            exact ⟨[], by rw [lineCloses], Or.inr rfl⟩
          | returnNewline => cases (List.cons.inj follows).1
        | cons second more =>
          obtain ⟨rfl, rfl⟩ : second = Text.newline ∧ more ++ (ending.text ++ tail) = line :=
            List.cons.inj follows
          rw [notBefore [carriageReturn] more rfl] at lineCloses
          cases lineCloses
    · refine ⟨first :: found, ?_, ?_⟩
      · rw [later]
        rfl
      · rcases kept with rfl | rfl
        · exact Or.inl rfl
        · exact Or.inr rfl

/-! ### Front matter -/

/-- Front matter with its two lines of dashes. -/
def frontMatter (content : Text) (first second third : LineEnd) : Text :=
  dashes ++ (first.text ++ (content ++ (second.text ++ (dashes ++ third.text))))

/-- A line of three dashes closes front matter, with or without a carriage return at its end. -/
def ClosesFrontMatter (line : Text) : Prop :=
  line = dashes ∨ line = dashes ++ [carriageReturn]

/-- Where something closes front matter after a newline in it, that is one of its lines. -/
theorem exists_closingLine (before : Text) {after : Text} {ending : LineEnd}
    (found : ((Text.afterPrefix? dashes (after ++ (ending.text ++ tail))).bind afterLineEnd?) = some rest) :
    ∃ line ∈ (before ++ Text.newline :: after).lines, ClosesFrontMatter line := by
  obtain ⟨more, dashed, lineEnds⟩ := Option.bind_eq_some_iff.mp found
  rw [Text.afterPrefix?_eq_some_iff] at dashed
  obtain ⟨last, rfl⟩ : dashes <+: after :=
    prefix_of_prefix_lineEnd (by decide) (by decide) ⟨more, dashed.symm⟩
  rw [List.append_assoc, List.append_cancel_left_eq] at dashed
  have inLine : Text.newline ∉ dashes := by decide
  have inReturnLine : Text.newline ∉ dashes ++ [carriageReturn] := by decide
  have ofLine {start : Text} (noNewline : Text.newline ∉ start) :
      start ∈ (before ++ Text.newline :: start).lines := by
    rw [Text.lines_append_newline, Text.lines_eq_singleton noNewline]
    exact List.mem_append_right _ List.mem_cons_self
  have ofLongerLine {start below : Text} (noNewline : Text.newline ∉ start) :
      start ∈ (before ++ Text.newline :: (start ++ Text.newline :: below)).lines := by
    rw [Text.lines_append_newline, Text.lines_append_newline, Text.lines_eq_singleton noNewline]
    exact List.mem_append_right _ (List.mem_append_left _ List.mem_cons_self)
  -- The line is closed by a newline in the text, or ends with the text.
  cases last with
  | nil => exact ⟨dashes, by simpa using ofLine inLine, Or.inl rfl⟩
  | cons unit others =>
    rcases afterLineEnd?_cases (dashed ▸ lineEnds) with same | same
    · obtain ⟨rfl, -⟩ := List.cons.inj same
      exact ⟨dashes, ofLongerLine inLine, Or.inl rfl⟩
    · obtain ⟨rfl, follows⟩ := List.cons.inj same
      cases others with
      | nil => exact ⟨dashes ++ [carriageReturn], ofLine inReturnLine, Or.inr rfl⟩
      | cons second below =>
        obtain ⟨rfl, -⟩ := List.cons.inj follows
        exact ⟨dashes ++ [carriageReturn], by simpa using ofLongerLine inReturnLine, Or.inr rfl⟩

/-- Front matter goes on to the first line of three dashes, and what follows it is the document. -/
theorem withoutFrontMatter_append {content : Text} (isOpen : ∀ line ∈ content.lines, ¬ ClosesFrontMatter line)
    (first second third : LineEnd) (document : Text) :
    withoutFrontMatter (frontMatter content first second third ++ document) = document := by
  have closes : (Text.afterPrefix? dashes (dashes ++ (third.text ++ document))).bind afterLineEnd? =
      some document := by
    rw [Text.afterPrefix?_append, Option.bind_some, afterLineEnd?_text]
  have notBefore (before after : Text) (same : content = before ++ Text.newline :: after) :
      (Text.afterPrefix? dashes (after ++ (second.text ++ (dashes ++ (third.text ++ document))))).bind
        afterLineEnd? = none := by
    refine Option.eq_none_iff_forall_ne_some.mpr fun rest ends => ?_
    obtain ⟨line, member, closing⟩ := exists_closingLine before ends
    exact isOpen line (same ▸ member) closing
  obtain ⟨found, upTo, -⟩ := upTo?_closing
    (fun line => (Text.afterPrefix? dashes line).bind afterLineEnd?) second closes notBefore
  replace upTo : upTo? afterDashLine? (content ++ (second.text ++ (dashes ++ (third.text ++ document)))) =
    some (found, document) := upTo
  have opens : (Text.afterPrefix? dashes (frontMatter content first second third ++ document)).bind
      afterLineEnd? = some (content ++ (second.text ++ (dashes ++ (third.text ++ document)))) := by
    simp only [frontMatter, List.append_assoc]
    rw [Text.afterPrefix?_append, Option.bind_some, afterLineEnd?_text]
  unfold withoutFrontMatter
  rw [opens, Option.bind_some]
  rw [upTo]

/-- A document that does not start with three dashes has no front matter. -/
theorem withoutFrontMatter_eq_self (plain : ¬ dashes <+: t) : withoutFrontMatter t = t := by
  unfold withoutFrontMatter
  rw [Text.afterPrefix?_eq_none plain]
  rfl

/-! ### Fenced blocks -/

/-- A fenced block with its label. -/
def fenced (label body : Text) (opening closing : LineEnd) : Text :=
  fence ++ (label ++ (opening.text ++ (body ++ (closing.text ++ fence))))

/-- Of the labels that there may be, only the one that stands there fits. -/
theorem afterLabel_eq {label other : Text} (known : label ∈ labels) (tried : other ∈ labels)
    (ending : LineEnd) (t : Text) :
    (Text.afterPrefix? other (label ++ (ending.text ++ t))).bind afterLineEnd? =
      if other = label then some t else none := by
  have noReturn : ∀ label ∈ labels, carriageReturn ∉ label := by decide
  have noNewline : ∀ label ∈ labels, Text.newline ∉ label := by decide
  split
  · next same =>
    subst same
    rw [Text.afterPrefix?_append, Option.bind_some, afterLineEnd?_text]
  · next differs =>
    refine Option.bind_eq_none_iff.mpr fun more found => ?_
    rw [Text.afterPrefix?_eq_some_iff] at found
    obtain ⟨left, rfl⟩ : other <+: label :=
      prefix_of_prefix_lineEnd (noReturn other tried) (noNewline other tried) ⟨more, found.symm⟩
    rw [List.append_assoc, List.append_cancel_left_eq] at found
    cases left with
    | nil => exact absurd (List.append_nil other).symm differs
    | cons unit others =>
      have inLabel : unit ∈ other ++ unit :: others := List.mem_append_right _ List.mem_cons_self
      rw [← found]
      exact afterLineEnd?_cons_of_ne (fun same => noReturn _ known (same ▸ inLabel))
        fun same => noNewline _ known (same ▸ inLabel)

theorem findSome?_eq_of_mem {α β : Type} {f : α → Option β} {a : α} {b : β} {entries : List α}
    (member : a ∈ entries) (found : f a = some b) (others : ∀ other ∈ entries, other ≠ a → f other = none) :
    entries.findSome? f = some b := by
  induction entries with
  | nil => cases member
  | cons first rest ih =>
    by_cases same : first = a
    · rw [List.findSome?_cons, same, found]
    · rw [List.findSome?_cons, others first List.mem_cons_self same]
      exact ih ((List.mem_cons.mp member).resolve_left (Ne.symm same))
        fun other later => others other (List.mem_cons_of_mem first later)

/-- A fenced block holds its body. The carriage return at its end may be taken for a part of the line end
that follows. -/
theorem blockBody?_fenced {label : Text} (known : label ∈ labels)
    (isOpen : ¬ Text.newline :: fence <:+: body) (opening closing : LineEnd) (suffix : Text) :
    ∃ found, blockBody? (fenced label body opening closing ++ suffix) = some found ∧
      found.trim = body.trim := by
  have notBefore (before after : Text) (same : body = before ++ Text.newline :: after) :
      Text.afterPrefix? fence (after ++ (closing.text ++ (fence ++ suffix))) = none := by
    refine Text.afterPrefix?_eq_none fun starts => isOpen ?_
    obtain ⟨more, rfl⟩ := prefix_of_prefix_lineEnd (by decide) (by decide) starts
    exact ⟨before, more, by rw [same]; simp⟩
  obtain ⟨found, upTo, kept⟩ := upTo?_closing (Text.afterPrefix? fence) closing
    (Text.afterPrefix?_append fence suffix) notBefore
  refine ⟨found, ?_, ?_⟩
  · unfold blockBody? fenced
    simp only [List.append_assoc]
    rw [Text.afterPrefix?_append, Option.bind_some]
    refine findSome?_eq_of_mem known ?_ fun other tried differs => ?_
    · rw [afterLabel_eq known known, if_pos rfl, Option.bind_some, upTo]
      rfl
    · rw [afterLabel_eq known tried, if_neg differs]
      rfl
  · rcases kept with rfl | rfl
    · rfl
    · exact (Text.trim_concat_of_isBlank (by decide) found).symm

/-- No block starts in prose without three backticks, also not where the prose ends with backticks. -/
theorem blockBody?_eq_none {first : UInt16} {others : Text} (unfenced : ¬ fence <:+: first :: others)
    (t : Text) : blockBody? (first :: others ++ (fence ++ t)) = none := by
  unfold blockBody?
  refine Option.bind_eq_none_iff.mpr fun labelled found => ?_
  rw [Text.afterPrefix?_eq_some_iff] at found
  -- Fewer than three backticks are left of the prose, so another one follows the first three.
  obtain ⟨more, rfl⟩ : ∃ more, labelled = 0x60 :: more := by
    have backticks : fence = [0x60, 0x60, 0x60] := by decide
    rw [backticks] at found unfenced
    rcases others with _ | ⟨second, _ | ⟨third, rest⟩⟩ <;>
      simp only [List.cons_append, List.nil_append, List.cons.injEq] at found
    · exact ⟨t, found.2.2.2.symm⟩
    · exact ⟨0x60 :: t, found.2.2.2.symm⟩
    · obtain ⟨rfl, rfl, rfl, -⟩ := found
      exact absurd ⟨[], rest, rfl⟩ unfenced
  refine List.findSome?_eq_none_iff.mpr fun label tried => ?_
  have noBacktick : ∀ label ∈ labels, (0x60 : UInt16) ∉ label := by decide
  have unfit : (Text.afterPrefix? label (0x60 :: more)).bind afterLineEnd? = none := by
    refine Option.bind_eq_none_iff.mpr fun after follows => ?_
    rw [Text.afterPrefix?_eq_some_iff] at follows
    cases label with
    | nil =>
      rw [List.nil_append] at follows
      rw [← follows]
      exact afterLineEnd?_cons_of_ne (by decide) (by decide)
    | cons unit rest =>
      obtain ⟨rfl, -⟩ := List.cons.inj follows
      exact absurd List.mem_cons_self (noBacktick _ tried)
  rw [unfit, Option.bind_none]

/-- Prose without three backticks does not hide the block after it. -/
theorem fencedBlock?_append {prose found : Text} (unfenced : ¬ fence <:+: prose)
    (block : blockBody? (fence ++ t) = some found) :
    fencedBlock? (prose ++ (fence ++ t)) = some found := by
  induction prose with
  | nil =>
    show (blockBody? (fence ++ t)).or _ = _
    rw [block]
    rfl
  | cons first others ih =>
    show (blockBody? (first :: others ++ (fence ++ t))).or (fencedBlock? (others ++ (fence ++ t))) = _
    rw [blockBody?_eq_none unfenced, Option.none_or]
    exact ih fun inside => unfenced (inside.trans (List.suffix_cons first others).isInfix)

/-! ### Documents of rules -/

/-- **A fenced block is found whatever stands around it.** From a document with a fenced block the body
of the block is taken, without blanks at either end, whatever prose without three backticks stands before
it and whatever stands after it. Without front matter the prose does not start with three dashes; after
front matter it may. -/
theorem extractRules_fenced {prose label body : Text} (unfenced : ¬ fence <:+: prose)
    (known : label ∈ labels) (isOpen : ¬ Text.newline :: fence <:+: body) (opening closing : LineEnd)
    (suffix : Text) :
    (¬ dashes <+: prose →
      extractRules (prose ++ (fenced label body opening closing ++ suffix)) = body.trim) ∧
    ∀ (content : Text) (first second third : LineEnd),
      (∀ line ∈ content.lines, ¬ ClosesFrontMatter line) →
        extractRules (frontMatter content first second third ++
          (prose ++ (fenced label body opening closing ++ suffix))) = body.trim := by
  obtain ⟨found, block, same⟩ := blockBody?_fenced known isOpen opening closing suffix
  have taken : ((fencedBlock? (prose ++ (fenced label body opening closing ++ suffix))).or
      (braced? (prose ++ (fenced label body opening closing ++ suffix)))).getD
        (prose ++ (fenced label body opening closing ++ suffix)) = found := by
    rw [fenced, List.append_assoc] at block ⊢
    rw [fencedBlock?_append unfenced block]
    rfl
  refine ⟨fun undashed => ?_, fun content first second third isFrontMatter => ?_⟩
  · have plain : ¬ dashes <+: prose ++ (fenced label body opening closing ++ suffix) := by
      rw [fenced, List.append_assoc]
      exact fun starts => undashed (Text.prefix_of_prefix_append_cons (by decide) starts)
    unfold extractRules
    rw [withoutFrontMatter_eq_self plain]
    exact (congrArg Text.trim taken).trans same
  · unfold extractRules
    rw [withoutFrontMatter_append isFrontMatter]
    exact (congrArg Text.trim taken).trans same

/-- A body that starts with backticks and ends with a carriage return, below front matter with a line of four
dashes and prose that starts with dashes and ends with backticks. -/
theorem extractRules_fenced_backticks :
    let prose : Text := "---\n# Pairs\n\x60\x60"
    let body : Text := "\x60\x60\x60 \x7b \"(\": \")\" \x7d\x0D"
    let content : Text := "title: pairs\n----\x0D"
    extractRules (frontMatter content .newline .returnNewline .newline ++
      (prose ++ (fenced "json5" body .returnNewline .newline ++ "\n\x60\x60\x60\n---\n"))) =
        Text.ofString "\x60\x60\x60 \x7b \"(\": \")\" \x7d" := by
  intro prose body content
  have unfenced : ¬ fence <:+: prose := by decide +kernel
  have isOpen : ¬ Text.newline :: fence <:+: body := by decide +kernel
  have isFrontMatter : ∀ line ∈ content.lines, ¬ ClosesFrontMatter line := by
    unfold ClosesFrontMatter
    decide +kernel
  have known : Text.ofString "json5" ∈ labels := by decide +kernel
  rw [(extractRules_fenced unfenced known isOpen .returnNewline .newline _).2 content .newline
    .returnNewline .newline isFrontMatter]
  decide +kernel

end RulesFile

end Pairing
