/-
**The steps of the reader.**

A code point ends what the reader is in the middle of, or not, and then starts or continues something. Whether
it may, and what comes of it, does not depend on the place that the reader has counted up to, which only a
fault tells:

* `Reader.Ends`: what may end where a code point is read;
* `Reader.Begins`: what a code point may start or continue;
* `Reader.Goes`: the reader goes on in the same way wherever it is, and comes to one of some readers;
* `Reader.feedMarked_goes`: a code point lets the reader go on so, or has a fault.

`Reader.feed_cases` says this of one code point, and `Reader.exists_foldlM_atMark` of a text: a reader that is
moved to another place reads the same.
-/

import Pairing.Json5.Reader

namespace Pairing.Json5

/-- Whether an item or what follows one is expected, as in a list. -/
def Slot.isOfList : Slot → Bool
  | .item | .afterItem => true
  | _ => false

namespace Reader

/-- The reader at another place. -/
def atMark (mark : Mark) (r : Reader) : Reader :=
  { r with mark := mark }

/-- What may end where a code point is read. -/
inductive Ends (r : Reader) : Reader → Prop where
  | nothing : Ends r r
  | value (value : Json) : Ends r (r.putValue value)
  | text (content : Text) : Ends r (r.putText content)

/-- What a code point may start or continue. A record ends with its closing brace. -/
inductive Begins (point : Nat) (r : Reader) : Reader → Prop where
  | within (lexeme : Lexeme) : Begins point r (r.within lexeme)
  | openRecord : Begins point r (r.openFrame (.record [] []) .name)
  | openList : Begins point r (r.openFrame (.list []) .item)
  | closeRecord (brace : point = 0x7D) : Begins point r r.closeFrame
  | closeList (inList : r.slot.isOfList = true) : Begins point r r.closeFrame
  | expectName : Begins point r (r.expecting .name)
  | expectValue : Begins point r (r.expecting .value)
  | expectItem (inList : r.slot.isOfList = true) : Begins point r (r.expecting .item)

/-- What a code point may do to the reader. -/
def Steps (point : Nat) (r s : Reader) : Prop :=
  ∃ ended, r.Ends ended ∧ ended.Begins point s

/-- The reader goes on in the same way wherever it is: it is refused, or it comes to one of some readers. -/
def Goes (r : Reader) (goOn : Reader → Except Fault Reader) (reaches : Reader → Prop) : Prop :=
  (∀ mark, (goOn (r.atMark mark)).toOption = none) ∨
    ∃ s, goOn r = .ok s ∧ reaches s ∧ ∀ mark, goOn (r.atMark mark) = .ok (s.atMark mark)

variable {r s : Reader} {f g : Reader → Except Fault Reader} {reaches further : Reader → Prop} {point : Nat}
  {points : List Nat}

/-! ### Moves that do not look at the place -/

theorem putValue_atMark (value : Json) (mark : Mark) (r : Reader) :
    (r.atMark mark).putValue value = (r.putValue value).atMark mark := by
  obtain ⟨place, slot, frames, lexeme, result⟩ := r
  rcases frames with _ | ⟨items | fields, outer⟩ <;> rfl

theorem putText_atMark (content : Text) (mark : Mark) (r : Reader) :
    (r.atMark mark).putText content = (r.putText content).atMark mark := by
  obtain ⟨place, slot, frames, lexeme, result⟩ := r
  by_cases named : slot = .name
  · subst named
    rcases frames with _ | ⟨items | fields, outer⟩ <;> rfl
  · unfold putText
    rw [if_neg named]
    exact (if_neg named).trans (putValue_atMark _ mark _)

theorem closeFrame_atMark (mark : Mark) (r : Reader) : (r.atMark mark).closeFrame = r.closeFrame.atMark mark := by
  obtain ⟨place, slot, frames, lexeme, result⟩ := r
  rcases frames with _ | ⟨items | ⟨fields, name⟩, outer⟩
  · rfl
  · exact putValue_atMark (.list items.reverse) mark ⟨place, slot, outer, lexeme, result⟩
  · exact putValue_atMark (.record fields) mark ⟨place, slot, outer, lexeme, result⟩

namespace Goes

theorem ok {move : Reader → Reader} (commutes : ∀ mark r, move (r.atMark mark) = (move r).atMark mark)
    (reached : reaches (move r)) : r.Goes (fun r => .ok (move r)) reaches :=
  Or.inr ⟨move r, rfl, reached, fun mark => congrArg Except.ok (commutes mark r)⟩

theorem refuse (point : Nat) : r.Goes (refuse point) reaches :=
  Or.inl fun _ => rfl

theorem ite {p : Prop} [Decidable p] (onTrue : p → r.Goes f reaches) (onFalse : ¬ p → r.Goes g reaches) :
    r.Goes (fun r => if p then f r else g r) reaches := by
  by_cases met : p
  · simpa only [met, if_true] using onTrue met
  · simpa only [met, if_false] using onFalse met

theorem okIte {p : Prop} [Decidable p] {move other : Reader → Reader}
    (onTrue : r.Goes (fun r => .ok (move r)) reaches) (onFalse : r.Goes (fun r => .ok (other r)) reaches) :
    r.Goes (fun r => .ok (if p then move r else other r)) reaches := by
  by_cases met : p
  · simpa only [met, if_true] using onTrue
  · simpa only [met, if_false] using onFalse

theorem mono (goes : r.Goes f reaches) (weaker : ∀ s, reaches s → further s) : r.Goes f further := by
  rcases goes with refused | ⟨s, here, reached, elsewhere⟩
  · exact Or.inl refused
  · exact Or.inr ⟨s, here, weaker s reached, elsewhere⟩

theorem within (lexeme : Lexeme) (reached : reaches (r.within lexeme)) :
    r.Goes (fun r => .ok (r.within lexeme)) reaches :=
  ok (fun _ _ => rfl) reached

theorem expecting (slot : Slot) (reached : reaches (r.expecting slot)) :
    r.Goes (fun r => .ok (r.expecting slot)) reaches :=
  ok (fun _ _ => rfl) reached

end Goes

/-! ### The first code point of a lexeme -/

theorem startValue_goes (point : Nat) (r : Reader) : r.Goes (startValue point) (r.Begins point) := by
  delta startValue
  refine .ite (fun _ => .ok (fun _ _ => rfl) .openRecord) fun _ => ?_
  refine .ite (fun _ => .ok (fun _ _ => rfl) .openList) fun _ => ?_
  iterate 10 refine .ite (fun _ => .within _ (.within _)) fun _ => ?_
  cases digit? point with
  | some value => exact .within _ (.within _)
  | none => exact .refuse point

theorem startToken_goes (point : Nat) (r : Reader) : r.Goes (startToken point) (r.Begins point) := by
  have start := startValue_goes point r
  have closeRecord (brace : point = 0x7D) : r.Goes (fun r => .ok r.closeFrame) (r.Begins point) :=
    .ok closeFrame_atMark (.closeRecord brace)
  have closeList (inList : r.slot.isOfList = true) : r.Goes (fun r => .ok r.closeFrame) (r.Begins point) :=
    .ok closeFrame_atMark (.closeList inList)
  obtain ⟨place, slot, frames, lexeme, result⟩ := r
  cases slot with
  | start | value => exact start
  | item =>
    have goes := Goes.ite (p := point = 0x5D) (fun _ => closeList rfl) fun _ => start
    exact goes
  | name =>
    have goes := Goes.ite (p := point = 0x5C) (fun _ => .within (.nameEscape []) (.within _)) fun _ =>
      Goes.ite (p := point = 0x7D) closeRecord fun _ =>
        Goes.ite (p := isQuote point) (fun _ => .within (.quoted point []) (.within _)) fun _ =>
          Goes.ite (p := startsName point)
            (fun _ => .within (.name (Text.ofCodePoint point)) (.within _)) fun _ => .refuse point
    exact goes
  | colon =>
    have expects : Goes ⟨place, .colon, frames, lexeme, result⟩ _ (Begins point _) :=
      .expecting .value .expectValue
    have goes := Goes.ite (p := point = 0x3A) (fun _ => expects) fun _ => .refuse point
    exact goes
  | afterValue =>
    have goes := Goes.ite (p := point = 0x2C) (fun _ => .expecting .name .expectName) fun _ =>
      Goes.ite (p := point = 0x7D) closeRecord fun _ => .refuse point
    exact goes
  | afterItem =>
    have goes := Goes.ite (p := point = 0x2C) (fun _ => .expecting .item (.expectItem rfl)) fun _ =>
      Goes.ite (p := point = 0x5D) (fun _ => closeList rfl) fun _ => .refuse point
    exact goes
  | done => exact .refuse point

theorem startLexeme_goes (point : Nat) (r : Reader) : r.Goes (startLexeme point) (r.Begins point) := by
  delta startLexeme
  exact .ite (fun _ => .within _ (.within _)) fun _ =>
    .ite (fun _ => .within _ (.within _)) fun _ => startToken_goes point r

/-! ### The other code points of a lexeme -/

theorem Begins.steps (begins : r.Begins point s) : Steps point r s :=
  ⟨r, .nothing, begins⟩

theorem within_goes (lexeme : Lexeme) (point : Nat) (r : Reader) :
    r.Goes (fun r => .ok (r.within lexeme)) (Steps point r) :=
  .within lexeme (Begins.within lexeme).steps

/-- What is under way ends with the code point. -/
theorem ends_goes {move : Reader → Reader} (commutes : ∀ mark r, move (r.atMark mark) = (move r).atMark mark)
    (ends : r.Ends (move r)) (point : Nat) : r.Goes (fun r => .ok (move r)) (Steps point r) :=
  .ok commutes ⟨move r, ends, .within (move r).lexeme⟩

/-- What is under way ends before the code point. -/
theorem endsBefore_goes {move : Reader → Reader}
    (commutes : ∀ mark r, move (r.atMark mark) = (move r).atMark mark) (ends : r.Ends (move r)) (point : Nat) :
    r.Goes (fun r => (move r).startLexeme point) (Steps point r) := by
  rcases startLexeme_goes point (move r) with refused | ⟨s, here, begins, elsewhere⟩
  · refine Or.inl fun mark => ?_
    show ((move (r.atMark mark)).startLexeme point).toOption = none
    rw [commutes]
    exact refused mark
  · refine Or.inr ⟨s, here, ⟨move r, ends, begins⟩, fun mark => ?_⟩
    show (move (r.atMark mark)).startLexeme point = _
    rw [commutes]
    exact elsewhere mark

theorem feedSign_goes (negative : Bool) (point : Nat) (r : Reader) :
    r.Goes (feedSign negative point) (Steps point r) := by
  delta feedSign
  iterate 4 refine .ite (fun _ => within_goes _ point r) fun _ => ?_
  cases digit? point with
  | some value => exact within_goes _ point r
  | none => exact .refuse point

theorem feedQuoted_goes (closer : Nat) (content : Text) (point : Nat) (r : Reader) :
    r.Goes (feedQuoted closer content point) (Steps point r) := by
  delta feedQuoted
  refine .ite (fun _ => within_goes _ point r) fun _ => ?_
  refine .ite (fun _ => ends_goes (putText_atMark content) (.text content) point) fun _ => ?_
  exact .ite (fun _ => .refuse point) fun _ => within_goes _ point r

theorem feedEscape_goes (closer : Nat) (content : Text) (point : Nat) (r : Reader) :
    r.Goes (feedEscape closer content point) (Steps point r) := by
  delta feedEscape
  iterate 11 refine .ite (fun _ => within_goes _ point r) fun _ => ?_
  exact .ite (fun _ => .refuse point) fun _ => within_goes _ point r

theorem feedEscapeDigit_goes (closer : Nat) (content : Text) (left value point : Nat) (r : Reader) :
    r.Goes (feedEscapeDigit closer content left value point) (Steps point r) := by
  delta feedEscapeDigit
  cases hexDigit? point with
  | none => exact .refuse point
  | some digit => exact .ite (fun _ => within_goes _ point r) fun _ => within_goes _ point r

theorem feedNameDigit_goes (content : Text) (left value point : Nat) (r : Reader) :
    r.Goes (feedNameDigit content left value point) (Steps point r) := by
  delta feedNameDigit
  cases hexDigit? point with
  | none => exact .refuse point
  | some digit =>
    refine .ite (fun _ => within_goes _ point r) fun _ => ?_
    -- The fault of a name tells where its escape starts.
    exact .ite (fun _ => within_goes _ point r) fun _ => Or.inl fun _ => rfl

theorem feedNumber_goes (point : Nat) (r : Reader) : r.Goes (feedNumber point) (Steps point r) := by
  obtain ⟨place, slot, frames, lexeme, result⟩ := r
  have ended (value : Json) :
      Goes ⟨place, slot, frames, lexeme, result⟩ (fun r => (r.putValue value).startLexeme point) _ :=
    endsBefore_goes (putValue_atMark value) (.value value) point
  unfold Goes feedNumber atMark at *
  dsimp only
  cases continuesNumber? lexeme point with
  | some more => exact within_goes more point ⟨place, slot, frames, lexeme, result⟩
  | none =>
    cases numberEnding? lexeme with
    | some value => exact ended (.number value)
    | none => exact Or.inl fun _ => rfl

/-- A code point lets the reader go on in the same way wherever it is, or has a fault. -/
theorem feedMarked_goes (point : Nat) (r : Reader) : r.Goes (feedMarked point) (Steps point r) := by
  have within (lexeme : Lexeme) : r.Goes (fun r => .ok (r.within lexeme)) (Steps point r) :=
    within_goes lexeme point r
  have stays : r.Goes (fun r => .ok r) (Steps point r) := within r.lexeme
  obtain ⟨place, slot, frames, lexeme, result⟩ := r
  cases lexeme with
  | nothing => exact (startLexeme_goes point _).mono fun _ => Begins.steps
  | slash =>
    have goes := Goes.ite (p := point = 0x2A) (fun _ => within .blockComment) fun _ =>
      Goes.ite (p := point = 0x2F) (fun _ => within .lineComment) fun _ => .refuse point
    exact goes
  | lineComment =>
    have goes := Goes.okIte (p := endsLine point) (within .nothing) stays
    exact goes
  | blockComment =>
    have goes := Goes.okIte (p := point = 0x2A) (within .blockCommentStar) stays
    exact goes
  | blockCommentStar =>
    have goes := Goes.okIte (p := point = 0x2F) (within .nothing)
      (Goes.okIte (p := point = 0x2A) stays (within .blockComment))
    exact goes
  | quoted closer content => exact feedQuoted_goes closer content point _
  | escape closer content => exact feedEscape_goes closer content point _
  | escapedZero closer content =>
    have goes := Goes.ite (p := (digit? point).isSome) (fun _ => .refuse point) fun _ =>
      feedQuoted_goes closer (content ++ [0]) point ⟨place, slot, frames, .escapedZero closer content, result⟩
    exact goes
  | escapedReturn closer content =>
    have goes := Goes.ite (p := point = 0x0A) (fun _ => within (.quoted closer content)) fun _ =>
      feedQuoted_goes closer content point ⟨place, slot, frames, .escapedReturn closer content, result⟩
    exact goes
  | escapeDigits closer content left value => exact feedEscapeDigit_goes closer content left value point _
  | name content =>
    have goes := Goes.ite (p := point = 0x5C) (fun _ => within (.nameEscape content)) fun _ =>
      Goes.ite (p := continuesName point)
        (fun _ => within (.name (content ++ Text.ofCodePoint point))) fun _ =>
          endsBefore_goes (putText_atMark content) (.text content) point
    exact goes
  | nameEscape content =>
    have goes := Goes.ite (p := point = 0x75) (fun _ => within (.nameDigits content 4 0)) fun _ =>
      .refuse point
    exact goes
  | nameDigits content left value => exact feedNameDigit_goes content left value point _
  | sign negative => exact feedSign_goes negative point _
  | word rest value =>
    cases rest with
    | nil => exact endsBefore_goes (putValue_atMark value) (.value value) point
    | cons expected rest =>
      have goes := Goes.ite (p := point ≠ expected) (fun _ => .refuse point) fun _ =>
        Goes.ite (p := rest.isEmpty)
          (fun _ => ends_goes (putValue_atMark value) (.value value) point) fun _ => within (.word rest value)
      exact goes
  | _ => exact feedNumber_goes point _

/-! ### A text -/

/-- What one more code point does to the reader. -/
theorem feed_cases (fed : r.feed point = .ok s) :
    Steps point (r.atMark (markAfter r.mark point)) s ∧
      ∀ mark, ∃ other, (r.atMark mark).feed point = .ok (s.atMark other) := by
  rcases feedMarked_goes point (r.atMark (markAfter r.mark point)) with refused | ⟨next, here, steps, elsewhere⟩
  · have nothing : (r.feed point).toOption = none := refused (markAfter r.mark point)
    rw [fed] at nothing
    cases nothing
  · obtain rfl : next = s := Except.ok.inj (here.symm.trans fed)
    exact ⟨steps, fun mark => ⟨markAfter mark point, elsewhere (markAfter mark point)⟩⟩

theorem exists_of_foldlM_cons (fed : (point :: points).foldlM feed r = .ok s) :
    ∃ next, r.feed point = .ok next ∧ points.foldlM feed next = .ok s := by
  rw [List.foldlM_cons] at fed
  cases first : r.feed point with
  | error fault =>
    rw [first] at fed
    cases fed
  | ok next =>
    rw [first] at fed
    exact ⟨next, rfl, fed⟩

theorem exists_of_foldlM_append {others : List Nat} (fed : (points ++ others).foldlM feed r = .ok s) :
    ∃ between, points.foldlM feed r = .ok between ∧ others.foldlM feed between = .ok s := by
  rw [List.foldlM_append] at fed
  cases there : points.foldlM feed r with
  | error fault =>
    rw [there] at fed
    cases fed
  | ok between =>
    rw [there] at fed
    exact ⟨between, rfl, fed⟩

/-- A reader that is moved to another place reads the same. -/
theorem exists_foldlM_atMark (fed : points.foldlM feed r = .ok s) (mark : Mark) :
    ∃ other, points.foldlM feed (r.atMark mark) = .ok (s.atMark other) := by
  induction points generalizing r mark with
  | nil =>
    obtain rfl : r = s := Except.ok.inj fed
    exact ⟨mark, rfl⟩
  | cons point rest ih =>
    obtain ⟨next, first, later⟩ := exists_of_foldlM_cons fed
    obtain ⟨other, moved⟩ := (feed_cases first).2 mark
    rw [List.foldlM_cons, moved]
    exact ih later other

end Reader

end Pairing.Json5
