/-
**A text that holds a record.**

The value of a text starts with its first code point that is neither blank nor in a comment. If that is an
opening brace, the value is a record, which ends at a closing brace, and only blanks and comments follow:

* `readerAfter`: the reader after a text;
* `Reader.IsOpen`: the record of the text is open. Only a closing brace changes that;
* `Reader.IsDone`: the value of the text is complete. Nothing changes that;
* `Reader.isFresh`: the reader has found nothing but blanks and comments;
* `read_fromBrace`: the text up to a closing brace that no other one follows reads to the same value, if that
  brace is not in a block comment.
-/

import Pairing.Proofs.Json5.Steps
import Pairing.Proofs.Text.WellFormed

namespace Pairing.Json5

/-- Whether the reader is in the middle of a comment that ends with an asterisk and a slash. -/
def Lexeme.isBlockComment : Lexeme → Bool
  | .blockComment | .blockCommentStar => true
  | _ => false

/-- Nothing is under way, or a comment. -/
def Lexeme.IsBetween : Lexeme → Prop
  | .nothing | .slash | .lineComment | .blockComment | .blockCommentStar => True
  | _ => False

/-- The outermost of the open lists and records is a record. -/
def InRecord : List Frame → Prop
  | [] => False
  | [.list _] => False
  | [.record _ _] => True
  | _ :: frame :: outer => InRecord (frame :: outer)

theorem InRecord.cons {outer : List Frame} (inside : InRecord outer) (frame : Frame) :
    InRecord (frame :: outer) := by
  cases outer with
  | nil => exact inside.elim
  | cons next rest => cases frame <;> exact inside

theorem InRecord.list {items others : List Json} {outer : List Frame} (inside : InRecord (.list items :: outer)) :
    InRecord (.list others :: outer) := by
  cases outer with
  | nil => exact inside
  | cons next rest => exact inside

theorem InRecord.record {fields others : Fields Json} {name other : Text} {outer : List Frame}
    (inside : InRecord (.record fields name :: outer)) : InRecord (.record others other :: outer) := by
  cases outer with
  | nil => exact inside
  | cons next rest => exact inside

namespace Reader

/-- The record of the text is open. -/
structure IsOpen (r : Reader) : Prop where
  inRecord : InRecord r.frames
  unfinished : r.result = none
  /-- An item is expected only in a list. -/
  inList : r.slot.isOfList = true → ∃ items outer, r.frames = .list items :: outer

/-- The value of the text is complete. -/
structure IsDone (r : Reader) (value : Json) : Prop where
  frames : r.frames = []
  slot : r.slot = .done
  result : r.result = some value
  lexeme : r.lexeme.IsBetween

/-- Whether the reader has found nothing but blanks and comments, and is in none of these. -/
def isFresh (r : Reader) : Bool :=
  match r.slot, r.frames, r.lexeme, r.result with
  | .start, [], .nothing, none => true
  | _, _, _, _ => false

variable {r s : Reader} {point : Nat} {points : List Nat} {value : Json}

theorem eq_of_isFresh (fresh : r.isFresh = true) : r = start.atMark r.mark := by
  unfold isFresh at fresh
  split at fresh
  · next slot frames lexeme result =>
    obtain ⟨mark, _, _, _, _⟩ := r
    dsimp only at slot frames lexeme result
    subst slot frames lexeme result
    rfl
  · cases fresh

/-! ### One code point -/

theorem isOpen_of_slot (inRecord : InRecord r.frames) (unfinished : r.result = none)
    (outside : r.slot.isOfList = false) : r.IsOpen := by
  refine ⟨inRecord, unfinished, fun inList => ?_⟩
  rw [outside] at inList
  cases inList

theorem isOpen_putValue (inRecord : InRecord r.frames) (unfinished : r.result = none) (value : Json) :
    (r.putValue value).IsOpen := by
  obtain ⟨mark, slot, frames, lexeme, result⟩ := r
  rcases frames with _ | ⟨items | ⟨fields, name⟩, outer⟩
  · exact inRecord.elim
  · exact ⟨InRecord.list inRecord, unfinished, fun _ => ⟨_, _, rfl⟩⟩
  · exact isOpen_of_slot (InRecord.record inRecord) unfinished rfl

theorem IsOpen.ends (isOpen : r.IsOpen) (ends : r.Ends s) : s.IsOpen := by
  cases ends with
  | nothing => exact isOpen
  | value value => exact isOpen_putValue isOpen.inRecord isOpen.unfinished value
  | text content =>
    unfold putText
    split
    · split
      · next fields name outer frames =>
        exact isOpen_of_slot (InRecord.record (frames ▸ isOpen.inRecord)) isOpen.unfinished rfl
      · exact isOpen
    · exact isOpen_putValue isOpen.inRecord isOpen.unfinished _

/-- What is closed is within something, or is the record of the text, whose value is complete then. -/
theorem IsOpen.closeFrame (isOpen : r.IsOpen) :
    r.closeFrame.IsOpen ∨ ∃ fields name, r.frames = [.record fields name] ∧
      r.closeFrame.IsDone (.record fields) ∧ r.closeFrame.lexeme = .nothing := by
  obtain ⟨mark, slot, frames, lexeme, result⟩ := r
  obtain ⟨inRecord, unfinished, -⟩ := isOpen
  rcases frames with _ | ⟨items | ⟨fields, name⟩, _ | ⟨next, rest⟩⟩
  · exact inRecord.elim
  · exact inRecord.elim
  · exact Or.inl (isOpen_putValue (r := ⟨mark, slot, next :: rest, lexeme, result⟩) inRecord unfinished _)
  · exact Or.inr ⟨fields, name, rfl, ⟨rfl, rfl, rfl, trivial⟩, rfl⟩
  · exact Or.inl (isOpen_putValue (r := ⟨mark, slot, next :: rest, lexeme, result⟩) inRecord unfinished _)

theorem IsOpen.begins (isOpen : r.IsOpen) (begins : r.Begins point s) :
    s.IsOpen ∨ point = 0x7D ∧ ∃ fields, s.IsDone (.record fields) ∧ s.lexeme = .nothing := by
  cases begins with
  | within lexeme => exact Or.inl ⟨isOpen.inRecord, isOpen.unfinished, isOpen.inList⟩
  | openRecord => exact Or.inl (isOpen_of_slot (isOpen.inRecord.cons _) isOpen.unfinished rfl)
  | openList => exact Or.inl ⟨isOpen.inRecord.cons _, isOpen.unfinished, fun _ => ⟨_, _, rfl⟩⟩
  | closeRecord brace =>
    refine isOpen.closeFrame.imp_right ?_
    rintro ⟨fields, name, -, closed⟩
    exact ⟨brace, fields, closed⟩
  | closeList inList =>
    obtain ⟨items, outer, inside⟩ := isOpen.inList inList
    refine Or.inl (isOpen.closeFrame.resolve_right ?_)
    rintro ⟨fields, name, only, -⟩
    rw [only] at inside
    cases inside
  | expectName | expectValue => exact Or.inl (isOpen_of_slot isOpen.inRecord isOpen.unfinished rfl)
  | expectItem inList => exact Or.inl ⟨isOpen.inRecord, isOpen.unfinished, fun _ => isOpen.inList inList⟩

theorem IsOpen.of_feed (isOpen : r.IsOpen) (fed : r.feed point = .ok s) :
    s.IsOpen ∨ point = 0x7D ∧ ∃ fields, s.IsDone (.record fields) ∧ s.lexeme = .nothing := by
  obtain ⟨⟨between, ends, begins⟩, -⟩ := feed_cases fed
  have moved : (r.atMark (markAfter r.mark point)).IsOpen :=
    ⟨isOpen.inRecord, isOpen.unfinished, isOpen.inList⟩
  exact (moved.ends ends).begins begins

/-- After the value, the reader goes on between lexemes and in comments. A closing brace stands in a comment. -/
theorem IsDone.of_feed (done : r.IsDone value) (fed : r.feed point = .ok s) :
    s.IsDone value ∧ (point = 0x7D → s.lexeme = .lineComment ∨ s.lexeme = .blockComment) := by
  obtain ⟨mark, slot, frames, lexeme, result⟩ := r
  obtain ⟨rfl, rfl, rfl, between⟩ := done
  have isDone (next : Lexeme) (isBetween : next.IsBetween) :
      IsDone ⟨markAfter mark point, .done, [], next, some value⟩ value := ⟨rfl, rfl, rfl, isBetween⟩
  unfold feed feedMarked at fed
  cases lexeme with
  | nothing =>
    dsimp only at fed
    unfold startLexeme at fed
    split at fed
    · next blank =>
      obtain rfl := Except.ok.inj fed
      refine ⟨isDone .nothing trivial, ?_⟩
      rintro rfl
      exact absurd blank (by decide)
    · split at fed
      · next slash =>
        obtain rfl := Except.ok.inj fed
        exact ⟨isDone .slash trivial, fun brace => by omega⟩
      · cases fed
  | slash =>
    dsimp only at fed
    split at fed
    · obtain rfl := Except.ok.inj fed
      exact ⟨isDone .blockComment trivial, fun _ => Or.inr rfl⟩
    · split at fed
      · obtain rfl := Except.ok.inj fed
        exact ⟨isDone .lineComment trivial, fun _ => Or.inl rfl⟩
      · cases fed
  | lineComment =>
    obtain rfl := Except.ok.inj fed
    split
    · next ends =>
      refine ⟨isDone .nothing trivial, ?_⟩
      rintro rfl
      exact absurd ends (by decide)
    · exact ⟨isDone .lineComment trivial, fun _ => Or.inl rfl⟩
  | blockComment =>
    obtain rfl := Except.ok.inj fed
    split
    · next star => exact ⟨isDone .blockCommentStar trivial, fun brace => by omega⟩
    · exact ⟨isDone .blockComment trivial, fun _ => Or.inr rfl⟩
  | blockCommentStar =>
    obtain rfl := Except.ok.inj fed
    split
    · next slash => exact ⟨isDone .nothing trivial, fun brace => by omega⟩
    · split
      · next star => exact ⟨isDone .blockCommentStar trivial, fun brace => by omega⟩
      · exact ⟨isDone .blockComment trivial, fun _ => Or.inr rfl⟩
  | _ => exact between.elim

/-! ### A text -/

theorem IsDone.of_foldlM (done : r.IsDone value) (fed : points.foldlM feed r = .ok s) : s.IsDone value := by
  induction points generalizing r with
  | nil =>
    obtain rfl := Except.ok.inj fed
    exact done
  | cons point rest ih =>
    obtain ⟨next, first, later⟩ := exists_of_foldlM_cons fed
    exact ih (done.of_feed first).1 later

/-- The record of a text stays open until it is closed, and then its value is complete. -/
theorem IsOpen.of_foldlM (isOpen : r.IsOpen) (fed : points.foldlM feed r = .ok s) :
    s.IsOpen ∨ 0x7D ∈ points ∧ ∃ fields, s.IsDone (.record fields) := by
  induction points generalizing r with
  | nil =>
    obtain rfl := Except.ok.inj fed
    exact Or.inl isOpen
  | cons point rest ih =>
    obtain ⟨next, first, later⟩ := exists_of_foldlM_cons fed
    rcases isOpen.of_feed first with still | ⟨rfl, fields, done, -⟩
    · exact (ih still later).imp_right fun closed => ⟨List.mem_cons_of_mem _ closed.1, closed.2⟩
    · exact Or.inr ⟨List.mem_cons_self, fields, done.of_foldlM later⟩

/-- A text does not end while its record is open. -/
theorem IsOpen.finish_ne (isOpen : r.IsOpen) (value : Json) : r.finish ≠ .ok value := by
  obtain ⟨mark, slot, frames, lexeme, result⟩ := r
  obtain ⟨inRecord, rfl, -⟩ := isOpen
  intro ended
  unfold finish at ended
  dsimp only at ended
  cases number : numberEnding? lexeme with
  | some number =>
    rcases frames with _ | ⟨items | fields, outer⟩
    · exact inRecord
    · simp [number, putValue] at ended
    · simp [number, putValue] at ended
  | none =>
    rw [number] at ended
    dsimp only at ended
    split at ended
    · next kept => split at kept <;> cases kept
    · cases ended

/-- After its value, a text may end with a comment on its last line, but not in a block comment. -/
theorem IsDone.finish_eq (done : r.IsDone value) :
    (r.lexeme = .nothing ∨ r.lexeme = .lineComment → r.finish = .ok value) ∧
      (r.lexeme = .blockComment → ∃ fault, r.finish = .error fault) := by
  obtain ⟨mark, slot, frames, lexeme, result⟩ := r
  obtain ⟨rfl, rfl, rfl, -⟩ := done
  refine ⟨?_, ?_⟩
  · rintro (rfl | rfl) <;> rfl
  · rintro rfl
    exact ⟨_, rfl⟩

theorem IsDone.eq_of_finish {other : Json} (done : r.IsDone value) (ended : r.finish = .ok other) :
    other = value := by
  obtain ⟨mark, slot, frames, lexeme, result⟩ := r
  obtain ⟨rfl, rfl, rfl, between⟩ := done
  cases lexeme with
  | nothing | lineComment => exact (Except.ok.inj ended).symm
  | slash | blockComment | blockCommentStar => cases ended
  | _ => exact between.elim

end Reader

open Reader

/-- The reader after a text, or the first fault in it. -/
def readerAfter (t : Text) : Except Fault Reader :=
  t.codePoints.foldlM feed start

/-! ### Braces among code points -/

variable {lead inside after t : Text} {mark : Mark} {value : Json}

theorem codePoints_cons_of_plain {unit : UInt16} (plain : Text.isLeading unit = false) (t : Text) :
    Text.codePoints (unit :: t) = unit.toNat :: t.codePoints := by
  cases t with
  | nil => rfl
  | cons next rest => rw [Text.codePoints, if_neg (by simp [plain])]

theorem codePoints_append_cons_of_plain {unit : UInt16} (notLeading : Text.isLeading unit = false)
    (notTrailing : Text.isTrailing unit = false) (front t : Text) :
    Text.codePoints (front ++ unit :: t) = front.codePoints ++ unit.toNat :: t.codePoints := by
  rw [Text.codePoints_append, codePoints_cons_of_plain notLeading]
  rintro ⟨leading, trailing, -, first, -, isTrailing⟩
  obtain rfl := Option.some.inj first
  rw [notTrailing] at isTrailing
  cases isTrailing

theorem notMem_codePoints {unit : UInt16} (absent : unit ∉ t) : unit.toNat ∉ t.codePoints := by
  intro present
  have inText : unit ∈ Text.ofCodePoints t.codePoints :=
    List.mem_flatMap.mpr ⟨unit.toNat, present, by rw [Text.ofCodePoint_toNat]; exact List.mem_singleton_self _⟩
  rw [Text.ofCodePoints_codePoints] at inText
  exact absent inText

/-! ### The text of a record alone -/

theorem read_of_readerAfter {r : Reader} (reaches : readerAfter t = .ok r) : read t = r.finish := by
  show (readerAfter t).bind finish = r.finish
  rw [reaches]
  rfl

theorem exists_readerAfter_of_read (reads : read t = .ok value) :
    ∃ r, readerAfter t = .ok r ∧ r.finish = .ok value := by
  replace reads : (readerAfter t).bind finish = .ok value := reads
  cases reached : readerAfter t with
  | error fault =>
    rw [reached] at reads
    cases reads
  | ok r =>
    rw [reached] at reads
    exact ⟨r, rfl, reads⟩

/-- The reader after the brace that opens a record. -/
def opened (mark : Mark) : Reader :=
  ⟨mark, .name, [.record [] []], .nothing, none⟩

theorem isOpen_opened (mark : Mark) : (opened mark).IsOpen :=
  isOpen_of_slot trivial rfl rfl

theorem foldlM_append_eq {r s : Reader} {first second : List Nat} (fed : first.foldlM feed r = .ok s) :
    (first ++ second).foldlM feed r = second.foldlM feed s := by
  rw [List.foldlM_append, fed]
  rfl

/-- Where nothing but blanks and comments stands before a brace, the reader opens a record with it. -/
theorem readerAfter_brace (leads : readerAfter lead = .ok (start.atMark mark)) (t : Text) :
    readerAfter (lead ++ 0x7B :: t) = t.codePoints.foldlM feed (opened (markAfter mark 0x7B)) := by
  unfold readerAfter at leads ⊢
  rw [codePoints_append_cons_of_plain (by decide) (by decide), foldlM_append_eq leads]
  rfl

/-- The brace that opens the record of a text is closed by another one. -/
theorem closingBrace_mem (leads : readerAfter lead = .ok (start.atMark mark))
    (reads : read (lead ++ 0x7B :: t) = .ok value) : 0x7D ∈ t := by
  by_contra absent
  obtain ⟨r, reached, ended⟩ := exists_readerAfter_of_read reads
  rw [readerAfter_brace leads] at reached
  rcases (isOpen_opened _).of_foldlM reached with isOpen | ⟨brace, -⟩
  · exact isOpen.finish_ne value ended
  · exact notMem_codePoints absent brace

/-- The text from the brace that opens its record to its last closing brace reads to the same value if that
does not stand in a block comment, and has a fault if it does. -/
theorem read_fromBrace (leads : readerAfter lead = .ok (start.atMark mark))
    (reads : read (lead ++ 0x7B :: (inside ++ 0x7D :: after)) = .ok value) (last : 0x7D ∉ after) :
    ∃ r, readerAfter (lead ++ 0x7B :: (inside ++ [0x7D])) = .ok r ∧
      (r.lexeme.isBlockComment = false → read (0x7B :: (inside ++ [0x7D])) = .ok value) ∧
      (r.lexeme.isBlockComment = true → ∃ fault, read (0x7B :: (inside ++ [0x7D])) = .error fault) := by
  obtain ⟨ending, reached, ended⟩ := exists_readerAfter_of_read reads
  rw [readerAfter_brace leads, codePoints_append_cons_of_plain (by decide) (by decide)] at reached
  -- What is read inside the braces, with the last closing brace, and after it.
  obtain ⟨within, fedInside, later⟩ := exists_of_foldlM_append reached
  obtain ⟨r, fedBrace, fedAfter⟩ := exists_of_foldlM_cons later
  have fedPiece : (Text.codePoints (inside ++ [0x7D])).foldlM feed (opened (markAfter mark 0x7B)) = .ok r := by
    rw [codePoints_append_cons_of_plain (by decide) (by decide), foldlM_append_eq fedInside,
      List.foldlM_cons]
    show Except.bind (feed within 0x7D) _ = _
    rw [show feed within 0x7D = .ok r from fedBrace]
    rfl
  have isDone : ∃ other, r.IsDone other ∧
      (r.lexeme = .nothing ∨ r.lexeme = .lineComment ∨ r.lexeme = .blockComment) := by
    rcases (isOpen_opened _).of_foldlM fedInside with isOpen | ⟨-, fields, done⟩
    · rcases isOpen.of_feed fedBrace with still | ⟨-, fields, done, nothing⟩
      · rcases still.of_foldlM fedAfter with endsOpen | ⟨brace, -⟩
        · exact absurd ended (endsOpen.finish_ne value)
        · exact absurd brace (notMem_codePoints last)
      · exact ⟨_, done, Or.inl nothing⟩
    · obtain ⟨still, comment⟩ := done.of_feed fedBrace
      exact ⟨_, still, Or.inr (comment rfl)⟩
  obtain ⟨other, done, lexeme⟩ := isDone
  obtain rfl : value = other := (done.of_foldlM fedAfter).eq_of_finish ended
  obtain ⟨place, moved⟩ := exists_foldlM_atMark fedPiece (markAfter ⟨1, 0⟩ 0x7B)
  have alone : readerAfter (0x7B :: (inside ++ [0x7D])) = .ok (r.atMark place) := by
    have fresh : readerAfter [] = .ok (start.atMark ⟨1, 0⟩) := rfl
    exact (readerAfter_brace fresh _).trans moved
  have movedDone : (r.atMark place).IsDone value := ⟨done.frames, done.slot, done.result, done.lexeme⟩
  refine ⟨r, (readerAfter_brace leads _).trans fedPiece, ?_⟩
  rw [read_of_readerAfter alone]
  obtain ⟨endsOutside, endsInComment⟩ := movedDone.finish_eq
  have outside (ends : r.lexeme = .nothing ∨ r.lexeme = .lineComment) :
      r.lexeme.isBlockComment = false := by
    rcases ends with same | same <;> rw [same] <;> rfl
  rcases or_assoc.mpr lexeme with ends | same
  · refine ⟨fun _ => endsOutside ends, fun inComment => ?_⟩
    rw [outside ends] at inComment
    cases inComment
  · refine ⟨fun notInComment => ?_, fun _ => endsInComment same⟩
    rw [same] at notInComment
    cases notInComment

end Pairing.Json5
