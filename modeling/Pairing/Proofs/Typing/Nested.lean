/-
**Typing nested words.**

Whoever types both units of each pair gets what they typed: the closing that an opening brings along is
passed over when it is typed in its turn. This holds of any word in which the pairs are nested, typed
where nothing is left over:

* `Pairs.Nested`: words in which pairs are nested, with other units anywhere between;
* `Buffer.typeWord`: a buffer after the units of a word were pressed one by one;
* `Pairs.IsSettled.opening`, `Pairs.IsSettled.closing`, `Pairs.IsSettled.other`: one press leaves
  nothing over;
* `Pairs.ArePlain.typeWord_nested`: a nested word, by induction on how it is nested;
* `Pairs.ArePlain.typeWord_compiled`: the same of a text and a cursor, with the compiled definitions.
-/

import Pairing.Proofs.Typing.Press

namespace Pairing

open Text Scan Buffer

/-- A word in which pairs are nested. Between the units of pairs stand any other units but backslashes
and newlines. -/
inductive Pairs.Nested (pairs : Pairs) : Text → Prop where
  /-- Nothing at all. -/
  | nil : Nested pairs []
  /-- A unit of no pair, and a nested word. -/
  | other {unit : UInt16} {word : Text} (ofNoPair : unit ∉ pairs.units)
      (notBackslash : unit ≠ backslash) (notNewline : unit ≠ newline) (rest : Nested pairs word) :
      Nested pairs (unit :: word)
  /-- A nested word between the units of a pair, and another one after it. -/
  | pair {o c : UInt16} {inner word : Text} (member : (o, c) ∈ pairs) (inside : Nested pairs inner)
      (rest : Nested pairs word) : Nested pairs (o :: (inner ++ c :: word))

/-- A buffer after the units of a word were pressed one by one. -/
def Buffer.typeWord (index : RuleIndex) (situation : Situation) (buffer : Buffer) (word : Text) : Buffer :=
  word.foldl (press index situation) buffer

theorem Buffer.typeWord_cons (index : RuleIndex) (situation : Situation) (buffer : Buffer)
    (unit : UInt16) (word : Text) :
    buffer.typeWord index situation (unit :: word) =
      (buffer.press index situation unit).typeWord index situation word := rfl

theorem Buffer.typeWord_append (index : RuleIndex) (situation : Situation) (buffer : Buffer)
    (first second : Text) :
    buffer.typeWord index situation (first ++ second) =
      (buffer.typeWord index situation first).typeWord index situation second :=
  List.foldl_append

variable {pairs : Pairs} {a b word : Text} {o c : UInt16} {situation : Situation}

/-! ### One press leaves nothing over -/

namespace Pairs.IsSettled

/-- An opening before the cut has its closing after it. -/
theorem opening (settled : pairs.IsSettled a b) (plain : pairs.ArePlain) (member : (o, c) ∈ pairs) :
    pairs.IsSettled (a ++ [o]) (c :: b) := by
  have notBackslash : o ≠ backslash := fun same => plain.noBackslash (same ▸ opening_mem member)
  refine ⟨fun o' c' member' => ?_, by rw [trailingBackslashes_append_of_ne notBackslash]; decide⟩
  have fits := settled.fits o' c' member'
  by_cases same : (o, c) = (o', c')
  · obtain ⟨rfl, rfl⟩ := Prod.mk.inj same
    exact fits.insertPair (plain.ne member)
  · -- A unit of another pair would make the pairs the same.
    have apart {unit : UInt16} (ofPair : unit = o ∨ unit = c) : unit ≠ o' ∧ unit ≠ c' :=
      ⟨fun first => same (plain.eq_of_common member member' ofPair (Or.inl first)),
        fun second => same (plain.eq_of_common member member' ofPair (Or.inr second))⟩
    obtain ⟨openingIsOther, openingIsNot⟩ := apart (Or.inl rfl)
    obtain ⟨closingIsOther, closingIsNot⟩ := apart (Or.inr rfl)
    exact (Fits.append_other openingIsOther openingIsNot).mpr
      ((Fits.cons_other closingIsOther closingIsNot).mpr fits)

/-- The cut moves over a closing. -/
theorem closing (settled : pairs.IsSettled a (c :: b)) (plain : pairs.ArePlain)
    (member : (o, c) ∈ pairs) : pairs.IsSettled (a ++ [c]) b := by
  have notBackslash : c ≠ backslash := fun same => plain.noBackslash (same ▸ closing_mem member)
  refine ⟨fun o' c' member' => ?_, by rw [trailingBackslashes_append_of_ne notBackslash]; decide⟩
  have fits := settled.fits o' c' member'
  by_cases same : (o, c) = (o', c')
  · obtain ⟨rfl, rfl⟩ := Prod.mk.inj same
    exact fits.passClosing (plain.ne member)
  · have notOpening : c ≠ o' := fun first =>
      same (plain.eq_of_common member member' (Or.inr rfl) (Or.inl first))
    have notClosing : c ≠ c' := fun second =>
      same (plain.eq_of_common member member' (Or.inr rfl) (Or.inr second))
    exact (Fits.append_other notOpening notClosing).mpr ((Fits.cons_other notOpening notClosing).mp fits)

/-- A unit of no pair before the cut changes nothing. -/
theorem other (settled : pairs.IsSettled a b) {unit : UInt16} (ofNoPair : unit ∉ pairs.units)
    (notBackslash : unit ≠ backslash) : pairs.IsSettled (a ++ [unit]) b := by
  refine ⟨fun o c member => ?_, by rw [trailingBackslashes_append_of_ne notBackslash]; decide⟩
  refine (Fits.append_other ?_ ?_).mpr (settled.fits o c member)
  · exact fun same => ofNoPair (same ▸ opening_mem member)
  · exact fun same => ofNoPair (same ▸ closing_mem member)

end Pairs.IsSettled

/-! ### Words -/

namespace Pairs.ArePlain

/-- Typing a nested word at a cut puts it before the cut, and leaves nothing over again. -/
theorem typeWord_nested (plain : pairs.ArePlain) (nested : pairs.Nested word)
    (settled : pairs.IsSettled a b) :
    (ofOffset (a ++ b) a.length).typeWord pairs.index situation word =
        ofOffset ((a ++ word) ++ b) (a ++ word).length ∧
      pairs.IsSettled (a ++ word) b := by
  induction nested generalizing a b with
  | nil =>
    rw [List.append_nil]
    exact ⟨rfl, settled⟩
  | @other unit word ofNoPair notBackslash _ _ rest =>
    obtain ⟨typed, settledAfter⟩ := rest (settled.other ofNoPair notBackslash)
    have parts : a ++ [unit] ++ word = a ++ unit :: word := by simp
    rw [parts] at typed settledAfter
    refine ⟨?_, settledAfter⟩
    rw [typeWord_cons, plain.press_other ofNoPair]
    exact typed
  | @pair o c inner word member _ _ inside rest =>
    have settledIn := settled.opening plain member
    obtain ⟨typedIn, settledInside⟩ := inside settledIn
    have settledOut := settledInside.closing plain member
    obtain ⟨typedOut, settledAfter⟩ := rest settledOut
    have parts : a ++ [o] ++ inner ++ [c] ++ word = a ++ o :: (inner ++ c :: word) := by simp
    rw [parts] at typedOut settledAfter
    refine ⟨?_, settledAfter⟩
    -- The opening, the word inside, the closing, and the word after it.
    calc (ofOffset (a ++ b) a.length).typeWord pairs.index situation (o :: (inner ++ c :: word))
        = ((ofOffset (a ++ [o] ++ c :: b) (a ++ [o]).length).typeWord pairs.index situation
            inner).typeWord pairs.index situation (c :: word) := by
          rw [typeWord_cons, plain.press_opening settled member, typeWord_append]
      _ = (ofOffset (a ++ [o] ++ inner ++ [c] ++ b) (a ++ [o] ++ inner ++ [c]).length).typeWord
            pairs.index situation word := by
          rw [typedIn, typeWord_cons, plain.press_closing settledInside member]
      _ = _ := typedOut

/-- Where a text is settled: the scan of the text reports nothing on either side of the cursor. -/
theorem isSettled_of_reports (plain : pairs.ArePlain) (notEscaped : a.trailingBackslashes % 2 ≠ 1)
    (reports : ∀ o c, (o, c) ∈ pairs →
      (Oracle.ofText (a ++ b)).unmatchedOpening [] ⟨[o], [c]⟩ ((a ++ b).positionAt a.length) = .ok none ∧
      (Oracle.ofText (a ++ b)).unmatchedClosing [] ⟨[o], [c]⟩ ((a ++ b).positionAt a.length) = .ok none) :
    pairs.IsSettled a b := by
  refine ⟨fun o c member => (fits_iff (plain.ne member) a b).mpr ?_, notEscaped⟩
  obtain ⟨opening, closing⟩ := reports o c member
  have place : (a ++ b).offsetAt ((a ++ b).positionAt a.length) = a.length :=
    offsetAt_positionAt (by simp)
  simp only [Oracle.ofText, place, Except.ok.injEq, Option.map_eq_none_iff] at opening closing
  exact ⟨opening, closing⟩

/-- **Typing a nested word of plain pairs writes just this word.** The definitions of plain pairs
compile, and with the index that they compile to, typing a nested word into a text puts exactly this word
there and the cursor behind it. The cursor may stand anywhere where it is not escaped and where the scan
of the text reports nothing of any pair, neither an opening before it nor a closing after it. -/
theorem typeWord_compiled (plain : pairs.ArePlain) :
    ∃ index, RuleIndex.compile (.ofClosings pairs.closings) = .ok index ∧
      ∀ (situation : Situation) (t : Text) (place : Nat) (word : Text), place ≤ t.length →
        trailingBackslashes (t.take place) % 2 ≠ 1 →
        (∀ o c, (o, c) ∈ pairs →
          (Oracle.ofText t).unmatchedOpening [] ⟨[o], [c]⟩ (t.positionAt place) = .ok none ∧
          (Oracle.ofText t).unmatchedClosing [] ⟨[o], [c]⟩ (t.positionAt place) = .ok none) →
        pairs.Nested word →
          ((ofOffset t place).typeWord index situation word).text =
            t.take place ++ word ++ t.drop place ∧
          ((ofOffset t place).typeWord index situation word).offset = place + word.length := by
  refine ⟨pairs.index, plain.compile_closings, ?_⟩
  intro situation t place word inside notEscaped reports nested
  obtain ⟨a, b, rfl, rfl⟩ : ∃ a b, t = a ++ b ∧ place = a.length :=
    ⟨t.take place, t.drop place, by simp, by simp [inside]⟩
  rw [List.take_left] at notEscaped
  have settled := plain.isSettled_of_reports notEscaped reports
  have typed : (ofOffset (a ++ b) a.length).typeWord pairs.index situation word =
      ofOffset ((a ++ word) ++ b) (a ++ word).length := (plain.typeWord_nested nested settled).1
  rw [typed, List.take_left, List.drop_left]
  refine ⟨rfl, ?_⟩
  rw [offset_ofOffset_append, List.length_append, Int.natCast_add]

end Pairs.ArePlain

/-- Brackets in parentheses, typed into an assignment. -/
theorem Pairs.typeWord_brackets :
    let pairs : Pairs := [(0x28, 0x29), (0x5B, 0x5D)]
    let t : Text := "a = ;"
    let word : Text := "([x])"
    ∃ index, RuleIndex.compile (.ofClosings pairs.closings) = .ok index ∧
      ∀ situation, ((ofOffset t 4).typeWord index situation word).text = Text.ofString "a = ([x]);" ∧
        ((ofOffset t 4).typeWord index situation word).offset = 9 := by
  intro pairs t word
  have composed : ∀ unit ∈ pairs.units, Text.composed [unit] = [unit] := by
    intro unit member
    obtain rfl | rfl | rfl | rfl : unit = 0x28 ∨ unit = 0x29 ∨ unit = 0x5B ∨ unit = 0x5D := by
      simpa [pairs, units] using member
    all_goals decide +kernel
  have plain : pairs.ArePlain := ⟨by decide, composed, by decide, by decide⟩
  have letter : pairs.Nested "x" := .other (by decide) (by decide) (by decide) .nil
  have brackets : pairs.Nested "[x]" := @Nested.pair pairs 0x5B 0x5D "x" [] (by decide) letter .nil
  have nested : pairs.Nested word := @Nested.pair pairs 0x28 0x29 "[x]" [] (by decide) brackets .nil
  obtain ⟨index, compiled, types⟩ := Pairs.ArePlain.typeWord_compiled plain
  refine ⟨index, compiled, fun situation => ?_⟩
  have place : t.offsetAt (t.positionAt (4 : Nat)) = (4 : Nat) := offsetAt_positionAt (by decide)
  refine types situation t 4 word (by decide) (by decide) (fun o c member => ?_) nested
  simp only [Oracle.ofText, place]
  simp only [pairs, List.mem_cons, List.not_mem_nil, or_false, Prod.mk.injEq] at member
  obtain ⟨rfl, rfl⟩ | ⟨rfl, rfl⟩ := member <;> exact ⟨rfl, rfl⟩

end Pairing
