/-
**What becomes of a key at a rule.**

A rule that a key reaches decides on the key or leaves it to the next rule. Which of the two it does, and
in which way it decides, hangs on its delimiters and on the text before the cursor alone; the host is
asked only afterwards.

* `Rule.Turn`, `Rule.turn`: what becomes of a key at a rule;
* `Rule.atTurn`, `run'_decideAmong_cons`: a decision among rules runs as the turn of the first rule says;
* `decideAmong_cons_ends`: it ends as that turn does;
* `openPair_ends`, `closePair_ends`, `openOrClosePair_ends`: the edits that a rule can come to;
* `allActive_ends`, `decidePrintable_ends`: the active rules, among which a key is decided, are some of the rules.
-/

import Pairing.Decision
import Pairing.Proofs.Query.Ends

namespace Pairing

open Text

variable {ctx : Context} {key : Text} {rule : Rule} {rest : List Rule}

/-! ### Texts next to the cursor -/

theorem Context.isBefore_of_ne_nil {t : Text} (nonempty : t ≠ []) :
    ctx.isBefore t false = .ok (ctx.endsBefore t) := by
  simp [Context.isBefore, Context.endsBefore, nonempty]

theorem Context.isAfter_eq_true {t : Text} (found : ctx.isAfter t false = .ok true) :
    t ≠ [] ∧ t <+: ctx.after := by
  unfold Context.isAfter at found
  split at found
  · simp at found
  · next nonempty =>
    exact ⟨by simpa using nonempty, List.isPrefixOf_iff_prefix.mp (by simpa using found)⟩

/-- An answer to whether a text stands at the cursor. -/
theorem Context.isAfter_ends (t : Text) :
    (Query.ofExcept (·.isAfter t false)).Ends ctx
      (fun found => found = true → t ≠ [] ∧ t <+: ctx.after) fun _ => True := by
  refine .ofExcept (fun found given stands => ?_) fun _ _ => trivial
  rw [stands] at given
  exact isAfter_eq_true given

theorem Text.ne_nil_of_indexOf? {part t : Text} {index : Nat} (found : indexOf? part t = some index)
    (later : index ≠ 0) : t ≠ [] := by
  rintro rfl
  unfold indexOf? at found
  split at found
  · exact later (Option.some.inj found).symm
  · simp at found

/-- What stands in a text from a place on where another text was found starts with that text. -/
theorem Text.prefix_drop_of_indexOf? {part t : Text} {index : Nat}
    (found : indexOf? part t = some index) : part <+: t.drop index := by
  induction t generalizing index with
  | nil =>
    unfold indexOf? at found
    split at found
    · next empty => simp [List.isEmpty_iff.mp empty]
    · simp at found
  | cons unit rest ih =>
    unfold indexOf? at found
    split at found
    · next here =>
      obtain rfl := Option.some.inj found
      exact List.isPrefixOf_iff_prefix.mp here
    · obtain ⟨later, inRest, rfl⟩ := Option.map_eq_some_iff.mp found
      exact ih inRest

/-! ### Turns -/

/-- What becomes of a key at a rule. -/
inductive Rule.Turn where
  /-- Opening and closing are the same, and the rule opens or closes. -/
  | either
  /-- The rule opens its pair, without the units of the opening that were typed. -/
  | opens (typed : Nat)
  /-- The rule closes its pair. -/
  | closes
  /-- The next rule decides. -/
  | passes
  /-- The opening does not contain the key. -/
  | fails
  deriving DecidableEq

/-- What becomes of a key at a rule in a context. -/
def Rule.turn (rule : Rule) (key : Text) (ctx : Context) : Turn :=
  if rule.isSymmetric then .either
  else if rule.opening.length = 1 then
    if rule.opening = key then .opens 0 else .closes
  else
    match indexOf? key rule.opening with
    | none => .fails
    | some index =>
      if index = 0 ∨ ctx.endsBefore (rule.opening.take index) = true then .opens index
      else if ctx.endsBefore rule.opening then .closes
      else .passes

theorem Rule.turn_eq_either_iff : rule.turn key ctx = .either ↔ rule.isSymmetric = true := by
  constructor
  · intro either
    unfold turn at either
    split at either
    · next symmetric => exact symmetric
    split at either
    · split at either <;> cases either
    split at either
    · cases either
    split at either
    · cases either
    · split at either <;> cases either
  · intro symmetric
    rw [turn, if_pos symmetric]

/-- What a rule comes to at its turn, given what the next rules come to. -/
def Rule.atTurn (rule : Rule) (key : Text) (next : Query Outcome) : Turn → Query Outcome
  | .either => do return ⟨← openOrClosePair key rule, some rule⟩
  | .opens typed => do return ⟨← openPair key rule typed, some rule⟩
  | .closes => do return ⟨← closePair key rule, some rule⟩
  | .passes => next
  | .fails => throw (.keyOutsideOpening key rule.opening.quoted)

/-- A decision runs as the turn of the first rule says. -/
theorem run'_decideAmong_cons (memo : Memo) :
    (decideAmong key (rule :: rest)).run' ctx memo =
      (rule.atTurn key (decideAmong key rest) (rule.turn key ctx)).run' ctx memo := by
  rw [decideAmong]
  unfold Rule.turn
  split
  · rfl
  split
  · split <;> rfl
  cases place : indexOf? key rule.opening with
  | none => rfl
  | some index =>
  dsimp only
  -- Whether the beginning is there may have been asked or not; the rest of the decision is the same.
  have goOn (startsHere : Bool)
      (known : startsHere = true ↔ index = 0 ∨ ctx.endsBefore (rule.opening.take index) = true) :
      (if startsHere = true then do
        return ⟨← openPair key rule index, some rule⟩
      else do
        if ← Query.ofExcept (·.isBefore rule.opening false) then
          return ⟨← closePair key rule, some rule⟩
        decideAmong key rest : Query Outcome).run' ctx memo =
      (rule.atTurn key (decideAmong key rest)
        (if index = 0 ∨ ctx.endsBefore (rule.opening.take index) = true then .opens index
          else if ctx.endsBefore rule.opening then .closes else .passes)).run' ctx memo := by
    split
    · next starts =>
      rw [if_pos (known.mp starts)]
      rfl
    next startsNot =>
    have later : index ≠ 0 := fun first => startsNot (known.mpr (Or.inl first))
    rw [if_neg (mt known.mpr startsNot), Query.run'_bind_of_ok (Query.run'_ofExcept_ok
      (Context.isBefore_of_ne_nil (Text.ne_nil_of_indexOf? place later)) memo)]
    split <;> rfl
  split
  · next first => exact goOn true (by simp [first])
  · next later =>
    have started : rule.opening.take index ≠ [] := by
      rw [ne_eq, List.take_eq_nil_iff, not_or]
      exact ⟨later, Text.ne_nil_of_indexOf? place later⟩
    rw [Query.run'_bind_of_ok (Query.run'_ofExcept_ok (Context.isBefore_of_ne_nil started) memo)]
    exact goOn _ (by simp [later])

/-- A decision ends as the turn of the first rule does. -/
theorem decideAmong_cons_ends {value : Outcome → Prop} {fault : Fault → Prop}
    (turn : match rule.turn key ctx with
      | .either => (openOrClosePair key rule).Ends ctx (fun edit => value ⟨edit, some rule⟩) fault
      | .opens typed => (openPair key rule typed).Ends ctx (fun edit => value ⟨edit, some rule⟩) fault
      | .closes => (closePair key rule).Ends ctx (fun edit => value ⟨edit, some rule⟩) fault
      | .passes => (decideAmong key rest).Ends ctx value fault
      | .fails => fault (.keyOutsideOpening key rule.opening.quoted)) :
    (decideAmong key (rule :: rest)).Ends ctx value fault := by
  have byRule {query : Query Edit}
      (ends : query.Ends ctx (fun edit => value ⟨edit, some rule⟩) fault) :
      (do return ⟨← query, some rule⟩ : Query Outcome).Ends ctx value fault :=
    ends.bind fun _ meets => .pure meets
  have atTurn : (rule.atTurn key (decideAmong key rest) (rule.turn key ctx)).Ends ctx value fault := by
    cases given : rule.turn key ctx with
    | either =>
      rw [given] at turn
      exact byRule turn
    | opens typed =>
      rw [given] at turn
      exact byRule turn
    | closes =>
      rw [given] at turn
      exact byRule turn
    | passes =>
      rw [given] at turn
      exact turn
    | fails =>
      rw [given] at turn
      exact .throw turn
  intro memo
  rw [run'_decideAmong_cons]
  exact atTurn memo

/-! ### What a rule comes to -/

/-- An edit closes the pair of a rule: it inserts the closing, or passes over the one that stands at the
cursor or after one space. -/
def Edit.Closes (ctx : Context) (rule : Rule) (edit : Edit) : Prop :=
  edit = .insertText rule.closing ∨
    (rule.closing ≠ [] ∧ rule.closing <+: ctx.after ∧ edit = .move rule.closing.length) ∨
    (space :: rule.closing <+: ctx.after ∧ edit = .move (rule.closing.length + 1))

theorem openPair_ends (typed : Nat) :
    (openPair key rule typed).Ends ctx (fun edit => edit = .passThrough key ∨
      edit = .insertPair (rule.opening.drop typed ++ rule.closing) rule.closing.length)
      fun _ => True := by
  unfold openPair
  refine (Query.Ends.any _ _).bind fun allowed _ => ?_
  split
  · exact .pure (Or.inl rfl)
  refine .read ?_
  split
  · exact .pure (Or.inl rfl)
  refine (Query.Ends.any _ _).bind fun unmatched _ => ?_
  split
  · exact .pure (Or.inl rfl)
  · exact .pure (Or.inr rfl)

theorem closePair_ends :
    (closePair key rule).Ends ctx (fun edit => edit = .passThrough key ∨ edit.Closes ctx rule)
      fun _ => True := by
  unfold closePair
  refine (Query.Ends.any _ _).bind fun allowed _ => ?_
  split
  · exact .pure (Or.inl rfl)
  refine (Query.Ends.any _ _).bind fun unmatched _ => ?_
  split
  · exact .pure (Or.inr (Or.inl rfl))
  refine (Context.isAfter_ends _).bind fun next stands => ?_
  split
  · next isNext =>
    obtain ⟨nonempty, isPrefix⟩ := stands isNext
    exact .pure (Or.inr (Or.inr (Or.inl ⟨nonempty, isPrefix, rfl⟩)))
  refine (Context.isAfter_ends _).bind fun padded stands => ?_
  split
  · next isPadded => exact .pure (Or.inr (Or.inr (Or.inr ⟨(stands isPadded).2, rfl⟩)))
  · exact .pure (Or.inr (Or.inl rfl))

/-- The parts of a delimiter that are missing before and after the cursor. -/
def Rule.missingParts (rule : Rule) (ctx : Context) : Text × Text :=
  (rule.opening.drop (overlap ctx.before rule.opening),
    rule.opening.take (rule.opening.length - overlap rule.opening ctx.after))

theorem openOrClosePair_ends :
    (openOrClosePair key rule).Ends ctx (fun edit => edit = .passThrough key ∨
      (rule.opening ≠ [] ∧ rule.opening <+: ctx.after ∧ edit = .move rule.opening.length) ∨
      ∃ opening closing, edit = .insertPair (opening ++ closing) closing.length ∧
        ((opening, closing) = rule.missingParts ctx ∨ (opening, closing) = (rule.opening, rule.opening)))
      fun _ => True := by
  unfold openOrClosePair
  refine (Query.Ends.any _ _).bind fun allowed _ => ?_
  split
  · exact .pure (Or.inl rfl)
  refine .read ?_
  split
  · exact .pure (Or.inl rfl)
  refine (Context.isAfter_ends _).bind fun next stands => ?_
  split
  · next isNext =>
    obtain ⟨nonempty, isPrefix⟩ := stands isNext
    exact .pure (Or.inr (Or.inl ⟨nonempty, isPrefix, rfl⟩))
  split
  · exact .read (.pure (Or.inr (Or.inr ⟨_, _, rfl, Or.inl rfl⟩)))
  · exact .pure (Or.inr (Or.inr ⟨_, _, rfl, Or.inr rfl⟩))

/-- The active rules are some of the rules, and looking for them fails as looking at one of them does. -/
theorem allActive_ends {fault : Fault → Prop} (rules : List Rule) (action : Option Action)
    (each : ∀ rule ∈ rules, (rule.isActive action).Ends ctx (fun _ => True) fault) :
    (Rule.allActive rules action).Ends ctx (fun active => active.Sublist rules) fault := by
  induction rules with
  | nil => exact .pure (List.Sublist.refl _)
  | cons rule rest ih =>
    have restEnds := ih fun other member => each other (List.mem_cons_of_mem _ member)
    unfold Rule.allActive
    refine (each rule List.mem_cons_self).bind fun isActive _ => ?_
    split
    · exact restEnds.bind fun active isSome => .pure (isSome.cons_cons rule)
    · exact restEnds.mono (fun active isSome => isSome.cons rule) fun _ => id

/-- A decision on a key comes to what a decision among some of the rules comes to that the key reaches. -/
theorem decidePrintable_ends {index : RuleIndex} {value : Outcome → Prop}
    (among : ∀ active, active.Sublist (index.rulesFor key) →
      (decideAmong key active).Ends ctx value fun _ => True) :
    (decidePrintable index key).Ends ctx value fun _ => True :=
  (allActive_ends _ none fun _ _ => .any _ _).bind among

end Pairing
