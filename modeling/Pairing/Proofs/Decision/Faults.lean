/-
**When a decision breaks an assumption.**

The place of a key is looked for in an opening of several units, and a decision cannot go on where the
opening does not contain the key. Compiling rules out empty delimiters, but not this:

* `Rule.Admits`: the rule can say where a key stands in its opening, or need not;
* `Definitions.LeadIn`: the openings that definitions declare contain the keys that reach their rules;
* `Query.IsQuiet`, `Rule.IsQuiet`, `Oracle.IsQuiet`: nothing that the host provides throws;
* `firstFault`: what the first rule that does not leave the decision to the next one comes to;
* `decideAmong_ends`: a decision ends in that fault, or in none.

`RuleIndex.compile_admits_iff_leadIn` puts this together: what compiled definitions guarantee, and
exactly when a key trips over one of their rules.
-/

import Pairing.Oracle.Scan
import Pairing.Proofs.Decision.Turn
import Pairing.Proofs.Definition.Checked
import Pairing.Verdict

namespace Pairing

open Text

/-- A rule can say where a key stands in its opening, or need not: opening and closing are the same, or
the opening is one unit. -/
def Rule.Admits (rule : Rule) (key : Text) : Prop :=
  rule.opening ≠ rule.closing → 1 < rule.opening.length → rule.opening.contains key = true

/-- The openings that definitions declare contain both keys that reach their rules: the key that the
definition stands under and the first character of its closing, each in composed form. Only an opening
that is its own closing and an opening of one unit need not. -/
def Definitions.LeadIn (definitions : Definitions) : Prop :=
  ∀ key entry, (key, entry) ∈ definitions.entries →
    opensWith key entry ≠ closesWith entry → 1 < (opensWith key entry).length →
      (opensWith key entry).contains key = true ∧
        (opensWith key entry).contains (closesWith entry).firstCluster.composed = true

/-- The conditions of a rule throw nothing. -/
def Rule.IsQuiet (rule : Rule) (ctx : Context) : Prop :=
  rule.applies.IsQuiet ctx ∧ ∀ action, (rule.allows action).IsQuiet ctx

/-- The questions about delimiters are answered, whatever was asked before. -/
def Oracle.IsQuiet (oracle : Oracle) : Prop :=
  (∀ earlier delimiters place, ∃ found,
    oracle.unmatchedOpening earlier delimiters place = .ok found) ∧
  ∀ earlier delimiters place, ∃ found,
    oracle.unmatchedClosing earlier delimiters place = .ok found

/-- A rule leaves the decision on a key to the next rule: neither the part of its opening before the key
nor the whole opening ends at the cursor. -/
def Rule.passesOn (rule : Rule) (key : Text) (ctx : Context) : Bool :=
  !rule.isSymmetric && rule.opening.length != 1 &&
    match indexOf? key rule.opening with
    | none => false
    | some index =>
      index != 0 && !ctx.endsBefore (rule.opening.take index) && !ctx.endsBefore rule.opening

instance (rule : Rule) (key : Text) : Decidable (rule.Admits key) :=
  inferInstanceAs (Decidable (_ → _ → _))

/-- What the first rule that does not leave the decision to the next one comes to. -/
def firstFault (key : Text) (ctx : Context) : List Rule → Option Fault
  | [] => none
  | rule :: rest =>
    if rule.passesOn key ctx then firstFault key ctx rest
    else if rule.Admits key then none
    else some (.keyOutsideOpening key rule.opening.quoted)

theorem firstFault_eq_none {key : Text} {ctx : Context} {rules : List Rule}
    (admitted : ∀ rule ∈ rules, rule.Admits key) : firstFault key ctx rules = none := by
  induction rules with
  | nil => rfl
  | cons rule rest ih =>
    unfold firstFault
    split
    · exact ih fun other member => admitted other (List.mem_cons_of_mem _ member)
    · rw [if_pos (admitted rule List.mem_cons_self)]

/-! ### One rule -/

variable {ctx : Context} {key : Text} {rule : Rule}

theorem Query.isQuiet_unmatchedOpening (quiet : ctx.oracle.IsQuiet) (delimiters : Delimiters) :
    (unmatchedOpening delimiters).IsQuiet ctx :=
  .read (.ask fun earlier => quiet.1 earlier delimiters ctx.cursor)

theorem Query.isQuiet_unmatchedClosing (quiet : ctx.oracle.IsQuiet) (delimiters : Delimiters) :
    (unmatchedClosing delimiters).IsQuiet ctx :=
  .read (.ask fun earlier => quiet.2 earlier delimiters ctx.cursor)

theorem Context.isAfter_of_ne_nil {t : Text} (nonempty : t ≠ []) :
    ctx.isAfter t false = .ok (t.isPrefixOf ctx.after) := by
  simp [Context.isAfter, nonempty]

theorem openPair_isQuiet (quiet : rule.IsQuiet ctx) (oracle : ctx.oracle.IsQuiet) (typed : Nat) :
    (openPair key rule typed).IsQuiet ctx := by
  unfold openPair
  refine (quiet.2 _).bind fun allowed => ?_
  split
  · exact .pure _
  refine .read ?_
  split
  · exact .pure _
  refine (Query.isQuiet_unmatchedClosing oracle _).bind fun unmatched => ?_
  split <;> exact .pure _

theorem closePair_isQuiet (quiet : rule.IsQuiet ctx) (oracle : ctx.oracle.IsQuiet)
    (nonempty : rule.closing ≠ []) : (closePair key rule).IsQuiet ctx := by
  unfold closePair
  refine (quiet.2 _).bind fun allowed => ?_
  split
  · exact .pure _
  refine (Query.isQuiet_unmatchedOpening oracle _).bind fun unmatched => ?_
  split
  · exact .pure _
  refine (Query.IsQuiet.ofExcept (Context.isAfter_of_ne_nil nonempty)).bind fun next => ?_
  split
  · exact .pure _
  refine (Query.IsQuiet.ofExcept (Context.isAfter_of_ne_nil (by simp))).bind fun padded => ?_
  split <;> exact .pure _

theorem openOrClosePair_isQuiet (quiet : rule.IsQuiet ctx) (nonempty : rule.opening ≠ []) :
    (openOrClosePair key rule).IsQuiet ctx := by
  unfold openOrClosePair
  refine (quiet.2 _).bind fun allowed => ?_
  split
  · exact .pure _
  refine .read ?_
  split
  · exact .pure _
  refine (Query.IsQuiet.ofExcept (Context.isAfter_of_ne_nil nonempty)).bind fun next => ?_
  split
  · exact .pure _
  split
  · exact .read (.pure _)
  · exact .pure _

theorem isActive_isQuiet (quiet : rule.IsQuiet ctx) (action : Option Action) :
    (rule.isActive action).IsQuiet ctx := by
  unfold Rule.isActive
  refine quiet.1.bind fun applies => ?_
  split
  · exact .pure _
  cases action with
  | some action => exact quiet.2 action
  | none => exact .pure _

/-! ### A list of rules -/

theorem Rule.passesOn_of_isSymmetric (symmetric : rule.isSymmetric = true) :
    rule.passesOn key ctx = false ∧ rule.Admits key := by
  refine ⟨by simp [passesOn, symmetric], fun different => ?_⟩
  exact absurd (beq_iff_eq.mp symmetric) different

theorem Rule.passesOn_of_length_eq_one (one : rule.opening.length = 1) :
    rule.passesOn key ctx = false ∧ rule.Admits key := by
  refine ⟨by simp [passesOn, one], fun _ several => ?_⟩
  omega

/-- The turn of a rule tells whether it leaves the decision to the next one, and whether it admits the
key. -/
theorem Rule.passesOn_of_turn (nonempty : rule.opening ≠ []) :
    match rule.turn key ctx with
    | .passes => rule.passesOn key ctx = true
    | .fails => rule.passesOn key ctx = false ∧ ¬ rule.Admits key
    | _ => rule.passesOn key ctx = false ∧ rule.Admits key := by
  unfold turn
  by_cases symmetric : rule.isSymmetric = true
  · rw [if_pos symmetric]
    exact passesOn_of_isSymmetric symmetric
  rw [if_neg symmetric]
  by_cases one : rule.opening.length = 1
  · rw [if_pos one]
    by_cases isOpening : rule.opening = key
    · rw [if_pos isOpening]
      exact passesOn_of_length_eq_one one
    · rw [if_neg isOpening]
      exact passesOn_of_length_eq_one one
  rw [if_neg one]
  have several : 1 < rule.opening.length := by
    have := List.length_pos_iff.mpr nonempty
    omega
  have passesOn : rule.passesOn key ctx = match indexOf? key rule.opening with
      | none => false
      | some index =>
        index != 0 && !ctx.endsBefore (rule.opening.take index) && !ctx.endsBefore rule.opening := by
    simp only [Rule.passesOn, Bool.eq_false_iff.mpr symmetric, bne_iff_ne.mpr one, Bool.not_false,
      Bool.true_and]
  cases place : indexOf? key rule.opening with
  | none =>
    rw [place] at passesOn
    refine ⟨passesOn, fun admits => ?_⟩
    have contained := admits (fun same => symmetric (beq_iff_eq.mpr same)) several
    rw [Text.contains, place] at contained
    cases contained
  | some index =>
    rw [place] at passesOn
    have admits : rule.Admits key := fun _ _ => by rw [Text.contains, place, Option.isSome_some]
    by_cases starts : index = 0 ∨ ctx.endsBefore (rule.opening.take index) = true
    · dsimp only
      rw [if_pos starts]
      refine ⟨?_, admits⟩
      rcases starts with first | stands
      · simp [passesOn, first]
      · simp [passesOn, stands]
    · dsimp only
      rw [if_neg starts]
      rw [not_or, Bool.not_eq_true] at starts
      cases ends : ctx.endsBefore rule.opening with
      | true => exact ⟨by simp [passesOn, ends], admits⟩
      | false => simp [passesOn, starts, ends]

/-- A decision ends in the fault of the first rule that does not leave it to the next one. -/
theorem decideAmong_ends {rules : List Rule} (quiet : ∀ rule ∈ rules, rule.IsQuiet ctx)
    (oracle : ctx.oracle.IsQuiet)
    (nonempty : ∀ rule ∈ rules, rule.opening ≠ [] ∧ rule.closing ≠ []) :
    (decideAmong key rules).Ends ctx (fun _ => firstFault key ctx rules = none)
      fun fault => firstFault key ctx rules = some fault := by
  induction rules with
  | nil => exact .pure rfl
  | cons rule rest ih =>
    have restEnds := ih (fun other member => quiet other (List.mem_cons_of_mem _ member))
      fun other member => nonempty other (List.mem_cons_of_mem _ member)
    have ruleQuiet := quiet rule List.mem_cons_self
    obtain ⟨opening, closing⟩ := nonempty rule List.mem_cons_self
    have known : match rule.turn key ctx with
        | .passes => rule.passesOn key ctx = true
        | .fails => rule.passesOn key ctx = false ∧ ¬ rule.Admits key
        | _ => rule.passesOn key ctx = false ∧ rule.Admits key := Rule.passesOn_of_turn opening
    -- A rule that decides and admits the key comes to no fault.
    have decided (decides : rule.passesOn key ctx = false ∧ rule.Admits key) :
        firstFault key ctx (rule :: rest) = none := by
      rw [firstFault, decides.1, if_neg Bool.false_ne_true, if_pos decides.2]
    refine decideAmong_cons_ends ?_
    cases turn : rule.turn key ctx with
    | either =>
      rw [turn] at known
      exact (openOrClosePair_isQuiet ruleQuiet opening).ends fun _ => decided known
    | opens typed =>
      rw [turn] at known
      exact (openPair_isQuiet ruleQuiet oracle typed).ends fun _ => decided known
    | closes =>
      rw [turn] at known
      exact (closePair_isQuiet ruleQuiet oracle closing).ends fun _ => decided known
    | passes =>
      rw [turn] at known
      have next : firstFault key ctx (rule :: rest) = firstFault key ctx rest := by
        rw [firstFault, if_pos known]
      rw [next]
      exact restEnds
    | fails =>
      rw [turn] at known
      show firstFault key ctx (rule :: rest) = _
      rw [firstFault, known.1, if_neg Bool.false_ne_true, if_neg known.2]

/-! ### Bare closings and scanned texts are quiet -/

theorem Rule.ofClosing_isQuiet (key closing : Text) (order : Nat) (ctx : Context) :
    (Rule.ofClosing key closing order).IsQuiet ctx :=
  ⟨.pure true, fun _ => .pure true⟩

theorem RuleIndex.ofClosings_isQuiet (closings : List (Text × Text)) (key : Text) (ctx : Context) :
    ∀ rule ∈ (RuleIndex.ofClosings closings).rulesFor key, rule.IsQuiet ctx := by
  intro rule reached
  obtain ⟨⟨order, inside, rfl⟩, _⟩ := mem_rulesFor_ofClosings.mp reached
  exact Rule.ofClosing_isQuiet _ _ _ _

theorem Oracle.ofText_isQuiet (t : Text) : (Oracle.ofText t).IsQuiet :=
  ⟨fun _ _ _ => ⟨_, rfl⟩, fun _ _ _ => ⟨_, rfl⟩⟩

/-! ### Compiled definitions -/

/-- The fault of a verdict is that of the first active rule that does not leave the decision to the next
one. -/
theorem RuleIndex.decide_fault {index : RuleIndex}
    (nonempty : ∀ rule ∈ index.rulesFor key, rule.opening ≠ [] ∧ rule.closing ≠ [])
    (quiet : ∀ rule ∈ index.rulesFor key, rule.IsQuiet ctx) (oracle : ctx.oracle.IsQuiet) :
    ∃ active, (Rule.allActive (index.rulesFor key) none).eval ctx = .ok active ∧
      active.Sublist (index.rulesFor key) ∧
      (index.decide .printable key ctx).fault = firstFault key ctx active := by
  have activeEnds := allActive_ends (index.rulesFor key) none fun rule member =>
    isActive_isQuiet (quiet rule member) none
  obtain ⟨active, after, run⟩ :=
    Query.IsQuiet.exists_run' (activeEnds.mono (fun _ _ => trivial) fun _ => id) {}
  have isSome := activeEnds.of_run' run
  refine ⟨active, by rw [Query.eval, run], isSome, ?_⟩
  have ends : (decideAmong key active).Ends ctx (fun _ => firstFault key ctx active = none)
      fun fault => firstFault key ctx active = some fault :=
    decideAmong_ends (fun rule member => quiet rule (isSome.subset member)) oracle
      fun rule member => nonempty rule (isSome.subset member)
  have verdict := ends after
  show (Verdict.ofQuery key .printable (Pairing.decidePrintable index key) ctx).fault = _
  unfold Verdict.ofQuery Pairing.decidePrintable
  rw [Query.run'_bind_of_ok run]
  cases last : (decideAmong key active).run' ctx after with
  | mk outcome memo =>
    rw [last] at verdict
    cases outcome with
    | ok outcome => exact verdict.symm
    | error fault => exact verdict.symm

/-- **What compiled definitions guarantee.** No delimiter is empty. The rules that a key reaches admit it
for every key if and only if the openings of the definitions lead in. And where nothing that the host
provides throws, a key comes to the fault of the first active rule that does not leave the decision to
the next one: to none at all if the openings lead in. -/
theorem RuleIndex.compile_admits_iff_leadIn {definitions : Definitions} {index : RuleIndex}
    (compiled : RuleIndex.compile definitions = .ok index) :
    (∀ key, ∀ rule ∈ index.rulesFor key, rule.opening ≠ [] ∧ rule.closing ≠ []) ∧
    ((∀ key, ∀ rule ∈ index.rulesFor key, rule.Admits key) ↔ definitions.LeadIn) ∧
    ∀ key ctx, (∀ rule ∈ index.rulesFor key, rule.IsQuiet ctx) → ctx.oracle.IsQuiet →
      ∃ active, (Rule.allActive (index.rulesFor key) none).eval ctx = .ok active ∧
        (index.decide .printable key ctx).fault = firstFault key ctx active ∧
        (definitions.LeadIn → (index.decide .printable key ctx).fault = none) := by
  obtain ⟨sound, rules, given, rfl⟩ := RuleIndex.compile_eq_ok_iff.mp compiled
  have nonempty (key : Text) (rule : Rule) (reached : rule ∈ (ofRules rules).rulesFor key) :
      rule.opening ≠ [] ∧ rule.closing ≠ [] := by
    obtain ⟨_, _, _, declared⟩ := sound.exists_entry given (mem_rulesFor_ofRules.mp reached).1
    exact declared.2.2.2
  have admits_iff : (∀ key, ∀ rule ∈ (ofRules rules).rulesFor key, rule.Admits key) ↔
      definitions.LeadIn := by
    constructor
    · intro admitted key entry member different several
      obtain ⟨rule, place, itsKey, opens, closes, _⟩ := sound.exists_rule given member
      rw [← opens, ← closes] at different
      rw [← opens] at several ⊢
      have contains (key : Text) (reaches : key ∈ rule.reachingKeys) :
          rule.opening.contains key = true :=
        admitted key rule (mem_rulesFor_ofRules.mpr ⟨place, reaches⟩) different several
      refine ⟨contains key (Rule.mem_reachingKeys.mpr (Or.inl itsKey.symm)), ?_⟩
      rw [← closes]
      exact contains _ (Rule.mem_reachingKeys.mpr (Or.inr rfl))
    · intro leadIn key rule reached different several
      obtain ⟨place, reaches⟩ := mem_rulesFor_ofRules.mp reached
      obtain ⟨itsOwn, entry, member, itsKey, opens, closes, _⟩ := sound.exists_entry given place
      have contains := leadIn itsOwn entry member
      rw [← opens, ← closes] at contains
      obtain ⟨containsKey, containsClosingKey⟩ := contains different several
      rcases Rule.mem_reachingKeys.mp reaches with rfl | rfl
      · rw [itsKey]
        exact containsKey
      · exact containsClosingKey
  refine ⟨nonempty, admits_iff, fun key ctx quiet oracle => ?_⟩
  obtain ⟨active, ran, isSome, fault⟩ := RuleIndex.decide_fault (nonempty key) quiet oracle
  refine ⟨active, ran, fault, fun leadIn => ?_⟩
  rw [fault]
  exact firstFault_eq_none fun rule member =>
    admits_iff.mpr leadIn key rule (isSome.subset member)

/-- The opening of a comment contains both keys that reach its rule, and neither of them trips over it. -/
theorem RuleIndex.compile_admits_comment :
    let comment : Definition := ⟨"-->", some "<!--", none, none, none, none, fun _ => none⟩
    let index := RuleIndex.ofRules [comment.rule "!" 0]
    let ctx : Context := ⟨"<!--", [], 0, [], .insert, [], .ofText "<!--"⟩
    RuleIndex.compile [(Text.ofString "!", comment.toData)] = .ok index ∧
      (∀ key, ∀ rule ∈ index.rulesFor key, rule.Admits key) ∧
      index.rulesFor "!" = [comment.rule "!" 0] ∧ index.rulesFor "-" = [comment.rule "!" 0] ∧
      ∀ key, (index.decide .printable key ctx).fault = none := by
  intro comment index ctx
  have composed : Text.composed "!" = "!" := by
    decide +kernel
  have compiled : RuleIndex.compile [(Text.ofString "!", comment.toData)] = .ok index := by
    have made := RuleIndex.compile_ofDefinition "!" comment (by decide +kernel) (by decide +kernel)
    rwa [composed] at made
  have leadIn : Definitions.LeadIn [(Text.ofString "!", comment.toData)] := by
    intro key entry member
    obtain ⟨rfl, rfl⟩ := Prod.mk.inj (List.mem_singleton.mp member)
    decide +kernel
  have quiet (key : Text) : ∀ rule ∈ index.rulesFor key, rule.IsQuiet ctx := by
    intro rule reached
    obtain rfl := List.mem_singleton.mp (mem_rulesFor_ofRules.mp reached).1
    exact ⟨.read (.pure _), fun _ => .pure true⟩
  obtain ⟨-, admits_iff, faults⟩ := RuleIndex.compile_admits_iff_leadIn compiled
  refine ⟨compiled, admits_iff.mpr leadIn, rfl, rfl, fun key => ?_⟩
  obtain ⟨_, _, _, noFault⟩ := faults key ctx (quiet key) (Oracle.ofText_isQuiet _)
  exact noFault leadIn

/-- A bare closing is not checked against its key: where both are characters of two units, the closing
reaches the rule and is not found in the opening. -/
theorem RuleIndex.fault_of_twoUnitPair :
    let thumbs : List (Text × Text) := [("👍", "👎")]
    let index := RuleIndex.ofClosings thumbs
    let ctx : Context := ⟨"a", [], 0, [], .insert, [], .ofText "a"⟩
    RuleIndex.compile (.ofClosings thumbs) = .ok index ∧
      (∃ rule ∈ index.rulesFor "👎", ¬ rule.Admits "👎") ∧
      (∀ rule ∈ index.rulesFor "👎", rule.IsQuiet ctx) ∧ ctx.oracle.IsQuiet ∧
      (index.decide .printable "👎" ctx).fault.bind (·.name) = some "RuleInvariantError" := by
  intro thumbs index ctx
  have compiled : RuleIndex.compile (.ofClosings thumbs) = .ok index := by
    refine RuleIndex.compile_ofClosings fun key closing member => ?_
    obtain ⟨rfl, rfl⟩ := Prod.mk.inj (List.mem_singleton.mp member)
    decide +kernel
  have reached : .ofClosing (Text.composed "👍") "👎" 0 ∈ index.rulesFor "👎" :=
    RuleIndex.mem_rulesFor_ofClosings.mpr ⟨⟨0, Nat.one_pos, rfl⟩, by decide +kernel⟩
  exact ⟨compiled, ⟨_, reached, by decide +kernel⟩, RuleIndex.ofClosings_isQuiet _ _ _,
    Oracle.ofText_isQuiet _, by decide +kernel⟩

end Pairing
