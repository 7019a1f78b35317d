/-
**Rules below the one that decides.**

A rule decides on a key, and further rules that it outranks come into the definitions. Between delimiters
nothing behind the rule is looked at. Where a key inserts, the conditions of all rules that it reaches are
looked at before one of them decides; what is learned from them is what the host answers anyway:

* `Rule.allActive_isSteady`, `Rule.atTurn_isSteady`: decisions among rules without functions are steady;
* `Rule.allActive_isSafe`, `Rule.isSafe_of_allActive`: rules that can be looked at once more;
* `exists_allActive_inserted`: a rule that was found among others is found among more of them;
* `exists_decideAmong_inserted`, `exists_decideBetween_inserted`: decisions among more rules;
* `Definitions.Undisturbed`: what a decision on a key that inserts hangs on beside, with
  `Definitions.Undisturbed.of_isDeclarative` for definitions without functions;
* `RuleIndex.exists_decision_inserted`: decisions on keys of every kind.

`RuleIndex.decide_ignoresOutranked` puts this together. With `Oracle.shifting`, a host whose answers change as it is
asked, `RuleIndex.decide_heedsOutranked_shifting` shows a decision that rules below change.
-/

import Pairing.Proofs.Decision.Deciding
import Pairing.Proofs.Decision.Faults
import Pairing.Proofs.Definition.Declarative
import Pairing.Proofs.Keystroke.Handled

namespace Pairing

variable {ctx : Context} {answers : Answers} {key : Text} {rule : Rule} {rules larger : List Rule}

/-! ### Steady rules -/

namespace Rule

variable {action : Option Action}

theorem isActive_isSteady (steady : rule.IsSteady ctx answers) (action : Option Action) :
    (rule.isActive action).IsSteady ctx answers := by
  refine steady.applies.bind fun applies => .ite (.pure false) ?_
  cases action with
  | none => exact .pure true
  | some action => exact steady.allows action

theorem allActive_isSteady (steady : ∀ rule ∈ rules, rule.IsSteady ctx answers) (action : Option Action) :
    (allActive rules action).IsSteady ctx answers := by
  induction rules with
  | nil => exact .pure []
  | cons first more ih =>
    obtain ⟨ofFirst, ofMore⟩ := List.forall_mem_cons.mp steady
    exact (isActive_isSteady ofFirst action).bind fun isActive =>
      .ite ((ih ofMore).bind fun _ => .pure _) (ih ofMore)

theorem allActive_isSafe (safe : ∀ rule ∈ rules, (rule.isActive action).IsSafe ctx answers) :
    (allActive rules action).IsSafe ctx answers := by
  induction rules with
  | nil => exact .pure []
  | cons first more ih =>
    obtain ⟨ofFirst, ofMore⟩ := List.forall_mem_cons.mp safe
    refine ofFirst.bind fun isActive => ?_
    split
    · exact (ih ofMore).bind fun _ => .pure _
    · exact ih ofMore

/-- Rules that were looked at without failure can be looked at once more. -/
theorem isSafe_of_allActive {memo after : Memo} {active : List Rule}
    (steady : ∀ rule ∈ rules, rule.IsSteady ctx answers) (fit : answers.Fit ctx memo)
    (given : (allActive rules action).run' ctx memo = (.ok active, after)) :
    ∀ rule ∈ rules, (rule.isActive action).IsSafe ctx answers := by
  induction rules generalizing memo after active with
  | nil => exact List.forall_mem_nil _
  | cons first more ih =>
    obtain ⟨ofFirst, ofMore⟩ := List.forall_mem_cons.mp steady
    obtain ⟨isActive, looked, others, run, behind, -⟩ := run'_allActive_cons_iff.mp given
    have steadyFirst := isActive_isSteady ofFirst action
    exact List.forall_mem_cons.mpr
      ⟨steadyFirst.isSafe fit run, ih ofMore (steadyFirst.fit_of_run' fit run) behind⟩

end Rule

section Turns

variable (gives : ctx.oracle.Gives answers) (steady : rule.IsSteady ctx answers)

include gives steady

theorem openPair_isSteady (typed : Nat) : (openPair key rule typed).IsSteady ctx answers := by
  refine (steady.allows _).bind fun allowed => .ite (.pure _) (.read (.ite (.pure _) ?_))
  exact (Query.unmatchedClosing_isSteady gives _).bind fun unmatched => .ite (.pure _) (.pure _)

theorem closePair_isSteady : (closePair key rule).IsSteady ctx answers := by
  refine (steady.allows _).bind fun allowed => .ite (.pure _) ?_
  refine (Query.unmatchedOpening_isSteady gives _).bind fun unmatched => .ite (.pure _) ?_
  refine (Query.IsSteady.ofExcept _).bind fun next => .ite (.pure _) ?_
  exact (Query.IsSteady.ofExcept _).bind fun padded => .ite (.pure _) (.pure _)

omit gives in
theorem openOrClosePair_isSteady : (openOrClosePair key rule).IsSteady ctx answers := by
  refine (steady.allows _).bind fun allowed => .ite (.pure _) (.read (.ite (.pure _) ?_))
  exact (Query.IsSteady.ofExcept _).bind fun next =>
    .ite (.pure _) (.ite (.read (.pure _)) (.pure _))

theorem Rule.atTurn_isSteady {next : Query Outcome} (steadyNext : next.IsSteady ctx answers) (turn : Turn) :
    (rule.atTurn key next turn).IsSteady ctx answers := by
  cases turn with
  | either => exact (openOrClosePair_isSteady steady).bind fun _ => .pure _
  | opens typed => exact (openPair_isSteady gives steady typed).bind fun _ => .pure _
  | closes => exact (closePair_isSteady gives steady).bind fun _ => .pure _
  | passes => exact steadyNext
  | fails => exact .throw _

end Turns

/-! ### Decisions among more rules -/

section Inserted

variable {place : Nat → Nat} {isOld : Rule → Bool} {edit : Edit} {memo after : Memo}
  (ordered : larger.Pairwise Rule.Outranks)
  (old : larger.filter isOld = rules.map (Rule.renumbered place))
  (outranked : ∀ other ∈ larger, isOld other = false → (rule.renumbered place).Outranks other)

include ordered old outranked

/-- A rule that was found to be active is found among more rules too, after the same ones as before. -/
theorem exists_allActive_inserted {passed rest : List Rule}
    (steady : ∀ other ∈ rules, other.IsSteady ctx answers)
    (safe : ∀ other ∈ larger, isOld other = false → other.applies.IsSafe ctx answers)
    (fit : answers.Fit ctx memo)
    (given : (Rule.allActive rules none).run' ctx memo = (.ok (passed ++ rule :: rest), after)) :
    rule ∈ rules ∧ ∃ others last, (Rule.allActive larger none).run' ctx memo =
      (.ok (passed.map (Rule.renumbered place) ++ rule.renumbered place :: others), last) ∧
        answers.Fit ctx last := by
  obtain ⟨earlier, later, between, looked, rfl, tried, isActive, behind⟩ :=
    Rule.exists_split_of_allActive given
  obtain ⟨ofEarlier, ofLater⟩ := List.forall_mem_append.mp steady
  obtain ⟨ofRule, ofLater⟩ := List.forall_mem_cons.mp ofLater
  refine ⟨List.mem_append_right earlier List.mem_cons_self, ?_⟩
  -- What is learned on the way is what the host answers.
  have fitBetween := (Rule.allActive_isSteady ofEarlier none).fit_of_run' fit tried
  have fitLooked := (Rule.isActive_isSteady ofRule none).fit_of_run' fitBetween isActive
  rw [List.map_append, List.map_cons] at old
  obtain ⟨more, rfl, oldMore⟩ := Rule.split_of_outranked ordered old outranked
  have safeMore : (Rule.allActive more none).IsSafe ctx answers := by
    refine Rule.allActive_isSafe fun other member => ?_
    cases isKept : isOld other with
    | true =>
      have isLater : other ∈ later.map (Rule.renumbered place) :=
        oldMore ▸ List.mem_filter.mpr ⟨member, isKept⟩
      obtain ⟨there, inLater, rfl⟩ := List.mem_map.mp isLater
      exact Rule.isSafe_of_allActive ofLater fitLooked behind there inLater
    | false =>
      have inLarger := List.mem_append_right (earlier.map (Rule.renumbered place))
        (List.mem_cons_of_mem (rule.renumbered place) member)
      refine (safe other inLarger isKept).bind fun applies => ?_
      split <;> exact .pure _
  obtain ⟨others, last, runMore, fitLast⟩ := safeMore looked fitLooked
  replace isActive : ((rule.renumbered place).isActive none).run' ctx between = (.ok true, looked) :=
    isActive
  have fromRule : (Rule.allActive (rule.renumbered place :: more) none).run' ctx between =
      (.ok (rule.renumbered place :: others), last) :=
    Rule.run'_allActive_cons_iff.mpr ⟨true, looked, others, isActive, runMore, rfl⟩
  exact ⟨others, last, Rule.run'_allActive_append (Rule.run'_allActive_renumbered tried) fromRule, fitLast⟩

/-- What a rule decides on a key that inserts, it decides among more rules too. -/
theorem exists_decideAmong_inserted (gives : ctx.oracle.Gives answers)
    (steady : ∀ other ∈ rules, other.IsSteady ctx answers)
    (safe : ∀ other ∈ larger, isOld other = false → other.applies.IsSafe ctx answers)
    (fit : answers.Fit ctx memo)
    (given : (Rule.allActive rules none >>= decideAmong key).run' ctx memo =
      (.ok ⟨edit, some rule⟩, after)) :
    rule ∈ rules ∧ ∃ last, (Rule.allActive larger none >>= decideAmong key).run' ctx memo =
      (.ok ⟨edit, some (rule.renumbered place)⟩, last) := by
  obtain ⟨active, between, looked, decided⟩ := Query.exists_of_run'_bind given
  obtain ⟨passed, rest, rfl, passes, decides, atTurn⟩ := exists_split_of_decideAmong decided
  obtain ⟨member, others, last, lookedAtMore, fitLast⟩ :=
    exists_allActive_inserted ordered old outranked steady safe fit looked
  refine ⟨member, ?_⟩
  have passesThere : ∀ other ∈ passed.map (Rule.renumbered place), other.turn key ctx = .passes := by
    intro other member
    obtain ⟨there, inPassed, rfl⟩ := List.mem_map.mp member
    exact passes there inPassed
  rw [Query.run'_bind_of_ok lookedAtMore, run'_decideAmong_append passesThere, run'_decideAmong_cons]
  -- The rule comes to the same from whatever else was learned.
  have fitBetween := (Rule.allActive_isSteady steady none).fit_of_run' fit looked
  have steadyTurn : (rule.atTurn key (pure ⟨edit, none⟩) (rule.turn key ctx)).IsSteady ctx answers :=
    Rule.atTurn_isSteady gives (steady rule member) (.pure _) _
  obtain ⟨after, again, -⟩ := steadyTurn.again fitBetween (atTurn _) fitLast
  exact ⟨after, Rule.run'_atTurn_renumbered decides again place _⟩

/-- What a rule decides between delimiters, it decides among more rules too. -/
theorem exists_decideBetween_inserted (index largerIndex : RuleIndex) {action : Action}
    {editOf : Context → Surrounding → Edit} (isAll : index.all = rules)
    (isAllLarger : largerIndex.all = larger)
    (sameEdit : ∀ other padded, editOf ctx ⟨other.renumbered place, padded⟩ = editOf ctx ⟨other, padded⟩)
    (given : (decideBetween index key action editOf).run' ctx memo = (.ok ⟨edit, some rule⟩, after)) :
    rule ∈ rules ∧ ∃ last, (decideBetween largerIndex key action editOf).run' ctx memo =
      (.ok ⟨edit, some (rule.renumbered place)⟩, last) := by
  obtain absurd | ⟨surrounding, isOutcome, ⟨earlier, later, before, atRule, parts, tried, active⟩, stands⟩ :=
    decideBetween_cases given
  · cases absurd
  obtain ⟨rfl, isRule⟩ := Outcome.mk.inj isOutcome
  obtain rfl := Option.some.inj isRule
  obtain rfl : rules = earlier ++ surrounding.rule :: later := isAll.symm.trans parts
  refine ⟨List.mem_append_right earlier List.mem_cons_self, atRule, ?_⟩
  rw [List.map_append, List.map_cons] at old
  obtain ⟨more, rfl, -⟩ := Rule.split_of_outranked ordered old outranked
  unfold decideBetween
  rw [isAllLarger, Query.run'_bind_of_ok (run'_surrounding_renumbered tried active stands place more)]
  show (Except.ok (Outcome.mk (editOf ctx ⟨surrounding.rule.renumbered place, _⟩) _), _) = _
  rw [sameEdit]

end Inserted

/-! ### Decisions on keys of every kind -/

theorem Rule.renumbered_ofClosing (place : Nat → Nat) (key closing : Text) (order : Nat) :
    (Rule.ofClosing key closing order).renumbered place = .ofClosing key closing (place order) := rfl

/-- What else a decision on a key that inserts hangs on, where definitions hold others: the host gives the
same answers whatever it was asked before, nothing that was there is a function, and no condition of an added
rule fails or makes up what it knows. -/
structure Definitions.Undisturbed (definitions larger : Definitions) (index : RuleIndex)
    (place : Nat ↪o Nat) (ctx : Context) (answers : Answers) : Prop where
  gives : ctx.oracle.Gives answers
  declarative : ∀ key entry, (key, entry) ∈ definitions.entries → entry.IsDeclarative
  quiet : ∀ added ∈ index.all, added.order ∉ Set.range place → ∀ memo, answers.Fit ctx memo →
    ∃ holds after, added.applies.run' ctx memo = (.ok holds, after)
  honest : ∀ key entry body, (key, entry) ∈ larger.entries → entry.field "when" = .function body →
    body.answer.Keeps ctx answers

namespace Definitions.Undisturbed

variable {definitions larger : Definitions} {rules largerRules : List Rule} {place : Nat ↪o Nat}

theorem isSteady {index : RuleIndex} (undisturbed : definitions.Undisturbed larger index place ctx answers)
    (given : definitions.rules = .ok rules) : ∀ other ∈ rules, other.IsSteady ctx answers := by
  intro other member
  obtain ⟨key, entry, declared, order, made⟩ := entry_of_rule given member
  exact Rule.isSteady_of_ofEntry undisturbed.gives (undisturbed.declarative key entry declared) made

theorem isSafe
    (undisturbed : definitions.Undisturbed larger (RuleIndex.ofRules largerRules) place ctx answers)
    (given : larger.rules = .ok largerRules) {added : Rule} (member : added ∈ largerRules)
    (isNew : added.order ∉ Set.range place) : added.applies.IsSafe ctx answers := by
  intro memo fit
  obtain ⟨key, entry, declared, order, made⟩ := entry_of_rule given member
  have keeps := Rule.keeps_applies_of_ofEntry undisturbed.gives
    (fun body => undisturbed.honest key entry body declared) made memo fit
  obtain ⟨holds, after, run⟩ :=
    undisturbed.quiet added (RuleIndex.mem_all_ofRules.mpr member) isNew memo fit
  rw [run] at keeps
  exact ⟨holds, after, run, keeps⟩

/-- Where no definition holds functions, it is enough that no condition of an added rule fails in the context
as it comes. -/
theorem of_isDeclarative {index : RuleIndex} (gives : ctx.oracle.Gives answers)
    (compiled : RuleIndex.compile larger = .ok index) (inserts : definitions.Inserts larger place)
    (declarative : ∀ key entry, (key, entry) ∈ larger.entries → entry.IsDeclarative)
    (quiet : ∀ added ∈ index.all, added.order ∉ Set.range place →
      ∃ holds, added.applies.eval ctx = .ok holds) :
    definitions.Undisturbed larger index place ctx answers := by
  obtain ⟨-, rules, given, rfl⟩ := RuleIndex.compile_eq_ok_iff.mp compiled
  refine ⟨gives, fun key entry member => ?_, fun added member isNew memo fit => ?_,
    fun key entry body member isFunction => absurd isFunction ((declarative key entry member).condition body)⟩
  · obtain ⟨order, stands⟩ := List.mem_iff_getElem?.mp member
    exact declarative key entry (List.mem_of_getElem? ((inserts order).symm.trans stands))
  · obtain ⟨key, entry, declared, order, made⟩ :=
      entry_of_rule given (RuleIndex.mem_all_ofRules.mp member)
    have steady := Rule.isSteady_of_ofEntry gives (declarative key entry declared) made
    obtain ⟨holds, evaluated⟩ := quiet added member isNew
    obtain ⟨again, after, run, -⟩ := steady.applies.isSafe (answers.fit_empty ctx)
      (Prod.ext evaluated rfl : added.applies.run' ctx {} = (.ok holds, _)) memo fit
    exact ⟨again, after, run⟩

end Definitions.Undisturbed

/-- A host that knows of nothing at first, and once it was asked anything, of a closing without an opening at every
place. -/
def Oracle.shifting : Oracle :=
  { Oracle.silent with
    unmatchedClosing := fun earlier delimiters place =>
      .ok (if earlier = [] then none else some ⟨delimiters, place⟩) }

namespace RuleIndex

open Definitions

variable {definitions larger : Definitions} {rules largerRules : List Rule} {place : Nat ↪o Nat}
  {kind : KeyKind} {edit : Edit}

/-- What a rule decides on a key, it decides among more rules too, if it outranks all that are new. -/
theorem exists_decision_inserted {after : Memo} (given : definitions.rules = .ok rules)
    (givenLarger : larger.rules = .ok largerRules) (inserts : definitions.Inserts larger place)
    (decided : ((ofRules rules).decision kind key).run' ctx {} = (.ok ⟨edit, some rule⟩, after))
    (outranked : ∀ added ∈ largerRules, added.order ∉ Set.range place →
      (rule.renumbered place).Outranks added)
    (undisturbed : kind = .printable →
      ∃ answers, definitions.Undisturbed larger (ofRules largerRules) place ctx answers) :
    rule ∈ rules ∧ ∃ last, ((ofRules largerRules).decision kind key).run' ctx {} =
      (.ok ⟨edit, some (rule.renumbered place)⟩, last) := by
  classical
  have ordered := pairwise_outranks_ranked givenLarger
  have isNew {added : Rule} (notOld : Decidable.decide (added.order ∈ Set.range place) = false) :
      added.order ∉ Set.range place := of_decide_eq_false notOld
  have between {key : Text} {action : Action} {editOf : Context → Surrounding → Edit}
      (sameEdit : ∀ other padded, editOf ctx ⟨other.renumbered place, padded⟩ = editOf ctx ⟨other, padded⟩)
      (decided : (decideBetween (ofRules rules) key action editOf).run' ctx {} =
        (.ok ⟨edit, some rule⟩, after)) :
      rule ∈ rules ∧ ∃ last, (decideBetween (ofRules largerRules) key action editOf).run' ctx {} =
        (.ok ⟨edit, some (rule.renumbered place)⟩, last) := by
    obtain ⟨member, decides⟩ := exists_decideBetween_inserted ordered
      (inserts.filter_ranked given givenLarger)
      (fun added member notOld => outranked added (mem_all_ofRules.mp member) (isNew notOld))
      (ofRules rules) (ofRules largerRules) rfl rfl sameEdit decided
    exact ⟨mem_all_ofRules.mp member, decides⟩
  cases kind with
  | printable =>
    obtain ⟨answers, undisturbed⟩ := undisturbed rfl
    have reached {other : Rule} (member : other ∈ (ofRules largerRules).rulesFor key) : other ∈ largerRules :=
      (mem_rulesFor_ofRules.mp member).1
    have orderedKey : ((ofRules largerRules).rulesFor key).Pairwise Rule.Outranks := by
      rw [rulesFor_ofRules, ← Rule.filter_ranked]
      exact ordered.filter _
    obtain ⟨member, decides⟩ := exists_decideAmong_inserted orderedKey
      (inserts.filter_rulesFor given givenLarger key)
      (fun added member notOld => outranked added (reached member) (isNew notOld)) undisturbed.gives
      (fun other member => undisturbed.isSteady given other (mem_rulesFor_ofRules.mp member).1)
      (fun added member notOld => undisturbed.isSafe givenLarger (reached member) (isNew notOld))
      (answers.fit_empty ctx) decided
    exact ⟨(mem_rulesFor_ofRules.mp member).1, decides⟩
  | backspace => exact between (fun _ _ => rfl) decided
  | enter => exact between (fun _ _ => rfl) decided
  | space => exact between (fun _ _ => rfl) decided

/-- Verdicts on one edit of two rules of one name are the same. -/
theorem decide_eq_of_decision {index other : RuleIndex} {found : Rule} {after last : Memo}
    (decided : (index.decision kind key).run' ctx {} = (.ok ⟨edit, some rule⟩, after))
    (decides : (other.decision kind key).run' ctx {} = (.ok ⟨edit, some found⟩, last))
    (sameName : found.name = rule.name) :
    (other.decide kind key ctx).edit = (index.decide kind key ctx).edit ∧
      (other.decide kind key ctx).record = (index.decide kind key ctx).record := by
  have same (name : Text) {first second : Query Outcome}
      (one : first.run' ctx {} = (.ok ⟨edit, some rule⟩, after))
      (two : second.run' ctx {} = (.ok ⟨edit, some found⟩, last)) :
      (Verdict.ofQuery name kind second ctx).edit = (Verdict.ofQuery name kind first ctx).edit ∧
        (Verdict.ofQuery name kind second ctx).record = (Verdict.ofQuery name kind first ctx).record := by
    rw [Verdict.ofQuery, Verdict.ofQuery, one, two]
    simp [Verdict.ofOutcome, sameName]
  cases kind <;> exact same _ decided decides

/-- **Rules below the deciding one are irrelevant, if the host's answers are fixed.** Definitions without functions
compile, and so do the same with further ones anywhere among them. Where a rule decides on a key and outranks every
rule that is new, it does so among all of them: what comes of the key is the same, and so is the record, and the rule
that decides is that of the same definition. On a key that inserts, no condition of a new rule may fail, and the host
gives the same answers whatever it was asked before. -/
theorem decide_ignoresOutranked {index largerIndex : RuleIndex}
    (compiled : RuleIndex.compile definitions = .ok index)
    (compiledLarger : RuleIndex.compile larger = .ok largerIndex)
    (inserts : definitions.Inserts larger place)
    (decided : (index.decision kind key).eval ctx = .ok ⟨edit, some rule⟩)
    (outranked : ∀ added ∈ largerIndex.all, added.order ∉ Set.range place →
      (rule.renumbered place).Outranks added)
    (undisturbed : kind = .printable →
      ∃ answers, definitions.Undisturbed larger largerIndex place ctx answers) :
    (largerIndex.decision kind key).eval ctx = .ok ⟨edit, some (rule.renumbered place)⟩ ∧
      (∃ ruleKey entry, definitions.entries[rule.order]? = some (ruleKey, entry) ∧
        larger.entries[place rule.order]? = some (ruleKey, entry) ∧
        Rule.ofEntry ruleKey entry rule.order = .ok rule ∧
        Rule.ofEntry ruleKey entry (place rule.order) = .ok (rule.renumbered place)) ∧
      (largerIndex.decide kind key ctx).edit = (index.decide kind key ctx).edit ∧
      (largerIndex.decide kind key ctx).record = (index.decide kind key ctx).record := by
  obtain ⟨-, rules, given, rfl⟩ := compile_eq_ok_iff.mp compiled
  obtain ⟨-, largerRules, givenLarger, rfl⟩ := compile_eq_ok_iff.mp compiledLarger
  have run : ((ofRules rules).decision kind key).run' ctx {} =
      (.ok ⟨edit, some rule⟩, (((ofRules rules).decision kind key).run' ctx {}).2) :=
    Prod.ext decided rfl
  obtain ⟨member, last, decides⟩ := exists_decision_inserted given givenLarger inserts run
    (fun added member => outranked added (mem_all_ofRules.mpr member)) undisturbed
  exact ⟨congrArg Prod.fst decides, inserts.exists_entry_of_rule given member,
    decide_eq_of_decision run decides rfl⟩

/-- A rule of a shorter closing before it and one of as long a closing behind it change nothing, though the
key reaches both of them. -/
theorem decide_ignoresOutranked_amongClosings :
    let closings : List (Text × Text) := [("(", "))")]
    let larger : List (Text × Text) := [("[", "("), ("(", "))"), ("<", "((")]
    let ctx := Context.ofSnapshot ⟨"a", ⟨0, 1⟩, "text", .insert, none⟩ .silent
    RuleIndex.compile (.ofClosings closings) = .ok (ofClosings closings) ∧
      RuleIndex.compile (.ofClosings larger) = .ok (ofClosings larger) ∧
      ((ofClosings larger).rulesFor "(").length = 3 ∧
      ((ofClosings closings).decision .printable "(").eval ctx =
        .ok ⟨.insertPair "())" 2, some (.ofClosing "(" "))" 0)⟩ ∧
      ((ofClosings larger).decision .printable "(").eval ctx =
        .ok ⟨.insertPair "())" 2, some (.ofClosing "(" "))" 1)⟩ := by
  intro closings larger ctx
  have sound : ∀ entry ∈ closings ++ larger, entry.1.isSingleCluster = true ∧ entry.2 ≠ [] := by
    decide +kernel
  have compiled : RuleIndex.compile (.ofClosings closings) = .ok (ofClosings closings) :=
    compile_ofClosings fun key closing member => sound (key, closing) (List.mem_append_left _ member)
  have compiledLarger : RuleIndex.compile (.ofClosings larger) = .ok (ofClosings larger) :=
    compile_ofClosings fun key closing member => sound (key, closing) (List.mem_append_right _ member)
  obtain ⟨place, isPlace⟩ : ∃ place : Nat ↪o Nat, ∀ order, place order = 2 * order + 1 :=
    ⟨OrderEmbedding.ofStrictMono (2 * · + 1) fun a b less => (by dsimp only; omega), fun _ => rfl⟩
  have inserts : (Definitions.ofClosings closings).Inserts (.ofClosings larger) place := by
    intro order
    rw [isPlace]
    cases order <;> rfl
  have decided : ((ofClosings closings).decision .printable "(").eval ctx =
      .ok ⟨.insertPair "())" 2, some (.ofClosing "(" "))" 0)⟩ := by
    rfl
  have moved : (Rule.ofClosing "(" "))" 0).renumbered place = .ofClosing "(" "))" 1 :=
    (Rule.renumbered_ofClosing place "(" "))" 0).trans (congrArg (Rule.ofClosing "(" "))") (isPlace 0))
  have isAdded (added : Rule) (member : added ∈ (ofClosings larger).all)
      (isNew : added.order ∉ Set.range place) :
      added = .ofClosing "[" "(" 0 ∨ added = .ofClosing "<" "((" 2 := by
    replace member := mem_all_ofClosings.mp member
    obtain _ | ⟨_, _ | ⟨_, _ | ⟨_, none⟩⟩⟩ := member
    · exact Or.inl rfl
    · exact absurd ⟨0, isPlace 0⟩ isNew
    · exact Or.inr rfl
    · cases none
  have shorter : (Rule.ofClosing "[" "(" 0).priority.scaled <
      (Rule.ofClosing "(" "))" 1).priority.scaled := by
    decide +kernel
  have asLong : (Rule.ofClosing "(" "))" 1).priority.scaled =
      (Rule.ofClosing "<" "((" 2).priority.scaled := by
    decide +kernel
  have decides := (decide_ignoresOutranked compiled compiledLarger inserts decided
    (fun added member isNew => by
      rw [moved]
      obtain rfl | rfl := isAdded added member isNew
      · exact Or.inl shorter
      · exact Or.inr ⟨asLong, Nat.one_lt_two⟩)
    fun _ => ⟨.silent, .of_isDeclarative Oracle.silent_gives compiledLarger inserts
      (fun _ _ => Definitions.isDeclarative_ofClosings) fun added member isNew => by
        obtain rfl | rfl := isAdded added member isNew
        · exact ⟨true, rfl⟩
        · exact ⟨true, rfl⟩⟩).1
  rw [moved] at decides
  exact ⟨compiled, compiledLarger, by decide +kernel, decided, decides⟩

/-- With a host whose answers change as it is asked, a rule below the deciding one matters. Where its condition asks for
the span at the cursor, the host knows of a closing without an opening when it is asked about the rule above, and that
rule does not insert its pair. -/
theorem decide_heedsOutranked_shifting :
    let inString : Definition :=
      ⟨"]", none, some (.ofNat 0), none, none, some (.one (.inSpan "string")), fun _ => none⟩
    let definitions : Definitions := .ofClosings [("(", ")")]
    let larger : Definitions := [("(", .list [inString.toData, .text ")"])]
    let place : Nat ↪o Nat := OrderEmbedding.ofStrictMono (· + 1) fun _ _ => Nat.succ_lt_succ
    let ctx := Context.ofSnapshot ⟨"a", ⟨0, 1⟩, "text", .insert, none⟩ .shifting
    let rule := Rule.ofClosing "(" ")" 0
    let largerIndex := ofRules [inString.rule "(" 0, rule.renumbered place]
    compile definitions = .ok (ofRules [rule]) ∧ compile larger = .ok largerIndex ∧
      definitions.Inserts larger place ∧ (∀ key entry, (key, entry) ∈ larger.entries → entry.IsDeclarative) ∧
      ctx.oracle.IsQuiet ∧ ctx.oracle.AnswersSyntax ∧
      (∀ added ∈ largerIndex.all, added.order ∉ Set.range place →
        (rule.renumbered place).Outranks added ∧ added.applies.eval ctx = .ok false) ∧
      ((ofRules [rule]).decision .printable "(").eval ctx = .ok ⟨.insertPair "()" 1, some rule⟩ ∧
      (largerIndex.decide .printable "(" ctx).edit = .passThrough "(" := by
  intro inString definitions larger place ctx rule largerIndex
  have composed : Text.composed "(" = "(" := by
    decide +kernel
  have sound : ∀ key closing, (key, closing) ∈ [(Text.ofString "(", Text.ofString ")")] →
      key.isSingleCluster = true ∧ closing ≠ [] := by
    intro key closing member
    obtain ⟨rfl, rfl⟩ := Prod.mk.inj (List.mem_singleton.mp member)
    decide +kernel
  have compiled : compile definitions = .ok (ofRules [rule]) := compile_ofClosings sound
  have asList : (Data.list [inString.toData, .text ")"] : Data HostFunction).asList =
      [Entry.full inString, .closing ")"].map Entry.toData := rfl
  have moved : rule.renumbered place = .ofClosing "(" ")" 1 :=
    (Rule.renumbered_ofClosing place "(" ")" 0).trans (congrArg (Rule.ofClosing "(" ")") rfl)
  have isLarger : largerIndex = ofRules [inString.rule "(" 0, .ofClosing "(" ")" 1] :=
    congrArg (fun last => ofRules [inString.rule "(" 0, last]) moved
  have compiledLarger : compile larger = .ok largerIndex := by
    have made : compile larger = .ok (ofRules ([Entry.full inString, .closing ")"].mapIdx fun order entry =>
        entry.rule (Text.composed "(") order)) :=
      compile_ofEntries rfl asList (by decide +kernel) (by decide +kernel)
    rw [made, composed, isLarger]
    rfl
  have declared : larger.entries = [(Text.ofString "(", inString.toData), (Text.ofString "(", .text ")")] := by
    show [(Text.composed "(", inString.toData), (Text.composed "(", .text ")")] = _
    rw [composed]
  have inserts : definitions.Inserts larger place := by
    intro order
    rw [declared, entries_ofClosings]
    cases order with
    | zero => exact congrArg (fun key : Text => some (key, (.text ")" : Data HostFunction))) composed
    | succ later => rfl
  have declarative : ∀ key entry, (key, entry) ∈ larger.entries → entry.IsDeclarative := by
    intro key entry member
    rw [declared] at member
    obtain ⟨-, rfl⟩ | ⟨-, rfl⟩ : (key = "(" ∧ entry = inString.toData) ∨ (key = "(" ∧ entry = .text ")") := by
      simpa using member
    · exact Entry.isDeclarative_toData (.full inString)
    · exact Entry.isDeclarative_toData (.closing ")")
  have answers : ctx.oracle.IsQuiet ∧ ctx.oracle.AnswersSyntax :=
    ⟨⟨fun _ _ _ => ⟨_, rfl⟩, fun _ _ _ => ⟨_, rfl⟩⟩, fun _ _ => ⟨_, rfl⟩, fun _ _ => ⟨_, rfl⟩⟩
  refine ⟨compiled, compiledLarger, inserts, declarative, answers.1, answers.2, ?_, ?_, ?_⟩
  · intro added member isNew
    rw [isLarger] at member
    obtain rfl | rfl : added = inString.rule "(" 0 ∨ added = .ofClosing "(" ")" 1 := by
      simpa using mem_all_ofRules.mp member
    · refine ⟨?_, rfl⟩
      rw [moved]
      exact Or.inl (by decide +kernel)
    · exact absurd ⟨0, rfl⟩ isNew
  · rfl
  · rw [isLarger]
    decide +kernel

end RuleIndex

end Pairing
