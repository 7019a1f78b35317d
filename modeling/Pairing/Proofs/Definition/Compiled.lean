/-
**What definitions compile to.**

Definitions are compiled if nothing is wrong with them. The rules are then theirs one for one, each with
the delimiters that its definition declares:

* `Definitions.opensWith`, `Definitions.closesWith`: the delimiters that a definition declares;
* `Definitions.IsSound`: nothing is wrong with the definitions;
* `RuleIndex.compile_eq_ok_iff`: when definitions compile, and to what;
* `Definitions.ofEntry_getElem`: the rule in each place;
* `UncheckedRule.IsOfRecord`, `UncheckedRule.cases_of_ofEntry`: what a rule takes from its definition;
* `UncheckedRule.IsGuardedBy`, `UncheckedRule.all_cases_of_ofEntry`: and what it is guarded by;
* `Definitions.rule_of_entry`, `Definitions.entry_of_rule`: from definitions to rules and back.
-/

import Pairing.Definition.Validation

namespace Pairing

namespace Definitions

/-- The opening that a definition declares under a key in composed form. -/
def opensWith (key : Text) : Data HostFunction → Text
  | .text _ => key
  | entry => (nonEmptyText? (entry.field "opening")).getD key

/-- The closing that a definition declares. -/
def closesWith : Data HostFunction → Text
  | .text closing => closing
  | entry => (nonEmptyText? (entry.field "closing")).getD []

/-- Nothing is wrong with the definitions. -/
structure IsSound (definitions : Definitions) : Prop where
  /-- All of them can be looked into. -/
  readable : definitions.areReadable = true
  /-- Each key is one character. -/
  singleKey : ∀ key value, (key, value) ∈ definitions → key.isSingleCluster = true
  /-- No definition has a problem. -/
  noProblems : ∀ key value, (key, value) ∈ definitions → ∀ entry ∈ value.asList,
    problemsOf key entry = []

theorem problemIf_eq_nil {arises : Bool} {problem : Problem} :
    problemIf arises problem = [] ↔ arises = false := by
  cases arises <;> simp [problemIf]

/-- There are no issues exactly if no definition has a problem. -/
theorem flatten_mapIdx_eq_nil {α β γ : Type} {items : List α} {problems : α → List β}
    {issue : Nat → β → γ} :
    (items.mapIdx fun index item => (problems item).map (issue index)).flatten = [] ↔
      ∀ item ∈ items, problems item = [] := by
  rw [List.flatten_eq_nil_iff]
  refine ⟨fun none item member => ?_, fun none issues member => ?_⟩
  · obtain ⟨index, inside, rfl⟩ := List.mem_iff_getElem.mp member
    exact List.map_eq_nil_iff.mp (none _ (List.mem_mapIdx.mpr ⟨index, inside, rfl⟩))
  · obtain ⟨index, inside, rfl⟩ := List.mem_mapIdx.mp member
    rw [none _ (List.getElem_mem inside), List.map_nil]

theorem issuesUnder_eq_nil {key : Text} {value : Data HostFunction} :
    issuesUnder key value = [] ↔
      key.isSingleCluster = true ∧ ∀ entry ∈ value.asList, problemsOf key entry = [] := by
  unfold issuesUnder
  rw [List.append_eq, List.append_eq_nil_iff, List.map_eq_nil_iff, problemIf_eq_nil,
    Bool.not_eq_false', flatten_mapIdx_eq_nil]

/-- Definitions without issues are those with which nothing is wrong. -/
theorem issues?_eq_nil_iff {definitions : Definitions} :
    definitions.issues? = some [] ↔ definitions.IsSound := by
  unfold issues?
  split
  · next readable =>
    rw [Option.some_inj, List.flatMap_eq_nil_iff]
    constructor
    · intro none
      have sound (key : Text) (value : Data HostFunction) (member : (key, value) ∈ definitions) :=
        issuesUnder_eq_nil.mp (none (key, value) member)
      exact ⟨readable, fun key value member => (sound key value member).1,
        fun key value member => (sound key value member).2⟩
    · rintro sound ⟨key, value⟩ member
      exact issuesUnder_eq_nil.mpr ⟨sound.singleKey key value member, sound.noProblems key value member⟩
  · next unreadable => exact ⟨fun none => by simp at none, fun sound => absurd sound.readable unreadable⟩

/-! ### From definitions to rules -/

theorem mapM_id_eq_ok_iff {α ε : Type} {results : List (Except ε α)} {values : List α} :
    results.mapM id = .ok values ↔ results = values.map .ok := by
  induction results generalizing values with
  | nil => cases values <;> simp [pure, Except.pure]
  | cons result rest ih =>
    rw [List.mapM_cons]
    cases result with
    | error cause => cases values <;> simp [bind, Except.bind]
    | ok value =>
      cases restResult : rest.mapM id with
      | error cause => cases values <;> simp [bind, Except.bind, restResult, ← ih]
      | ok others =>
        cases values <;> simp [bind, Except.bind, pure, Except.pure, restResult, ← ih]

/-- The rules of definitions, one for one. -/
theorem rules_eq_ok_iff {definitions : Definitions} {rules : List Rule} :
    definitions.rules = .ok rules ↔
      (definitions.entries.mapIdx fun order (key, entry) => Rule.ofEntry key entry order) =
        rules.map .ok :=
  mapM_id_eq_ok_iff

theorem mem_entries {definitions : Definitions} {key : Text} {entry : Data HostFunction} :
    (key, entry) ∈ definitions.entries ↔
      ∃ rawKey value, (rawKey, value) ∈ definitions ∧ entry ∈ value.asList ∧ rawKey.composed = key := by
  simp only [entries, List.mem_flatMap, List.mem_map, Prod.mk.injEq, Prod.exists]
  constructor
  · rintro ⟨rawKey, value, member, _, inside, composed, rfl⟩
    exact ⟨rawKey, value, member, inside, composed⟩
  · rintro ⟨rawKey, value, member, inside, composed⟩
    exact ⟨rawKey, value, member, entry, inside, composed, rfl⟩

theorem length_rules {definitions : Definitions} {rules : List Rule}
    (given : definitions.rules = .ok rules) : rules.length = definitions.entries.length := by
  simpa using (congrArg List.length (rules_eq_ok_iff.mp given)).symm

/-- Each rule is that of the definition in its place. -/
theorem ofEntry_getElem {definitions : Definitions} {rules : List Rule}
    (given : definitions.rules = .ok rules) {order : Nat} (inside : order < definitions.entries.length)
    (insideRules : order < rules.length) :
    Rule.ofEntry definitions.entries[order].1 definitions.entries[order].2 order = .ok rules[order] := by
  have place := List.getElem_of_eq (rules_eq_ok_iff.mp given) (i := order) (by simpa using inside)
  rwa [List.getElem_mapIdx, List.getElem_map] at place

/-- Each definition has its rule. -/
theorem rule_of_entry {definitions : Definitions} {rules : List Rule}
    (given : definitions.rules = .ok rules) {key : Text} {entry : Data HostFunction}
    (member : (key, entry) ∈ definitions.entries) :
    ∃ rule ∈ rules, ∃ order, Rule.ofEntry key entry order = .ok rule := by
  obtain ⟨order, inside, place⟩ := List.mem_iff_getElem.mp member
  have insideRules : order < rules.length := length_rules given ▸ inside
  have made := ofEntry_getElem given inside insideRules
  rw [place] at made
  exact ⟨rules[order], List.getElem_mem insideRules, order, made⟩

/-- Each rule has its definition. -/
theorem entry_of_rule {definitions : Definitions} {rules : List Rule}
    (given : definitions.rules = .ok rules) {rule : Rule} (member : rule ∈ rules) :
    ∃ key entry, (key, entry) ∈ definitions.entries ∧ ∃ order, Rule.ofEntry key entry order = .ok rule := by
  obtain ⟨order, insideRules, rfl⟩ := List.mem_iff_getElem.mp member
  have inside : order < definitions.entries.length := length_rules given ▸ insideRules
  exact ⟨_, _, List.getElem_mem inside, order, ofEntry_getElem given inside insideRules⟩

end Definitions

/-- Definitions compile if nothing is wrong with them and their rules can be built. -/
theorem RuleIndex.compile_eq_ok_iff {definitions : Definitions} {index : RuleIndex} :
    RuleIndex.compile definitions = .ok index ↔
      definitions.IsSound ∧ ∃ rules, definitions.rules = .ok rules ∧ index = RuleIndex.ofRules rules := by
  rw [← Definitions.issues?_eq_nil_iff]
  unfold RuleIndex.compile
  split
  · next unreadable => simp [unreadable]
  · next none =>
    simp only [none, true_and]
    cases definitions.rules with
    | ok rules => simp [eq_comm]
    | error fault => simp
  · next issues notNone found =>
    refine ⟨fun given => by simp at given, fun sound => ?_⟩
    exact absurd (Option.some.inj (found.symm.trans sound.1)) notNone

/-! ### The delimiters of a rule -/

namespace Definitions

variable {entry : Data HostFunction}

theorem nonEmptyText?_eq_some_iff {value : Data HostFunction} {t : Text} :
    nonEmptyText? value = some t ↔ value = .text t ∧ t ≠ [] := by
  unfold nonEmptyText?
  split
  · next unit rest =>
    rw [Option.some_inj, Data.text.injEq]
    exact ⟨fun same => ⟨same, by simp [← same]⟩, fun same => same.1⟩
  · next other =>
    refine ⟨fun found => by simp at found, ?_⟩
    rintro ⟨rfl, nonempty⟩
    obtain ⟨unit, rest, rfl⟩ := List.exists_cons_of_ne_nil nonempty
    exact absurd rfl (other unit rest)

theorem opensWith_of_not_text (notText : ∀ t, entry ≠ .text t) (key : Text) :
    opensWith key entry = (nonEmptyText? (entry.field "opening")).getD key := by
  unfold opensWith
  split
  · exact absurd rfl (notText _)
  · rfl

theorem closesWith_of_not_text (notText : ∀ t, entry ≠ .text t) :
    closesWith entry = (nonEmptyText? (entry.field "closing")).getD [] := by
  unfold closesWith
  split
  · exact absurd rfl (notText _)
  · rfl

/-- A record without problems names a closing, and an opening unless it leaves that to its key. -/
theorem texts_of_noProblems {key : Text} (notText : ∀ t, entry ≠ .text t)
    (noProblems : problemsOf key entry = []) :
    (∃ closing, nonEmptyText? (entry.field "closing") = some closing) ∧
      (entry.field "opening" = .missing ∨
        ∃ opening, nonEmptyText? (entry.field "opening") = some opening) := by
  unfold problemsOf at noProblems
  split at noProblems
  · exact absurd rfl (notText _)
  simp only [List.append_eq_nil_iff, problemIf_eq_nil] at noProblems
  obtain ⟨⟨⟨⟨⟨⟨⟨closing, opening⟩, -⟩, -⟩, -⟩, -⟩, -⟩, -⟩ := noProblems
  refine ⟨Option.isSome_iff_exists.mp (by simpa using closing), ?_⟩
  unfold openingProblems at opening
  split at opening
  · next missing =>
    unfold Data.isMissing at missing
    split at missing
    · next isMissing => exact Or.inl isMissing
    · simp at missing
  · split at opening
    · simp at opening
    · next t found => exact Or.inr ⟨t, found⟩

/-- A record without problems names a priority that can be used, or none. -/
theorem usablePriority_of_noProblems {key : Text} (notText : ∀ t, entry ≠ .text t)
    (noProblems : problemsOf key entry = []) :
    isUsablePriority (entry.field "priority") = true := by
  unfold problemsOf at noProblems
  split at noProblems
  · exact absurd rfl (notText _)
  simp only [List.append_eq_nil_iff, problemIf_eq_nil] at noProblems
  obtain ⟨⟨⟨⟨⟨-, priority⟩, -⟩, -⟩, -⟩, -⟩ := noProblems
  simpa using priority

end Definitions

/-- A result that went through another one. -/
theorem exists_of_bind_eq_ok {α β ε : Type} {result : Except ε α} {next : α → Except ε β} {value : β}
    (given : result >>= next = .ok value) : ∃ first, result = .ok first ∧ next first = .ok value := by
  cases result with
  | error cause => simp [bind, Except.bind] at given
  | ok first => exact ⟨first, rfl, given⟩

theorem exists_of_map_eq_ok {α β ε : Type} {result : Except ε α} {f : α → β} {value : β}
    (given : result.map f = .ok value) : ∃ first, result = .ok first ∧ f first = value := by
  cases result with
  | error cause => cases given
  | ok first => exact ⟨first, rfl, Except.ok.inj given⟩

theorem exists_of_toBool {α ε : Type} {result : Except ε α} (succeeds : result.toBool = true) :
    ∃ value, result = .ok value := by
  cases result with
  | error cause => simp [Except.toBool] at succeeds
  | ok value => exact ⟨value, rfl⟩

theorem eq_ok_of_toOption {α ε : Type} {result : Except ε α} {value : α}
    (given : result.toOption = some value) : result = .ok value := by
  cases result with
  | error cause => cases given
  | ok other => exact congrArg _ (Option.some.inj given)

/-- What the rule of a record takes from it: the place that it was given, the delimiters that the record
names, and the priority that it names or else the usual one. -/
structure UncheckedRule.IsOfRecord (key : Text) (entry : Data HostFunction) (order : Nat)
    (rule : UncheckedRule) : Prop where
  /-- The definition is no bare closing. -/
  notText : ∀ t, entry ≠ .text t
  /-- The rule stands under its key. -/
  key_eq : rule.key = key
  /-- It has its place. -/
  order_eq : rule.order = order
  /-- It opens with the opening that is named, or with its key. -/
  opening_eq : rule.opening = (entry.field "opening").orElse (.text key)
  /-- It closes with the closing that is named. -/
  closing_eq : rule.closing = entry.field "closing"
  /-- It has the priority that is named, or the usual one of its delimiters. -/
  priority_eq : ∃ hasCondition usual, usualPriority rule.opening rule.closing hasCondition = .ok usual ∧
    rule.priority = (entry.field "priority").orElse (usual.map fun _ => .constant .missing)

/-- What the rule of a record is guarded by: it applies in the languages that the record names and where its
condition holds, and allows an action by what the record says about it. -/
structure UncheckedRule.IsGuardedBy (entry : Data HostFunction) (rule : UncheckedRule) : Prop where
  /-- It applies where the record says. -/
  applies_eq : ∃ offCommandLine inLanguages condition,
    rule.applies = applicability offCommandLine inLanguages condition ∧
      (∀ predicate, inLanguages = some predicate →
        predicate = .ofLanguageOperand (entry.field "languages")) ∧
      ∀ predicate, condition = some predicate → Predicate.ofSource (entry.field "when") = .ok predicate
  /-- It allows the actions that the record allows. -/
  allows_eq : ∀ action : Action, Predicate.ofFlag (entry.field action.name) = .ok (rule.allows action)

/-- The rule of a definition is that of a bare closing, or takes all from a record. -/
theorem UncheckedRule.all_cases_of_ofEntry {key : Text} {entry : Data HostFunction} {order : Nat}
    {rule : UncheckedRule} (given : UncheckedRule.ofEntry key entry order = .ok rule) :
    (∃ closing, entry = .text closing ∧ rule = .ofClosing key closing order) ∨
      IsOfRecord key entry order rule ∧ IsGuardedBy entry rule := by
  unfold UncheckedRule.ofEntry at given
  split at given
  · next closing => exact Or.inl ⟨closing, rfl, (Except.ok.inj given).symm⟩
  · simp at given
  · simp at given
  · next notText _ _ =>
    have inLanguages (predicate : Predicate) (named : (if (entry.field "languages").isMissing then none
        else some (Predicate.ofLanguageOperand (entry.field "languages"))) = some predicate) :
        predicate = .ofLanguageOperand (entry.field "languages") := by
      split at named
      · cases named
      · exact (Option.some.inj named).symm
    dsimp only at given
    split at given
    -- The condition, the usual priority and the six flags are looked at before the rule is made.
    all_goals
      obtain ⟨condition, isCondition, given⟩ := exists_of_bind_eq_ok given
      obtain ⟨usual, worth, given⟩ := exists_of_bind_eq_ok given
      obtain ⟨opens, isOpens, given⟩ := exists_of_bind_eq_ok given
      obtain ⟨closes, isCloses, given⟩ := exists_of_bind_eq_ok given
      obtain ⟨opensOrCloses, isOpensOrCloses, given⟩ := exists_of_bind_eq_ok given
      obtain ⟨enters, isEnters, given⟩ := exists_of_bind_eq_ok given
      obtain ⟨erases, isErases, given⟩ := exists_of_bind_eq_ok given
      obtain ⟨spaces, isSpaces, given⟩ := exists_of_bind_eq_ok given
      obtain rfl := Except.ok.inj given
      refine Or.inr ⟨⟨notText, rfl, rfl, rfl, rfl, condition.isSome, usual, worth, rfl⟩,
        ⟨_, _, condition, rfl, inLanguages, ?_⟩, ?_⟩
      rotate_left
      · intro action
        cases action with
        | opening => exact isOpens
        | closing => exact isCloses
        | openingOrClosing => exact isOpensOrCloses
        | enter => exact isEnters
        | backspace => exact isErases
        | space => exact isSpaces
      rintro predicate rfl
    · cases isCondition
    · obtain ⟨source, isSource, same⟩ := exists_of_map_eq_ok isCondition
      obtain rfl := Option.some.inj same
      exact isSource

/-- The rule of a definition is that of a bare closing, or takes its fields from a record. -/
theorem UncheckedRule.cases_of_ofEntry {key : Text} {entry : Data HostFunction} {order : Nat}
    {rule : UncheckedRule} (given : UncheckedRule.ofEntry key entry order = .ok rule) :
    (∃ closing, entry = .text closing ∧ rule = .ofClosing key closing order) ∨
      IsOfRecord key entry order rule :=
  (all_cases_of_ofEntry given).imp_right And.left

theorem Data.eq_text_of_text? {φ : Type} {value : Data φ} {t : Text} (found : value.text? = some t) :
    value = .text t := by
  unfold Data.text? at found
  split at found
  · rw [Option.some.inj found]
  · simp at found

/-- A rule for use keeps what an unchecked rule says. -/
structure UncheckedRule.IsReadyAs (unchecked : UncheckedRule) (rule : Rule) : Prop where
  /-- The key stays. -/
  key_eq : unchecked.key = rule.key
  /-- The opening is a text. -/
  opening_eq : unchecked.opening = .text rule.opening
  /-- The closing is a text. -/
  closing_eq : unchecked.closing = .text rule.closing
  /-- The priority is a number, or taken for none. -/
  priority_eq : rule.priority = unchecked.priority.number?.getD .nan
  /-- The place stays. -/
  order_eq : unchecked.order = rule.order

/-- A rule for use is guarded as the unchecked rule is. -/
theorem UncheckedRule.guards_of_rule? {unchecked : UncheckedRule} {rule : Rule}
    (ready : unchecked.rule? = some rule) :
    rule.applies = unchecked.applies ∧ rule.allows = unchecked.allows := by
  unfold UncheckedRule.rule? at ready
  obtain ⟨opening, -, ready⟩ := Option.bind_eq_some_iff.mp ready
  obtain ⟨closing, -, ready⟩ := Option.bind_eq_some_iff.mp ready
  obtain rfl := Option.some.inj ready
  exact ⟨rfl, rfl⟩

theorem UncheckedRule.isReadyAs_of_rule? {unchecked : UncheckedRule} {rule : Rule}
    (ready : unchecked.rule? = some rule) : unchecked.IsReadyAs rule := by
  unfold UncheckedRule.rule? at ready
  obtain ⟨opening, openingText, ready⟩ := Option.bind_eq_some_iff.mp ready
  obtain ⟨closing, closingText, ready⟩ := Option.bind_eq_some_iff.mp ready
  obtain rfl := Option.some.inj ready
  exact ⟨rfl, Data.eq_text_of_text? openingText, Data.eq_text_of_text? closingText, rfl, rfl⟩

theorem Rule.exists_rule?_of_ofEntry {key : Text} {entry : Data HostFunction} {order : Nat}
    {rule : Rule} (given : Rule.ofEntry key entry order = .ok rule) :
    ∃ unchecked, UncheckedRule.ofEntry key entry order = .ok unchecked ∧ unchecked.rule? = some rule := by
  unfold Rule.ofEntry at given
  obtain ⟨unchecked, made, given⟩ := exists_of_bind_eq_ok given
  refine ⟨unchecked, made, ?_⟩
  cases ready : unchecked.rule? with
  | none => simp [ready, throw, throwThe, MonadExceptOf.throw] at given
  | some checked =>
    rw [ready] at given
    obtain rfl := Except.ok.inj given
    rfl

/-- The rule of a definition was an unchecked rule before. -/
theorem Rule.exists_unchecked_of_ofEntry {key : Text} {entry : Data HostFunction} {order : Nat}
    {rule : Rule} (given : Rule.ofEntry key entry order = .ok rule) :
    ∃ unchecked, UncheckedRule.ofEntry key entry order = .ok unchecked ∧ unchecked.IsReadyAs rule := by
  obtain ⟨unchecked, made, ready⟩ := exists_rule?_of_ofEntry given
  exact ⟨unchecked, made, UncheckedRule.isReadyAs_of_rule? ready⟩

/-- The rule of a definition has its key and its place. -/
theorem Rule.place_of_ofEntry {key : Text} {entry : Data HostFunction} {order : Nat} {rule : Rule}
    (given : Rule.ofEntry key entry order = .ok rule) : rule.key = key ∧ rule.order = order := by
  obtain ⟨unchecked, made, ready⟩ := exists_unchecked_of_ofEntry given
  obtain ⟨t, -, rfl⟩ | ofRecord := UncheckedRule.cases_of_ofEntry made
  · exact ⟨ready.key_eq.symm, ready.order_eq.symm⟩
  · exact ⟨ready.key_eq.symm.trans ofRecord.key_eq, ready.order_eq.symm.trans ofRecord.order_eq⟩

/-- The rule of a definition without problems has the delimiters that the definition declares, and
neither of them is empty. -/
theorem Rule.delimiters_of_ofEntry {rawKey key : Text} {entry : Data HostFunction} {order : Nat}
    {rule : Rule} (nonempty : key ≠ []) (sound : Definitions.problemsOf rawKey entry = [])
    (given : Rule.ofEntry key entry order = .ok rule) :
    rule.key = key ∧ rule.opening = Definitions.opensWith key entry ∧
      rule.closing = Definitions.closesWith entry ∧ rule.opening ≠ [] ∧ rule.closing ≠ [] := by
  obtain ⟨unchecked, made, ready⟩ := exists_unchecked_of_ofEntry given
  obtain ⟨t, rfl, rfl⟩ | ofRecord := UncheckedRule.cases_of_ofEntry made
  · have opensWithKey : rule.opening = key := (Data.text.inj ready.opening_eq).symm
    have closesWithText : rule.closing = t := (Data.text.inj ready.closing_eq).symm
    have closingNonempty : t ≠ [] := by
      simpa [Definitions.problemsOf, Definitions.problemIf_eq_nil] using sound
    exact ⟨ready.key_eq.symm, opensWithKey, closesWithText, opensWithKey ▸ nonempty,
      closesWithText ▸ closingNonempty⟩
  · obtain ⟨⟨t, hasClosing⟩, hasOpening⟩ := Definitions.texts_of_noProblems ofRecord.notText sound
    rw [Definitions.opensWith_of_not_text ofRecord.notText,
      Definitions.closesWith_of_not_text ofRecord.notText, hasClosing]
    have opens := ready.opening_eq.symm.trans ofRecord.opening_eq
    obtain ⟨isText, textNonempty⟩ := Definitions.nonEmptyText?_eq_some_iff.mp hasClosing
    have closesWithText : rule.closing = t :=
      Data.text.inj (ready.closing_eq.symm.trans (ofRecord.closing_eq.trans isText))
    have opensWithText : rule.opening =
        (Definitions.nonEmptyText? (entry.field "opening")).getD key ∧ rule.opening ≠ [] := by
      obtain missing | ⟨t, hasOpening⟩ := hasOpening
      · rw [missing] at opens ⊢
        have := Data.text.inj opens
        exact ⟨this, this ▸ nonempty⟩
      · obtain ⟨isText, textNonempty⟩ := Definitions.nonEmptyText?_eq_some_iff.mp hasOpening
        rw [isText] at opens
        have := Data.text.inj opens
        exact ⟨by rw [this, hasOpening, Option.getD_some], this ▸ textNonempty⟩
    exact ⟨ready.key_eq.symm.trans ofRecord.key_eq, opensWithText.1, closesWithText, opensWithText.2,
      closesWithText ▸ textNonempty⟩

theorem Text.composed_ne_nil_of_isSingleCluster {t : Text} (single : t.isSingleCluster = true) :
    t.composed ≠ [] := by
  intro empty
  simp [isSingleCluster, empty, clusters, codePoints, clusterPoints] at single

namespace Definitions

variable {definitions : Definitions} {rules : List Rule}

/-- A rule has the delimiters that a definition declares. -/
def Declares (key : Text) (entry : Data HostFunction) (rule : Rule) : Prop :=
  rule.key = key ∧ rule.opening = opensWith key entry ∧ rule.closing = closesWith entry ∧
    rule.opening ≠ [] ∧ rule.closing ≠ []

theorem IsSound.declares (sound : definitions.IsSound) {key : Text} {entry : Data HostFunction}
    {order : Nat} {rule : Rule} (member : (key, entry) ∈ definitions.entries)
    (given : Rule.ofEntry key entry order = .ok rule) : Declares key entry rule := by
  obtain ⟨rawKey, value, inside, place, rfl⟩ := mem_entries.mp member
  exact Rule.delimiters_of_ofEntry
    (Text.composed_ne_nil_of_isSingleCluster (sound.singleKey rawKey value inside))
    (sound.noProblems rawKey value inside entry place) given

/-- The definition of a rule. -/
theorem IsSound.exists_entry (sound : definitions.IsSound) (given : definitions.rules = .ok rules)
    {rule : Rule} (member : rule ∈ rules) :
    ∃ key entry, (key, entry) ∈ definitions.entries ∧ Declares key entry rule := by
  obtain ⟨key, entry, place, order, made⟩ := entry_of_rule given member
  exact ⟨key, entry, place, sound.declares place made⟩

/-- The rule of a definition. -/
theorem IsSound.exists_rule (sound : definitions.IsSound) (given : definitions.rules = .ok rules)
    {key : Text} {entry : Data HostFunction} (member : (key, entry) ∈ definitions.entries) :
    ∃ rule ∈ rules, Declares key entry rule := by
  obtain ⟨rule, place, order, made⟩ := rule_of_entry given member
  exact ⟨rule, place, sound.declares member made⟩

end Definitions

end Pairing
