/-
**Accepted definitions that have no rules.**

The check of definitions looks at their conditions from outside only. The rules are built by opening them, so
that definitions without issues may still fail to compile:

* `Data.HasOpenConditions`: the conditions of a definition can all be opened;
* `Rule.exists_ofEntry_record_iff`: a record with texts for delimiters has a rule exactly if its conditions
  give predicates;
* `Definitions.exists_rules_iff_haveOpenConditions`: accepted definitions of a configuration text have rules
  exactly if they have open conditions.

`RuleIndex.compile_ofJson_cases` tells the three ways in which definitions of a configuration text can end, and
`RuleIndex.unreadable_of_emptyCondition` shows that the third is met.
-/

import Mathlib.Tactic.Choose
import Pairing.Proofs.Condition.Opened
import Pairing.Proofs.Definition.Merged

namespace Pairing

/-! ### Open conditions -/

/-- The conditions of a definition can all be opened. -/
structure Data.HasOpenConditions {φ : Type} (entry : Data φ) : Prop where
  /-- The condition of the rule can be, if there is one. -/
  condition : entry.field "when" = .missing ∨ (entry.field "when").IsOpenSource
  /-- What is said about each action can be. -/
  flags : ∀ action : Action, (entry.field action.name).IsOpenFlag

/-- The conditions of all definitions can be opened. -/
def Definitions.HaveOpenConditions (definitions : Definitions) : Prop :=
  ∀ key value, (key, value) ∈ definitions → ∀ entry ∈ value.asList, entry.HasOpenConditions

/-! ### The rule of a definition -/

theorem Data.isMissing_iff {φ : Type} {value : Data φ} : value.isMissing = true ↔ value = .missing := by
  cases value <;> simp [isMissing]

section Records

variable {key opening closing : Text} {fields : Fields (Data HostFunction)}

/-- A record with texts for delimiters has a rule exactly if its conditions give predicates. -/
theorem Rule.exists_ofEntry_record_iff
    (opens : ((Data.record fields).field "opening").orElse (.text key) = .text opening)
    (closes : (Data.record fields).field "closing" = .text closing) (order : Nat) :
    (∃ rule, Rule.ofEntry key (.record fields) order = .ok rule) ↔
      ((Data.record fields).field "when" = .missing ∨
        ∃ predicate, Predicate.ofSource ((Data.record fields).field "when") = .ok predicate) ∧
      ∀ action : Action,
        ∃ predicate, Predicate.ofFlag ((Data.record fields).field action.name) = .ok predicate := by
  constructor
  · rintro ⟨rule, given⟩
    obtain ⟨unchecked, made, -⟩ := exists_rule?_of_ofEntry given
    obtain ⟨text, isText, -⟩ | ⟨-, guarded⟩ := UncheckedRule.all_cases_of_ofEntry made
    · cases isText
    refine ⟨?_, fun action => ⟨_, guarded.allows_eq action⟩⟩
    unfold UncheckedRule.ofEntry at made
    dsimp only at made
    split at made
    · next missing => exact Or.inl (Data.isMissing_iff.mp missing)
    · obtain ⟨condition, isCondition, -⟩ := exists_of_bind_eq_ok made
      obtain ⟨predicate, isPredicate, -⟩ := exists_of_map_eq_ok isCondition
      exact Or.inr ⟨predicate, isPredicate⟩
  · rintro ⟨source, flags⟩
    choose allows isAllowed using flags
    have made : ∃ unchecked, UncheckedRule.ofEntry key (.record fields) order = .ok unchecked ∧
        unchecked.opening = .text opening ∧ unchecked.closing = .text closing := by
      unfold UncheckedRule.ofEntry
      dsimp only
      split
      · simp only [opens, closes, isAllowed, UncheckedRule.usualPriority_texts]
        exact ⟨_, rfl, rfl, rfl⟩
      · next present =>
        obtain ⟨predicate, isPredicate⟩ := source.resolve_left (mt Data.isMissing_iff.mpr present)
        simp only [opens, closes, isAllowed, isPredicate, UncheckedRule.usualPriority_texts]
        exact ⟨_, rfl, rfl, rfl⟩
    obtain ⟨unchecked, isUnchecked, isOpening, isClosing⟩ := made
    refine ⟨⟨unchecked.key, opening, closing, unchecked.priority.number?.getD .nan, unchecked.order,
      unchecked.applies, unchecked.allows⟩, ?_⟩
    have ready : unchecked.rule? = some ⟨unchecked.key, opening, closing,
        unchecked.priority.number?.getD .nan, unchecked.order, unchecked.applies, unchecked.allows⟩ := by
      simp [UncheckedRule.rule?, isOpening, isClosing, Data.text?]
    rw [Rule.ofEntry, isUnchecked]
    simp [bind, Except.bind, ready, pure, Except.pure]

end Records

/-- A definition of a configuration text has open conditions exactly if each of them gives a predicate. -/
theorem Data.hasOpenConditions_ofJson_iff (json : Json) :
    let entry : Data HostFunction := .ofJson json
    entry.HasOpenConditions ↔
      (entry.field "when" = .missing ∨ ∃ predicate, Predicate.ofSource (entry.field "when") = .ok predicate) ∧
        ∀ action : Action, ∃ predicate, Predicate.ofFlag (entry.field action.name) = .ok predicate := by
  intro entry
  have source : (entry.field "when").IsOpenSource ∨ entry.field "when" = .missing ↔
      (∃ predicate, Predicate.ofSource (entry.field "when") = .ok predicate) ∨ entry.field "when" = .missing := by
    rcases Data.field_ofJson_cases "when" json with missing | ⟨value, isValue⟩
    · have := Data.isMissing_iff.mp missing
      exact iff_of_true (Or.inr this) (Or.inr this)
    · rw [isValue, Predicate.exists_ofSource_iff]
  have flag (action : Action) : (entry.field action.name).IsOpenFlag ↔
      ∃ predicate, Predicate.ofFlag (entry.field action.name) = .ok predicate := by
    rcases Data.field_ofJson_cases action.name json with missing | ⟨value, isValue⟩
    · rw [Data.isMissing_iff.mp missing]
      exact iff_of_true trivial ⟨_, rfl⟩
    · rw [isValue, Predicate.exists_ofFlag_iff]
  constructor
  · intro opened
    exact ⟨(source.mp opened.condition.symm).symm, fun action => (flag action).mp (opened.flags action)⟩
  · rintro ⟨condition, flags⟩
    exact ⟨(source.mpr condition.symm).symm, fun action => (flag action).mpr (flags action)⟩

/-- The rule of an accepted definition of a configuration text is there exactly if the definition has open
conditions. -/
theorem Rule.exists_ofEntry_ofJson_iff {rawKey : Text} {json : Json}
    (noProblems : Definitions.problemsOf rawKey (Data.ofJson json) = []) (key : Text) (order : Nat) :
    (∃ rule, Rule.ofEntry key (Data.ofJson json) order = .ok rule) ↔
      (Data.ofJson json : Data HostFunction).HasOpenConditions := by
  have noClosing (notText : ∀ t, (Data.ofJson json : Data HostFunction) ≠ .text t)
      (fieldless : (Data.ofJson json : Data HostFunction).field "closing" = .missing) : False := by
    obtain ⟨⟨closing, named⟩, -⟩ := Definitions.texts_of_noProblems notText noProblems
    rw [fieldless] at named
    cases named
  cases json with
  | text closing => exact iff_of_true ⟨_, rfl⟩ ⟨Or.inl rfl, fun _ => trivial⟩
  | record fields =>
    obtain ⟨⟨closing, named⟩, opening⟩ := Definitions.texts_of_noProblems (by rintro t ⟨⟩) noProblems
    have closes := (Definitions.nonEmptyText?_eq_some_iff.mp named).1
    obtain ⟨opens, isOpens⟩ : ∃ t : Text,
        ((Data.ofJson (.record fields) : Data HostFunction).field "opening").orElse (.text key) = .text t := by
      rcases opening with missing | ⟨t, named⟩
      · exact ⟨key, by rw [missing]; rfl⟩
      · exact ⟨t, by rw [(Definitions.nonEmptyText?_eq_some_iff.mp named).1]; rfl⟩
    exact (Rule.exists_ofEntry_record_iff isOpens closes order).trans
      (Data.hasOpenConditions_ofJson_iff (.record fields)).symm
  | null | bool _ | number _ | list _ => exact (noClosing (by rintro t ⟨⟩) rfl).elim

/-! ### Definitions of a configuration text -/

namespace Definitions

variable {json : Json} {definitions : Definitions}

/-- Under each key stands another value of the text. -/
theorem exists_ofJson_of_mem (given : ofData? (Data.ofJson json) = some definitions) {key : Text}
    {value : Data HostFunction} (member : (key, value) ∈ definitions) :
    ∃ held : Json, value = Data.ofJson held := by
  cases json with
  | null => cases given
  | bool _ | number _ =>
    obtain rfl := Option.some.inj given
    cases member
  | text t =>
    obtain rfl := Option.some.inj given
    obtain ⟨index, inside, same⟩ := List.mem_mapIdx.mp member
    exact ⟨.text [t[index]], (Prod.mk.inj same).2.symm⟩
  | list items =>
    obtain rfl := Option.some.inj given
    obtain ⟨index, inside, same⟩ := List.mem_mapIdx.mp member
    obtain ⟨-, rfl⟩ := Prod.mk.inj same
    have inList : _ ∈ (Data.ofJson (.list items) : Data HostFunction).asList := List.getElem_mem inside
    exact Data.exists_of_mem_asList_ofJson inList
  | record fields =>
    obtain rfl := Option.some.inj given
    exact Data.exists_of_mem_ofJsonFields member

/-- So does each definition of a key. -/
theorem exists_ofJson_of_mem_asList (given : ofData? (Data.ofJson json) = some definitions) {key : Text}
    {value entry : Data HostFunction} (member : (key, value) ∈ definitions) (inside : entry ∈ value.asList) :
    ∃ held : Json, entry = Data.ofJson held := by
  obtain ⟨held, rfl⟩ := exists_ofJson_of_mem given member
  exact Data.exists_of_mem_asList_ofJson inside

/-- Accepted definitions have rules exactly if they have open conditions. -/
theorem exists_rules_iff_haveOpenConditions (given : ofData? (Data.ofJson json) = some definitions)
    (sound : definitions.IsSound) : (∃ rules, definitions.rules = .ok rules) ↔ definitions.HaveOpenConditions := by
  have each {key : Text} {value entry : Data HostFunction} (member : (key, value) ∈ definitions)
      (inside : entry ∈ value.asList) (order : Nat) :
      (∃ rule, Rule.ofEntry key.composed entry order = .ok rule) ↔ entry.HasOpenConditions := by
    have noProblems := sound.noProblems key value member entry inside
    obtain ⟨held, rfl⟩ := exists_ofJson_of_mem_asList given member inside
    exact Rule.exists_ofEntry_ofJson_iff noProblems key.composed order
  rw [exists_rules_iff]
  constructor
  · intro made key value member entry inside
    obtain ⟨order, isMade⟩ := made key.composed entry (mem_entries.mpr ⟨key, value, member, inside, rfl⟩)
    exact (each member inside order).mp isMade
  · intro opened key entry place
    obtain ⟨rawKey, value, member, inside, rfl⟩ := mem_entries.mp place
    exact ⟨0, (each member inside 0).mpr (opened rawKey value member entry inside)⟩

/-- Definitions of a configuration text cannot be looked into exactly if one of them is null. -/
theorem issues?_eq_none_iff (given : ofData? (Data.ofJson json) = some definitions) :
    definitions.issues? = none ↔ ∃ key value, (key, value) ∈ definitions ∧ Data.null ∈ value.asList := by
  have unreadable : definitions.issues? = none ↔ definitions.areReadable = false := by
    unfold issues?
    split <;> simp_all
  rw [unreadable, ← Bool.not_eq_true, areReadable, List.all_eq_true]
  constructor
  · intro notAll
    by_contra noNull
    refine notAll fun (key, value) member => List.all_eq_true.mpr fun entry inside => ?_
    obtain ⟨held, rfl⟩ := exists_ofJson_of_mem_asList given member inside
    cases held with
    | null => exact absurd ⟨key, value, member, inside⟩ noNull
    | _ => rfl
  · rintro ⟨key, value, member, inside⟩ all
    have := List.all_eq_true.mp (all (key, value) member) _ inside
    cases this

end Definitions

/-! ### What definitions compile to -/

/-- **How definitions of a configuration text end.** They compile exactly if they have no issues and their
conditions can be opened. They are refused with issues exactly if they have some. And they fail in another way
exactly if one of them is null, or if they have no issues and a condition among them cannot be opened. -/
theorem RuleIndex.compile_ofJson_cases {json : Json} {definitions : Definitions}
    (given : Definitions.ofData? (Data.ofJson json) = some definitions) :
    ((∃ index, compile definitions = .ok index) ↔
        definitions.issues? = some [] ∧ definitions.HaveOpenConditions) ∧
      (∀ issues, compile definitions = .error (.issues issues) ↔
        definitions.issues? = some issues ∧ issues ≠ []) ∧
      ((∃ fault, compile definitions = .error (.unreadable fault)) ↔
        (∃ key value, (key, value) ∈ definitions ∧ Data.null ∈ value.asList) ∨
          definitions.issues? = some [] ∧ ¬ definitions.HaveOpenConditions) := by
  rw [← Definitions.issues?_eq_none_iff given]
  have built (none : definitions.issues? = some []) :=
    Definitions.exists_rules_iff_haveOpenConditions given (Definitions.issues?_eq_nil_iff.mp none)
  unfold compile
  split
  · next unreadable => simp [unreadable]
  · next none =>
    rw [← built none]
    cases definitions.rules <;> simp [none]
  · next issues notNone found =>
    have present : issues ≠ [] := notNone
    simp [found, present, eq_comm]

/-- Conditions inside each other compile, down to one on no parts at all. -/
theorem RuleIndex.compile_ofJson_nested :
    let nested : Json := .record [("not", .record [("any", .list [])])]
    let json : Json := .record [("(", .record [("closing", .text ")"), ("when", .list [nested])])]
    ∃ definitions, Definitions.ofData? (Data.ofJson json) = some definitions ∧
      definitions.issues? = some [] ∧ definitions.HaveOpenConditions ∧
      ∃ index, compile definitions = .ok index := by
  intro nested json
  let entry : Data HostFunction := .ofJson (.record [("closing", .text ")"), ("when", .list [nested])])
  let definitions : Definitions := [("(", entry)]
  have given : Definitions.ofData? (Data.ofJson json) = some definitions := rfl
  have only {key : Text} {value : Data HostFunction} (member : (key, value) ∈ definitions) :
      key = Text.ofString "(" ∧ value = entry := by
    obtain ⟨rfl, rfl⟩ := Prod.mk.inj (List.mem_singleton.mp member)
    exact ⟨rfl, rfl⟩
  have none : definitions.issues? = some [] := by
    refine Definitions.issues?_eq_nil_iff.mpr ⟨rfl, fun key value member => ?_, ?_⟩
    · obtain ⟨rfl, rfl⟩ := only member
      decide +kernel
    · intro key value member held inside
      obtain ⟨rfl, rfl⟩ := only member
      obtain rfl := List.mem_singleton.mp inside
      decide +kernel
  have opened : definitions.HaveOpenConditions := by
    intro key value member held inside
    obtain ⟨rfl, rfl⟩ := only member
    obtain rfl := List.mem_singleton.mp inside
    refine ⟨Or.inr ?_, fun action => by cases action <;> trivial⟩
    refine List.forall_mem_singleton.mpr (.not rfl rfl rfl ?_)
    exact .any rfl rfl (List.forall_mem_nil _)
  exact ⟨definitions, given, none, opened, (compile_ofJson_cases given).1.mpr ⟨none, opened⟩⟩

/-- A rule whose condition is an empty record is accepted without an issue, and cannot be built. -/
theorem RuleIndex.unreadable_of_emptyCondition :
    let json : Json := .record [("(", .record [("closing", .text ")"), ("when", .record [])])]
    ∃ definitions, Definitions.ofData? (Data.ofJson json) = some definitions ∧
      definitions.issues? = some [] ∧ compile definitions = .error (.unreadable .notCondition) := by
  intro json
  let entry : Data HostFunction := .ofJson (.record [("closing", .text ")"), ("when", .record [])])
  let definitions : Definitions := [("(", entry)]
  have none : definitions.issues? = some [] := by
    refine Definitions.issues?_eq_nil_iff.mpr ⟨rfl, fun key value member => ?_, ?_⟩
    · obtain ⟨rfl, rfl⟩ := Prod.mk.inj (List.mem_singleton.mp member)
      decide +kernel
    · intro key value member held inside
      obtain ⟨rfl, rfl⟩ := Prod.mk.inj (List.mem_singleton.mp member)
      obtain rfl := List.mem_singleton.mp inside
      decide +kernel
  have refused : definitions.rules = .error .notCondition := rfl
  exact ⟨definitions, rfl, none, by simp only [compile, none, refused]⟩

end Pairing
