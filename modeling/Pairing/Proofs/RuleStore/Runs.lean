/-
**Runs of a rule store.**

A host loads configurations, refuses them and goes back to the last one that could be used, in any order.
What its store holds after that follows from the loads that succeeded alone:

* `RuleStore.Operation`, `RuleStore.perform`: what a host does to its rules;
* `RuleStore.History`: a store with the definitions that the last successful load gave it;
* `RuleStore.History.IsConsistent`: the index is that of these definitions on top of the defaults, and
  they are what a reset goes back to;
* `RuleStore.load_cases`, `RuleStore.History.IsConsistent.perform_cases`: the three ways in which an
  operation can end;
* `RuleStore.History.IsConsistent.after`, `RuleStore.History.IsConsistent.run`: no operation and no
  order of them breaks this.

`RuleStore.run_keepsIndex` collects what a host can rely on in every state that it can reach.
-/

import Pairing.RuleStore

namespace Pairing.RuleStore

/-! ### Operations and histories -/

/-- What a host does to its rules. -/
inductive Operation where
  /-- It uses the definitions of a user. -/
  | load (definitions : Definitions)
  /-- It uses the definitions of a text. -/
  | loadText (t : Text)
  /-- It refuses a configuration for a reason of its own. -/
  | reject (reason : Text)
  /-- It goes back to the last configuration that could be used. -/
  | reset

/-- A store after an operation, and what came of it. -/
def perform (store : RuleStore) : Operation → RuleStore × LoadOutcome
  | .load definitions => store.load (.record definitions)
  | .loadText t => store.loadText t
  | .reject reason => store.reject reason
  | .reset => store.reset

/-- The definitions that an operation brings with it. -/
def Operation.definitions? : Operation → Option Definitions
  | .load definitions => some definitions
  | .loadText t =>
    match (RulesText.ofText t).outcome with
    | .ok checked => some (Definitions.ofChecked checked)
    | .error _ => none
  | .reject _ | .reset => none

/-- A store, with the definitions of the last load that succeeded. -/
structure History where
  /-- The store. -/
  store : RuleStore
  /-- The definitions of the last load that succeeded, if one did. -/
  loaded : Option Definitions

namespace History

/-- The history of a store after an operation. Going back brings no definitions of its own. -/
def after (history : History) (operation : Operation) : History :=
  match history.store.perform operation with
  | (store, .loaded _) => ⟨store, operation.definitions?.or history.loaded⟩
  | (store, _) => ⟨store, history.loaded⟩

/-- The history of a store after operations, the first one first. -/
def run (history : History) (operations : List Operation) : History :=
  operations.foldl after history

/-- The store is what the last load that succeeded has made of it. -/
structure IsConsistent (defaults : Definitions) (history : History) : Prop where
  /-- The defaults stay what they were. -/
  sameDefaults : history.store.defaults = defaults
  /-- The index is that of the definitions on top of the defaults. -/
  compiled : RuleIndex.compile (Definitions.merge defaults (history.loaded.getD [])) =
    .ok history.store.index
  /-- The store is valid as long as it reports nothing. -/
  valid : history.store.isValid = true ↔ history.store.error = none
  /-- The definitions are what a reset goes back to. -/
  lastValid : history.store.lastValid =
    match history.loaded with
    | some definitions => .record definitions
    | none => .null

end History

/-! ### How one operation ends -/

variable {store : RuleStore} {definitions : Definitions}

/-- Definitions that compile are put in use. -/
theorem load_of_compile {index : RuleIndex}
    (compiled : RuleIndex.compile (Definitions.merge store.defaults definitions) = .ok index) :
    store.load (.record definitions) =
      (⟨store.defaults, index, true, none, .record definitions⟩, .loaded index.all.length) := by
  have merged : store.merged (.record definitions) = Definitions.merge store.defaults definitions :=
    rfl
  rw [load, merged, compiled]

/-- A load puts definitions in use, marks the store, or leaves it as it is. -/
theorem load_cases (store : RuleStore) (definitions : Definitions) :
    (∃ index, RuleIndex.compile (Definitions.merge store.defaults definitions) = .ok index ∧
      store.load (.record definitions) =
        (⟨store.defaults, index, true, none, .record definitions⟩, .loaded index.all.length)) ∨
    (∃ reason outcome, LoadOutcome.error? outcome = some reason ∧
      store.load (.record definitions) = (store.markInvalid reason, outcome)) ∨
    ∃ cause, store.load (.record definitions) = (store, .unreadable cause) := by
  have merged : store.merged (.record definitions) = Definitions.merge store.defaults definitions :=
    rfl
  cases compiled : RuleIndex.compile (Definitions.merge store.defaults definitions) with
  | ok index => exact Or.inl ⟨index, rfl, load_of_compile compiled⟩
  | error fault =>
    rw [load, merged, compiled]
    cases fault with
    | issues issues => exact Or.inr (Or.inl ⟨_, .invalid issues, rfl, rfl⟩)
    | unreadable cause => exact Or.inr (Or.inr ⟨cause, rfl⟩)

theorem reset_of_record (last : store.lastValid = .record definitions) :
    store.reset = store.load (.record definitions) := by
  rw [reset, last]
  rfl

theorem reset_of_null (last : store.lastValid = .null) : store.reset = (store, .noneToReset) := by
  rw [reset, last]
  rfl

theorem canReset_iff_ne_null : store.canReset = true ↔ store.lastValid ≠ .null := by
  unfold canReset
  cases store.lastValid <;> simp

namespace History.IsConsistent

variable {defaults : Definitions} {history : History}

/-- In a consistent history every operation is a load of known definitions, a refusal, or a reset that
finds nothing. -/
theorem perform_eq (consistent : history.IsConsistent defaults) (operation : Operation) :
    (∃ definitions, operation.definitions?.or history.loaded = some definitions ∧
      history.store.perform operation = history.store.load (.record definitions)) ∨
    (∃ reason, history.store.perform operation = history.store.reject reason) ∨
    history.store.perform operation = (history.store, .noneToReset) := by
  cases operation with
  | load definitions => exact Or.inl ⟨definitions, rfl, rfl⟩
  | reject reason => exact Or.inr (Or.inl ⟨reason, rfl⟩)
  | loadText t =>
    simp only [Operation.definitions?, perform, loadText, loadRead]
    cases (RulesText.ofText t).outcome with
    | ok checked => exact Or.inl ⟨Definitions.ofChecked checked, rfl, rfl⟩
    | error reason => exact Or.inr (Or.inl ⟨reason, rfl⟩)
  | reset =>
    have last := consistent.lastValid
    cases loaded : history.loaded with
    | some definitions =>
      rw [loaded] at last
      exact Or.inl ⟨definitions, rfl, reset_of_record last⟩
    | none =>
      rw [loaded] at last
      exact Or.inr (Or.inr (reset_of_null last))

/-- In a consistent history an operation puts known definitions in use, marks the store, or leaves it
as it is. -/
theorem perform_cases (consistent : history.IsConsistent defaults) (operation : Operation) :
    (∃ definitions index, operation.definitions?.or history.loaded = some definitions ∧
      RuleIndex.compile (Definitions.merge defaults definitions) = .ok index ∧
      history.store.perform operation =
        (⟨defaults, index, true, none, .record definitions⟩, .loaded index.all.length)) ∨
    (∃ reason outcome, LoadOutcome.error? outcome = some reason ∧
      history.store.perform operation = (history.store.markInvalid reason, outcome)) ∨
    ∃ outcome, (outcome = .noneToReset ∨ ∃ cause, outcome = .unreadable cause) ∧
      history.store.perform operation = (history.store, outcome) := by
  obtain ⟨definitions, given, how⟩ | ⟨reason, how⟩ | how := consistent.perform_eq operation
  · obtain ⟨index, compiled, loads⟩ | ⟨reason, outcome, wording, loads⟩ | ⟨cause, loads⟩ :=
      load_cases history.store definitions
    · rw [consistent.sameDefaults] at compiled loads
      exact Or.inl ⟨definitions, index, given, compiled, how.trans loads⟩
    · exact Or.inr (Or.inl ⟨reason, outcome, wording, how.trans loads⟩)
    · exact Or.inr (Or.inr ⟨_, Or.inr ⟨cause, rfl⟩, how.trans loads⟩)
  · exact Or.inr (Or.inl ⟨reason, .rejected reason, rfl, how⟩)
  · exact Or.inr (Or.inr ⟨_, Or.inl rfl, how⟩)

/-- No operation breaks consistency. -/
theorem after (consistent : history.IsConsistent defaults) (operation : Operation) :
    (history.after operation).IsConsistent defaults := by
  unfold History.after
  obtain ⟨definitions, index, given, compiled, ends⟩ | ⟨reason, outcome, wording, ends⟩ |
    ⟨outcome, unchanged, ends⟩ := consistent.perform_cases operation
  · rw [ends]
    exact ⟨rfl, by rw [given]; exact compiled, by simp, by rw [given]⟩
  · rw [ends]
    have marked : IsConsistent defaults ⟨history.store.markInvalid reason, history.loaded⟩ :=
      { consistent with valid := by simp [markInvalid] }
    cases outcome with
    | loaded rules => simp [LoadOutcome.error?] at wording
    | unreadable cause => simp [LoadOutcome.error?] at wording
    | invalid issues => exact marked
    | rejected reason => exact marked
    | noneToReset => exact marked
  · rw [ends]
    obtain rfl | ⟨cause, rfl⟩ := unchanged
    · exact consistent
    · exact consistent

/-- No sequence of operations breaks consistency. -/
theorem run (consistent : history.IsConsistent defaults) (operations : List Operation) :
    (history.run operations).IsConsistent defaults := by
  induction operations generalizing history with
  | nil => exact consistent
  | cons operation rest ih => exact ih (consistent.after operation)

/-- An operation that reports an error keeps the index and what a reset goes back to. -/
theorem keeps_of_error (consistent : history.IsConsistent defaults) {operation : Operation}
    (failed : (history.store.perform operation).2.error? ≠ none) :
    (history.store.perform operation).1.index = history.store.index ∧
      (history.store.perform operation).1.lastValid = history.store.lastValid := by
  obtain ⟨definitions, index, _, _, ends⟩ | ⟨reason, outcome, _, ends⟩ | ⟨outcome, _, ends⟩ :=
    consistent.perform_cases operation
  · rw [ends] at failed
    exact absurd rfl failed
  · rw [ends]
    exact ⟨rfl, rfl⟩
  · rw [ends]
    exact ⟨rfl, rfl⟩

/-- An operation that is cut short by what it cannot read changes nothing. -/
theorem eq_of_unreadable (consistent : history.IsConsistent defaults) {operation : Operation}
    {cause : Fault} (cut : (history.store.perform operation).2 = .unreadable cause) :
    (history.store.perform operation).1 = history.store := by
  obtain ⟨definitions, index, _, _, ends⟩ | ⟨reason, outcome, wording, ends⟩ | ⟨outcome, _, ends⟩ :=
    consistent.perform_cases operation
  · rw [ends] at cut
    exact absurd cut (by simp)
  · rw [ends] at cut
    obtain rfl : outcome = .unreadable cause := cut
    exact absurd wording (by simp [LoadOutcome.error?])
  · rw [ends]

/-- A reset that is offered succeeds: it brings the same index back and takes back what the store
reported. -/
theorem reset_of_canReset (consistent : history.IsConsistent defaults)
    (offered : history.store.canReset = true) :
    history.store.reset =
      (⟨history.store.defaults, history.store.index, true, none, history.store.lastValid⟩,
        .loaded history.store.index.all.length) := by
  have last := consistent.lastValid
  have compiled := consistent.compiled
  cases loaded : history.loaded with
  | none =>
    rw [loaded] at last
    exact absurd last (canReset_iff_ne_null.mp offered)
  | some definitions =>
    rw [loaded] at last compiled
    rw [Option.getD_some, ← consistent.sameDefaults] at compiled
    rw [reset_of_record last, load_of_compile compiled, last]

/-- A reset that is not offered changes nothing. -/
theorem reset_of_not_canReset (notOffered : history.store.canReset = false) :
    history.store.reset = (history.store, .noneToReset) := by
  refine reset_of_null ?_
  have := mt canReset_iff_ne_null.mpr (Bool.eq_false_iff.mp notOffered)
  exact Classical.not_not.mp this

end History.IsConsistent

/-! ### Every state that a host can reach -/

/-- The store of a host that has done nothing yet is what its defaults have made of it. -/
theorem isConsistent_of_ofDefaults {defaults : Definitions} (started : ofDefaults defaults = .ok store) :
    History.IsConsistent defaults ⟨store, none⟩ := by
  unfold ofDefaults at started
  cases compiled : RuleIndex.compile defaults with
  | error fault => simp [compiled, Except.map] at started
  | ok index =>
    rw [compiled] at started
    obtain rfl := Except.ok.inj started
    exact ⟨rfl, compiled, by simp, rfl⟩

/-- **A failure keeps the index, and a reset brings it back.** After any operations, the index is that of
the definitions of the last load that succeeded on top of the defaults; the store is valid exactly if it
reports nothing; an operation that reports an error keeps the index and what a reset goes back to, and
one that is cut short changes nothing; a reset that is offered succeeds, brings the same index back and
takes back what was reported, and one that is not offered changes nothing. -/
theorem run_keepsIndex {defaults : Definitions} (started : ofDefaults defaults = .ok store)
    (operations : List Operation) :
    let history := History.run ⟨store, none⟩ operations
    let now := history.store
    RuleIndex.compile (Definitions.merge defaults (history.loaded.getD [])) = .ok now.index ∧
    (now.isValid = true ↔ now.error = none) ∧
    (∀ operation,
      ((now.perform operation).2.error? ≠ none →
        (now.perform operation).1.index = now.index ∧
          (now.perform operation).1.lastValid = now.lastValid) ∧
      ∀ cause, (now.perform operation).2 = .unreadable cause → (now.perform operation).1 = now) ∧
    (now.status.canReset = true →
      (∃ rules, now.reset.2 = .loaded rules) ∧ now.reset.1.index = now.index ∧
        now.reset.1.error = none) ∧
    (now.status.canReset = false → now.reset.2.error? ≠ none ∧ now.reset.1 = now) := by
  intro history now
  have consistent : history.IsConsistent defaults := (isConsistent_of_ofDefaults started).run operations
  refine ⟨consistent.compiled, consistent.valid, fun operation => ⟨consistent.keeps_of_error,
    fun cause => consistent.eq_of_unreadable⟩, fun offered => ?_, fun notOffered => ?_⟩
  · rw [consistent.reset_of_canReset offered]
    exact ⟨⟨_, rfl⟩, rfl, rfl⟩
  · rw [History.IsConsistent.reset_of_not_canReset notOffered]
    exact ⟨by simp [LoadOutcome.error?], rfl⟩

/-- A reset after a load with an issue and a refusal is back at the first load. -/
theorem run_keepsIndex_reset :
    ∃ store, ofDefaults [("(", .text ")")] = .ok store ∧
      let history := History.run ⟨store, none⟩
        [.load [("[", .text "]")], .load [("(", .text "")], .reject "unreadable", .reset]
      history.store.isValid = true ∧
        RuleIndex.compile (Definitions.merge [("(", .text ")")] [("[", .text "]")]) =
          .ok history.store.index := by
  have ready : ∃ store, ofDefaults [("(", .text ")")] = .ok store := ⟨_, rfl⟩
  obtain ⟨store, started⟩ := ready
  have holds := run_keepsIndex started
    [.load [("[", .text "]")], .load [("(", .text "")], .reject "unreadable", .reset]
  obtain rfl := Except.ok.inj started
  exact ⟨_, started, rfl, holds.1⟩

end Pairing.RuleStore
