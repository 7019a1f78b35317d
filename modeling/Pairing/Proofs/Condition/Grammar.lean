/-
**The grammar of conditions.**

What is read as a condition, told by how a value is built and not by how it is read:

* `Data.IsCondition`: the values that are conditions;
* `Condition.isCondition_of_ofData`: what was read is one, by induction over the condition, with
  `Condition.areConditions_of_ofItems` for several of them;
* `Condition.exists_ofData_of_isCondition`: each of them is read, by induction over how it is built;
* `Condition.ofItems_eq_error_iff`: of several values, the first that is no condition is what reading fails
  on, and as reading it alone does;
* `Condition.ofData_grammar`: all of it in one statement.
-/

import Pairing.Proofs.Condition.Reread

namespace Pairing

variable {φ : Type}

/-- The values that are conditions. A condition has one field, and one on scopes may also name a place. -/
inductive Data.IsCondition : Data φ → Prop
  | textBefore {t : Text} (nonempty : t ≠ []) : IsCondition (.record [("textBefore", .text t)])
  | textAfter {t : Text} (nonempty : t ≠ []) : IsCondition (.record [("textAfter", .text t)])
  | inSpan (kind : Text) : IsCondition (.record [("inSpan", .text kind)])
  | word : IsCondition (.record [("charUnderCursor", .text "word")])
  | nonWord : IsCondition (.record [("charUnderCursor", .text "nonWord")])
  | all {items : List (Data φ)} (each : ∀ item ∈ items, IsCondition item) :
      IsCondition (.record [("all", .list items)])
  | any {items : List (Data φ)} (each : ∀ item ∈ items, IsCondition item) :
      IsCondition (.record [("any", .list items)])
  | not {value : Data φ} (part : IsCondition value) : IsCondition (.record [("not", value)])
  | scopeWhitelist {fields : Fields (Data φ)} {scopes : List Text} {place : Option ScopePlace}
      (named : Condition.NamesScopes fields "scopeWhitelist" scopes place) : IsCondition (.record fields)
  | scopeBlacklist {fields : Fields (Data φ)} {scopes : List Text} {place : Option ScopePlace}
      (named : Condition.NamesScopes fields "scopeBlacklist" scopes place) : IsCondition (.record fields)

/-- A condition is there. -/
theorem Data.IsCondition.isMissing_eq {value : Data φ} (isCondition : value.IsCondition) :
    value.isMissing = false := by
  cases isCondition <;> rfl

namespace Condition

/-! ### Records that name scopes -/

section NamesScopes

variable {fields : Fields (Data φ)} {key : Text} {scopes : List Text} {place : Option ScopePlace}
  (named : NamesScopes fields key scopes place)

include named

/-- Under any other name, a record that names scopes has nothing. -/
theorem NamesScopes.get?_eq_none {name : Text}
    (notKey : name ≠ key) (notPlace : name ≠ Text.ofString "position") :
    Fields.get? name fields = none := by
  refine Option.eq_none_iff_forall_ne_some.mpr fun value found => ?_
  have member : name ∈ Fields.keys fields :=
    Fields.mem_keys_iff.mpr (Option.isSome_iff_exists.mpr ⟨value, found⟩)
  exact (named.only name member).elim notKey notPlace

theorem NamesScopes.texts?_eq :
    ((Fields.get? key fields).getD .missing).texts? = some scopes := by
  rw [named.scopes_eq]
  exact Data.texts?_eq_some_iff.mpr rfl

theorem NamesScopes.keys_all :
    (Fields.keys fields).all (isEither key "position") = true :=
  List.all_eq_true.mpr fun name member => by simpa [isEither] using named.only name member

end NamesScopes

variable [Callable φ]

/-! ### What was read is in the grammar -/

omit [Callable φ] in
theorem IsScoped.isCondition {fields : Fields (Data φ)} {condition : Condition}
    (isScoped : IsScoped fields condition) : (Data.record fields).IsCondition := by
  cases isScoped with
  | among named => exact .scopeWhitelist named
  | notAmong named => exact .scopeBlacklist named

mutual

/-- Only a condition is read as one. -/
theorem isCondition_of_ofData : ∀ (condition : Condition) {value : Data φ},
    ofData value = .ok condition → value.IsCondition
  | .textBefore _, value, given | .textAfter _, value, given | .inSpan _, value, given
  | .charUnderCursor _, value, given => by
    obtain ⟨fields, rfl, ⟨key, operand, rfl, isOperand⟩ | isScoped⟩ := ofData_cases given
    · cases isOperand <;> constructor <;> assumption
    · exact isScoped.isCondition
  | .scopeAmong _ _, value, given | .scopeNotAmong _ _, value, given => by
    obtain ⟨fields, rfl, ⟨key, operand, rfl, isOperand⟩ | isScoped⟩ := ofData_cases given
    · cases isOperand
    · exact isScoped.isCondition
  | .all conditions, value, given => by
    obtain ⟨fields, rfl, ⟨key, operand, rfl, isOperand⟩ | isScoped⟩ := ofData_cases given
    · cases isOperand with
      | all isList => exact .all (areConditions_of_ofItems conditions isList)
    · cases isScoped
  | .any conditions, value, given => by
    obtain ⟨fields, rfl, ⟨key, operand, rfl, isOperand⟩ | isScoped⟩ := ofData_cases given
    · cases isOperand with
      | any isList => exact .any (areConditions_of_ofItems conditions isList)
    · cases isScoped
  | .not condition, value, given => by
    obtain ⟨fields, rfl, ⟨key, operand, rfl, isOperand⟩ | isScoped⟩ := ofData_cases given
    · cases isOperand with
      | not isPart => exact .not (isCondition_of_ofData condition isPart)
    · cases isScoped

theorem areConditions_of_ofItems : ∀ (conditions : List Condition) {items : List (Data φ)},
    ofItems items = .ok conditions → ∀ item ∈ items, item.IsCondition
  | [], items, given => by
    cases items with
    | nil => exact List.forall_mem_nil _
    | cons item rest =>
      unfold ofItems at given
      split at given
      · cases given
      · split at given <;> cases given
  | condition :: rest, items, given => by
    obtain ⟨item, others, rfl, isFirst, areMore⟩ := exists_of_ofItems given
    exact List.forall_mem_cons.mpr
      ⟨isCondition_of_ofData condition isFirst, areConditions_of_ofItems rest areMore⟩

end

/-! ### What is in the grammar is read -/

theorem exists_ofItems {items : List (Data φ)}
    (each : ∀ item ∈ items, ∃ condition, ofData item = .ok condition) :
    ∃ conditions, ofItems items = .ok conditions := by
  induction items with
  | nil => exact ⟨[], rfl⟩
  | cons item rest ih =>
    obtain ⟨⟨condition, isFirst⟩, others⟩ := List.forall_mem_cons.mp each
    obtain ⟨conditions, areMore⟩ := ih others
    exact ⟨condition :: conditions, by rw [ofItems, isFirst, areMore]⟩

/-- A record that names scopes under a key is read for its scopes. -/
theorem NamesScopes.ofData_eq {fields : Fields (Data φ)} {key : Text} {scopes : List Text}
    {place : Option ScopePlace} (named : NamesScopes fields key scopes place)
    (isKey : key = Text.ofString "scopeWhitelist" ∨ key = Text.ofString "scopeBlacklist") :
    ofData (.record fields) = scopesOfFields (Fields.keys fields)
      ((Fields.get? "scopeWhitelist" fields).getD .missing)
      ((Fields.get? "scopeBlacklist" fields).getD .missing) (Predicate.placeData place) := by
  have absent (name : Text) (notWhite : name ≠ Text.ofString "scopeWhitelist")
      (notBlack : name ≠ Text.ofString "scopeBlacklist") (notPlace : name ≠ Text.ofString "position") :
      Fields.get? name fields = none := by
    obtain rfl | rfl := isKey
    · exact named.get?_eq_none notWhite notPlace
    · exact named.get?_eq_none notBlack notPlace
  have isNamed : (!((Fields.get? "scopeWhitelist" fields).getD .missing).isMissing ||
      !((Fields.get? "scopeBlacklist" fields).getD .missing).isMissing) = true := by
    obtain rfl | rfl := isKey
    · rw [named.scopes_eq]
      rfl
    · rw [named.scopes_eq]
      exact Bool.or_true _
  show ofOperands (operandsOf fields) (Data.record fields).written = _
  unfold ofOperands
  simp only [value_operandsOf, keys_operandsOf, named.place_eq]
  -- Nothing stands where the conditions stand that are looked for before.
  rw [absent "textBefore" (by decide) (by decide) (by decide),
    absent "textAfter" (by decide) (by decide) (by decide),
    absent "inSpan" (by decide) (by decide) (by decide)]
  exact if_pos isNamed

/-- Every condition is read. -/
theorem exists_ofData_of_isCondition {value : Data φ} (isCondition : value.IsCondition) :
    ∃ condition, ofData value = .ok condition := by
  induction isCondition with
  | @textBefore t nonempty =>
    obtain ⟨unit, rest, rfl⟩ := List.exists_cons_of_ne_nil nonempty
    exact ⟨.textBefore (unit :: rest), rfl⟩
  | @textAfter t nonempty =>
    obtain ⟨unit, rest, rfl⟩ := List.exists_cons_of_ne_nil nonempty
    exact ⟨.textAfter (unit :: rest), rfl⟩
  | inSpan kind => exact ⟨.inSpan kind, rfl⟩
  | word => exact ⟨.charUnderCursor true, rfl⟩
  | nonWord => exact ⟨.charUnderCursor false, rfl⟩
  | all each ih =>
    obtain ⟨conditions, areConditions⟩ := exists_ofItems ih
    exact ⟨.all conditions, by rw [ofData_all, areConditions]; rfl⟩
  | any each ih =>
    obtain ⟨conditions, areConditions⟩ := exists_ofItems ih
    exact ⟨.any conditions, by rw [ofData_any, areConditions]; rfl⟩
  | not part ih =>
    obtain ⟨condition, isPart⟩ := ih
    exact ⟨.not condition, by rw [ofData_not part.isMissing_eq, isPart]; rfl⟩
  | @scopeWhitelist fields scopes place named =>
    refine ⟨.scopeAmong scopes place, ?_⟩
    rw [named.ofData_eq (Or.inl rfl), scopesOfFields_placeData, named.texts?_eq, named.keys_all]
    rfl
  | @scopeBlacklist fields scopes place named =>
    refine ⟨.scopeNotAmong scopes place, ?_⟩
    have notWhite : Fields.get? (Text.ofString "scopeWhitelist") fields = none :=
      named.get?_eq_none (by decide) (by decide)
    rw [named.ofData_eq (Or.inr rfl), scopesOfFields_placeData, named.texts?_eq, named.keys_all, notWhite]
    rfl

/-- What can be read as a condition is a condition. -/
theorem exists_ofData_iff {value : Data φ} :
    (∃ condition, ofData value = .ok condition) ↔ value.IsCondition :=
  ⟨fun ⟨condition, given⟩ => isCondition_of_ofData condition given, exists_ofData_of_isCondition⟩

/-! ### What is refused -/

/-- Of several values, the first that is no condition is what reading them fails on. -/
theorem ofItems_eq_error_iff {items : List (Data φ)} {refusal : Refusal} :
    ofItems items = .error refusal ↔ ∃ before item after, items = before ++ item :: after ∧
      (∀ earlier ∈ before, earlier.IsCondition) ∧ ofData item = .error refusal := by
  induction items with
  | nil =>
    constructor
    · intro given
      cases given
    · rintro ⟨before, item, after, same, -⟩
      exact absurd same.symm (List.append_ne_nil_of_right_ne_nil before (List.cons_ne_nil item after))
  | cons first rest ih =>
    constructor
    · intro given
      cases isFirst : ofData first with
      | error cause =>
        rw [ofItems, isFirst] at given
        obtain rfl := Except.error.inj given
        exact ⟨[], first, rest, rfl, List.forall_mem_nil _, isFirst⟩
      | ok condition =>
        rw [ofItems, isFirst] at given
        cases areMore : ofItems rest with
        | error cause =>
          rw [areMore] at given
          obtain rfl := Except.error.inj given
          obtain ⟨before, item, after, rfl, each, refused⟩ := ih.mp areMore
          exact ⟨first :: before, item, after, rfl,
            List.forall_mem_cons.mpr ⟨isCondition_of_ofData condition isFirst, each⟩, refused⟩
        | ok conditions =>
          rw [areMore] at given
          cases given
    · rintro ⟨before, item, after, same, each, refused⟩
      cases before with
      | nil =>
        obtain ⟨rfl, rfl⟩ := List.cons.inj same
        rw [ofItems, refused]
      | cons earlier others =>
        obtain ⟨rfl, rfl⟩ := List.cons.inj same
        obtain ⟨isCondition, areConditions⟩ := List.forall_mem_cons.mp each
        obtain ⟨condition, isFirst⟩ := exists_ofData_of_isCondition isCondition
        rw [ofItems, isFirst, ih.mpr ⟨others, item, after, rfl, areConditions, refused⟩]

omit [Callable φ] in
theorem map_eq_error_iff {α β ε : Type} {result : Except ε α} {f : α → β} {cause : ε} :
    result.map f = .error cause ↔ result = .error cause := by
  cases result with
  | error other =>
    show (Except.error other : Except ε β) = _ ↔ _
    rw [Except.error.injEq, Except.error.injEq]
  | ok value =>
    constructor <;> intro same <;> cases same

/-- **Reading conditions accepts what is one and nothing else.** What was read is handed on as it was
given. A record of all or of any of several values is refused as its first value that is no condition is,
and a negation as what it negates. -/
theorem ofData_grammar (value : Data φ) :
    ((∃ condition, ofData value = .ok condition) ↔ value.IsCondition) ∧
      (∀ condition, ofData value = .ok condition → Data.Same condition.toData value) ∧
      ∀ refusal,
        (∀ items, value = .record [("all", .list items)] ∨ value = .record [("any", .list items)] →
          (ofData value = .error refusal ↔ ∃ before item after, items = before ++ item :: after ∧
            (∀ earlier ∈ before, earlier.IsCondition) ∧ ofData item = .error refusal)) ∧
        ∀ part, value = .record [("not", part)] → part.isMissing = false →
          (ofData value = .error refusal ↔ ofData part = .error refusal) := by
  refine ⟨exists_ofData_iff, fun condition given => (ofData_isFaithful condition given).same,
    fun refusal => ⟨fun items isEither => ?_, fun part isNot present => ?_⟩⟩
  · rw [← ofItems_eq_error_iff]
    obtain rfl | rfl := isEither
    · rw [ofData_all, map_eq_error_iff]
    · rw [ofData_any, map_eq_error_iff]
  · rw [isNot, ofData_not present, map_eq_error_iff]

end Condition

end Pairing
