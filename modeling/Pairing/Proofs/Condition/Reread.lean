/-
**Conditions that were read.**

A condition is read out of a record, and handed on as data. Reading loses nothing but a place that is
missing, and what is handed on can be read again:

* `Data.Same`: values that are the same, up to the order of fields and to missing places;
* `Condition.IsOperand`, `Condition.IsScoped`: what a condition is read out of;
* `Condition.ofData_cases`: every condition that was read comes from one of these;
* `Condition.ofData_isFaithful`: by induction over conditions, with `Condition.ofItems_areFaithful` for
  several of them;
* `ConditionSource.ofData_isFaithful`, `Flag.ofData_isFaithful`: the same of one condition or several, and
  of what a definition says about an action.
-/

import Mathlib.Data.List.Forall2
import Pairing.Definition.Reading
import Pairing.Proofs.Condition.Compiled
import Pairing.Proofs.Definition.Compiled
import Pairing.Proofs.Fields.Distinct
import Pairing.Proofs.Settings.Stored

namespace Pairing

/-- What stands under a name. A missing value under `position` is as good as none. -/
def Data.standing? {φ : Type} (name : Text) (fields : Fields (Data φ)) : Option (Data φ) :=
  (Fields.get? name fields).filter fun value =>
    !(name == Text.ofString "position" && value.isMissing)

/-- Two values are the same: lists item by item, and records by what stands under each name. -/
inductive Data.Same {φ : Type} : Data φ → Data φ → Prop
  | refl (value : Data φ) : Same value value
  | list {items others : List (Data φ)} (each : List.Forall₂ Same items others) :
      Same (.list items) (.list others)
  | record {fields others : Fields (Data φ)}
      (each : ∀ name, Option.Rel Same (Fields.get? name fields) (standing? name others)) :
      Same (.record fields) (.record others)

theorem Data.standing?_of_ne {φ : Type} {name : Text} (different : name ≠ Text.ofString "position")
    (fields : Fields (Data φ)) : standing? name fields = Fields.get? name fields := by
  unfold standing?
  cases Fields.get? name fields with
  | none => rfl
  | some value => simp [Option.filter, different]

theorem Data.Same.single {φ : Type} {key : Text} {value other : Data φ}
    (different : key ≠ Text.ofString "position") (same : Same value other) :
    Same (.record [(key, value)]) (.record [(key, other)]) := by
  refine .record fun name => ?_
  by_cases here : key = name
  · subst here
    have stands (found : Data φ) : Fields.get? key [(key, found)] = some found := if_pos rfl
    rw [standing?_of_ne different, stands, stands]
    exact .some same
  · have absent (found : Data φ) : Fields.get? name [(key, found)] = none := if_neg here
    rw [standing?, absent, absent]
    exact .none

theorem Data.texts?_eq_some_iff {φ : Type} {value : Data φ} {texts : List Text} :
    value.texts? = some texts ↔ value = Condition.textsData texts := by
  constructor
  · intro found
    cases value with
    | list items =>
      refine congrArg Data.list ?_
      replace found : items.mapM Data.text? = some texts := found
      induction items generalizing texts with
      | nil =>
        obtain rfl := Option.some.inj found
        rfl
      | cons item rest ih =>
        rw [List.mapM_cons] at found
        obtain ⟨first, isText, found⟩ := Option.bind_eq_some_iff.mp found
        obtain ⟨others, areTexts, found⟩ := Option.bind_eq_some_iff.mp found
        obtain rfl := Option.some.inj found
        rw [List.map_cons, ← ih areTexts]
        cases item <;> cases isText
        rfl
    | _ => cases found
  · rintro rfl
    exact Data.mapM_text? texts

namespace Condition

variable {φ : Type} [Callable φ]

/-! ### Inside of a record -/

/-- What a condition is read out of where its record has one field. -/
inductive IsOperand : Text → Data φ → Condition → Prop
  | textBefore {t : Text} (nonempty : t ≠ []) : IsOperand "textBefore" (.text t) (.textBefore t)
  | textAfter {t : Text} (nonempty : t ≠ []) : IsOperand "textAfter" (.text t) (.textAfter t)
  | inSpan (kind : Text) : IsOperand "inSpan" (.text kind) (.inSpan kind)
  | word : IsOperand "charUnderCursor" (.text "word") (.charUnderCursor true)
  | nonWord : IsOperand "charUnderCursor" (.text "nonWord") (.charUnderCursor false)
  | all {items : List (Data φ)} {conditions : List Condition} (given : ofItems items = .ok conditions) :
      IsOperand "all" (.list items) (.all conditions)
  | any {items : List (Data φ)} {conditions : List Condition} (given : ofItems items = .ok conditions) :
      IsOperand "any" (.list items) (.any conditions)
  | not {value : Data φ} {condition : Condition} (given : ofData value = .ok condition) :
      IsOperand "not" value (.not condition)

/-- The fields name scopes under a key, maybe a place, and nothing else. -/
structure NamesScopes (fields : Fields (Data φ)) (key : Text) (scopes : List Text)
    (place : Option ScopePlace) : Prop where
  scopes_eq : Fields.get? key fields = some (textsData scopes)
  place_eq : (Fields.get? "position" fields).getD .missing = Predicate.placeData place
  only : ∀ name ∈ Fields.keys fields, name = key ∨ name = Text.ofString "position"

/-- What a condition on scopes is read out of. -/
inductive IsScoped (fields : Fields (Data φ)) : Condition → Prop
  | among {scopes : List Text} {place : Option ScopePlace}
      (named : NamesScopes fields "scopeWhitelist" scopes place) :
      IsScoped fields (.scopeAmong scopes place)
  | notAmong {scopes : List Text} {place : Option ScopePlace}
      (named : NamesScopes fields "scopeBlacklist" scopes place) :
      IsScoped fields (.scopeNotAmong scopes place)

section Single

variable {key : Text} {value : Data φ} {written : Data.Written} {condition : Condition}

/-- The text on either side of the cursor is compared with one that is not empty. -/
theorem isOperand_besideCursor (beside : key = Text.ofString "textBefore" ∨ key = Text.ofString "textAfter")
    (given : ofOperands (operandsOf [(key, value)]) written = .ok condition) :
    IsOperand key value condition := by
  rcases beside with rfl | rfl
  all_goals
    cases value with
    | text t =>
      cases t with
      | nil => cases given
      | cons unit rest =>
        obtain rfl := Except.ok.inj given
        constructor
        exact List.cons_ne_nil unit rest
    | _ => cases given

theorem isOperand_inSpan
    (given : ofOperands (operandsOf [("inSpan", value)]) written = .ok condition) :
    IsOperand "inSpan" value condition := by
  cases value with
  | text kind =>
    obtain rfl := Except.ok.inj given
    exact .inSpan kind
  | _ => cases given

theorem isOperand_charUnderCursor
    (given : ofOperands (operandsOf [("charUnderCursor", value)]) written = .ok condition) :
    IsOperand "charUnderCursor" value condition := by
  cases value with
  | text t =>
    replace given : (if some t == some (Text.ofString "word") then .ok (.charUnderCursor true)
        else if some t == some (Text.ofString "nonWord") then .ok (.charUnderCursor false)
        else .error (.unknown written) : Except Refusal Condition) = .ok condition := given
    split at given
    · next isWord =>
      obtain rfl := Except.ok.inj given
      obtain rfl : t = Text.ofString "word" := Option.some.inj (beq_iff_eq.mp isWord)
      exact .word
    split at given
    · next isNonWord =>
      obtain rfl := Except.ok.inj given
      obtain rfl : t = Text.ofString "nonWord" := Option.some.inj (beq_iff_eq.mp isNonWord)
      exact .nonWord
    · cases given
  | _ => cases given

theorem isOperand_all (given : ofOperands (operandsOf [("all", value)]) written = .ok condition) :
    IsOperand "all" value condition := by
  cases value with
  | list items =>
    obtain ⟨conditions, parts, rfl⟩ := exists_of_map_eq_ok (f := Condition.all) given
    exact .all parts
  | _ => cases given

theorem isOperand_any (given : ofOperands (operandsOf [("any", value)]) written = .ok condition) :
    IsOperand "any" value condition := by
  cases value with
  | list items =>
    obtain ⟨conditions, parts, rfl⟩ := exists_of_map_eq_ok (f := Condition.any) given
    exact .any parts
  | _ => cases given

theorem isOperand_not (given : ofOperands (operandsOf [("not", value)]) written = .ok condition) :
    IsOperand "not" value condition := by
  replace given : (if value.isMissing then .error (.unknown written)
      else (ofData value).map .not : Except Refusal Condition) = .ok condition := given
  split at given
  · cases given
  · obtain ⟨part, isPart, rfl⟩ := exists_of_map_eq_ok given
    exact .not isPart

/-- A condition with one field is read out of it, unless the field names scopes. -/
theorem isOperand_of_single (notWhite : key ≠ Text.ofString "scopeWhitelist")
    (notBlack : key ≠ Text.ofString "scopeBlacklist")
    (given : ofOperands (operandsOf [(key, value)]) written = .ok condition) :
    IsOperand key value condition := by
  by_cases beside : key = Text.ofString "textBefore" ∨ key = Text.ofString "textAfter"
  · exact isOperand_besideCursor beside given
  obtain ⟨before, after⟩ := not_or.mp beside
  by_cases span : key = Text.ofString "inSpan"
  · subst span
    exact isOperand_inSpan given
  by_cases unit : key = Text.ofString "charUnderCursor"
  · subst unit
    exact isOperand_charUnderCursor given
  by_cases every : key = Text.ofString "all"
  · subst every
    exact isOperand_all given
  by_cases either : key = Text.ofString "any"
  · subst either
    exact isOperand_any given
  by_cases negated : key = Text.ofString "not"
  · subst negated
    exact isOperand_not given
  -- Nothing is read out of a field with another name.
  simp [ofOperands, operandsOf, Fields.get?, Data.isMissing, Data.text?, *] at given

end Single

omit [Callable φ] in
/-- A record of no field or of several ones is a condition on scopes, if it is one at all. -/
theorem scopesOfFields_of_several {operands : Fields (Operand φ)} {written : Data.Written}
    {condition : Condition} (several : operands.length ≠ 1)
    (given : ofOperands operands written = .ok condition) :
    scopesOfFields (Fields.keys operands)
      (((Fields.get? "scopeWhitelist" operands).map (·.value)).getD .missing)
      (((Fields.get? "scopeBlacklist" operands).map (·.value)).getD .missing)
      (((Fields.get? "position" operands).map (·.value)).getD .missing) = .ok condition := by
  unfold ofOperands at given
  simp only [beq_eq_false_iff_ne.mpr several, Bool.false_and] at given
  -- All other conditions have one field.
  split at given
  · contradiction
  · contradiction
  · contradiction
  split at given
  · exact given
  rw [if_neg Bool.false_ne_true, if_neg Bool.false_ne_true] at given
  split at given
  · contradiction
  · contradiction
  · contradiction
  · cases given

omit [Callable φ] in
theorem exists_place_of_scopesOfFields {keys : List Text} {whitelist blacklist position : Data φ}
    {condition : Condition}
    (given : scopesOfFields keys whitelist blacklist position = .ok condition) :
    ∃ place, position = Predicate.placeData place := by
  cases position with
  | missing => exact ⟨none, rfl⟩
  | text name =>
    unfold scopesOfFields at given
    dsimp only at given
    split at given
    · next place found =>
      have same : placeName place = name := by simpa using List.find?_some found
      exact ⟨some place, by rw [← same]; rfl⟩
    · cases given
  | _ => cases given

omit [Callable φ] in
/-- The condition on scopes that names a place which there is. -/
theorem scopesOfFields_placeData (keys : List Text) (whitelist blacklist : Data φ)
    (place : Option ScopePlace) :
    scopesOfFields keys whitelist blacklist (Predicate.placeData place) =
      if whitelist.texts?.isSome && keys.all (isEither "scopeWhitelist" "position") then
        .ok (.scopeAmong (whitelist.texts?.getD []) place)
      else if blacklist.texts?.isSome && keys.all (isEither "scopeBlacklist" "position") then
        .ok (.scopeNotAmong (blacklist.texts?.getD []) place)
      else .error .notTexts := by
  have named (p : ScopePlace) : placeOfName? (placeName p) = some p := by cases p <;> rfl
  unfold scopesOfFields
  cases place <;> cases whitelist.texts? <;> cases blacklist.texts? <;>
    simp [Predicate.placeData, named, pure, Except.pure, bind, Except.bind, throw, throwThe,
      MonadExceptOf.throw]

omit [Callable φ] in
theorem isScoped_of_scopesOfFields {fields : Fields (Data φ)} {condition : Condition}
    (given : scopesOfFields (Fields.keys fields)
      ((Fields.get? "scopeWhitelist" fields).getD .missing)
      ((Fields.get? "scopeBlacklist" fields).getD .missing)
      ((Fields.get? "position" fields).getD .missing) = .ok condition) :
    IsScoped fields condition := by
  obtain ⟨place, placed⟩ := exists_place_of_scopesOfFields given
  have names {key : Text}
      (found : (((Fields.get? key fields).getD .missing).texts?.isSome &&
        (Fields.keys fields).all (isEither key "position")) = true) :
      NamesScopes fields key ((((Fields.get? key fields).getD .missing).texts?).getD []) place := by
    obtain ⟨areTexts, only⟩ := Bool.and_eq_true_iff.mp found
    obtain ⟨scopes, isTexts⟩ := Option.isSome_iff_exists.mp areTexts
    have scopes_eq := Data.texts?_eq_some_iff.mp isTexts
    rw [isTexts, Option.getD_some]
    refine ⟨?_, placed, fun name member => ?_⟩
    · cases stands : Fields.get? key fields with
      | none =>
        rw [stands] at scopes_eq
        cases scopes_eq
      | some value =>
        rw [stands] at scopes_eq
        exact congrArg some scopes_eq
    · have either := List.all_eq_true.mp only name member
      simpa [isEither] using either
  rw [placed, scopesOfFields_placeData] at given
  split at given
  · next isWhite =>
    obtain rfl := Except.ok.inj given
    exact .among (names isWhite)
  split at given
  · next isBlack =>
    obtain rfl := Except.ok.inj given
    exact .notAmong (names isBlack)
  · cases given

theorem keys_operandsOf (fields : Fields (Data φ)) :
    Fields.keys (operandsOf fields) = Fields.keys fields := by
  induction fields with
  | nil => rfl
  | cons field rest ih => exact congrArg (field.1 :: ·) ih

theorem value_operandsOf (name : Text) (fields : Fields (Data φ)) :
    ((Fields.get? name (operandsOf fields)).map (·.value)).getD .missing =
      (Fields.get? name fields).getD .missing := by
  rw [operandsOf_get?]
  cases Fields.get? name fields <;> rfl

/-- A record whose only field names scopes is a condition on scopes, if it is one at all. -/
theorem scopesOfFields_of_single {key : Text} {value : Data φ} {written : Data.Written}
    {condition : Condition}
    (scopes : key = Text.ofString "scopeWhitelist" ∨ key = Text.ofString "scopeBlacklist")
    (given : ofOperands (operandsOf [(key, value)]) written = .ok condition) :
    scopesOfFields [key] ((Fields.get? "scopeWhitelist" [(key, value)]).getD .missing)
      ((Fields.get? "scopeBlacklist" [(key, value)]).getD .missing) .missing = .ok condition := by
  obtain rfl | rfl := scopes
  · cases value with
    | missing => cases given
    | _ => exact given
  · cases value with
    | missing => cases given
    | _ => exact given

/-- What a condition that was read was read out of. -/
theorem ofData_cases {value : Data φ} {condition : Condition} (given : ofData value = .ok condition) :
    ∃ fields, value = .record fields ∧
      ((∃ key operand, fields = [(key, operand)] ∧ IsOperand key operand condition) ∨
        IsScoped fields condition) := by
  cases value with
  | record fields =>
    refine ⟨fields, rfl, ?_⟩
    replace given : ofOperands (operandsOf fields) (Data.record fields).written = .ok condition := given
    by_cases several : (operandsOf fields).length = 1
    · have length : fields.length = 1 := by
        rw [← several]
        simpa [Fields.keys] using (congrArg List.length (keys_operandsOf fields)).symm
      obtain ⟨⟨key, operand⟩, rfl⟩ := List.length_eq_one_iff.mp length
      by_cases onScopes : key = Text.ofString "scopeWhitelist" ∨ key = Text.ofString "scopeBlacklist"
      · refine Or.inr (isScoped_of_scopesOfFields ?_)
        have noPlace : Fields.get? (Text.ofString "position") [(key, operand)] = none := by
          obtain rfl | rfl := onScopes <;> rfl
        rw [noPlace]
        exact scopesOfFields_of_single onScopes given
      · obtain ⟨notWhite, notBlack⟩ := not_or.mp onScopes
        exact Or.inl ⟨key, operand, rfl, isOperand_of_single notWhite notBlack given⟩
    · refine Or.inr (isScoped_of_scopesOfFields ?_)
      have onScopes := scopesOfFields_of_several several given
      rwa [keys_operandsOf, value_operandsOf, value_operandsOf, value_operandsOf] at onScopes
  | _ => cases given

/-! ### What is handed on -/

omit [Callable φ] in
theorem rel_standing?_place {fields : Fields (Data φ)} {place : Option ScopePlace}
    (placed : (Fields.get? "position" fields).getD .missing = Predicate.placeData place) :
    Option.Rel Data.Same (place.map fun p => Data.text (placeName p))
      (Data.standing? "position" fields) := by
  rw [Data.standing?]
  cases found : Fields.get? (Text.ofString "position") fields with
  | none =>
    rw [found] at placed
    cases place with
    | none => exact .none
    | some p => cases placed
  | some value =>
    rw [found] at placed
    obtain rfl : value = Predicate.placeData place := placed
    cases place with
    | none => exact .none
    | some p => exact .some (.refl _)

omit [Callable φ] in
theorem same_scopeFields {fields : Fields (Data φ)} {key : Text} {scopes : List Text}
    {place : Option ScopePlace} (different : key ≠ Text.ofString "position")
    (named : NamesScopes fields key scopes place) :
    Data.Same (.record (scopeFields key scopes place)) (.record fields) := by
  refine .record fun name => ?_
  by_cases isKey : key = name
  · subst isKey
    have handedOn : Fields.get? key (scopeFields key scopes place) = some (textsData scopes : Data φ) :=
      if_pos rfl
    rw [handedOn, Data.standing?_of_ne different, named.scopes_eq]
    exact .some (.refl _)
  by_cases isPlace : name = Text.ofString "position"
  · subst isPlace
    have handedOn : Fields.get? (Text.ofString "position") (scopeFields key scopes place) =
        (place.map fun p => .text (placeName p) : Option (Data φ)) := by
      cases place <;> exact if_neg isKey
    rw [handedOn]
    exact rel_standing?_place named.place_eq
  · have absent : Fields.get? name fields = none := by
      refine Option.eq_none_iff_forall_ne_some.mpr fun value found => ?_
      have member : name ∈ Fields.keys fields :=
        Fields.mem_keys_iff.mpr (Option.isSome_iff_exists.mpr ⟨value, found⟩)
      exact (named.only name member).elim (fun same => isKey same.symm) isPlace
    have notHandedOn : Fields.get? name (scopeFields key scopes place) = (none : Option (Data φ)) := by
      cases place <;> simp [scopeFields, Fields.get?, isKey, Ne.symm isPlace]
    rw [Data.standing?_of_ne isPlace, absent, notHandedOn]
    exact .none

/-- What a condition is handed on as is the same as what it was read out of, and can be read again. -/
structure IsFaithful (condition : Condition) (value : Data φ) : Prop where
  same : Data.Same condition.toData value
  again : ∀ (ψ : Type) [Callable ψ], ofData (condition.toData : Data ψ) = .ok condition

theorem ofData_all (items : List (Data φ)) :
    ofData (.record [("all", .list items)]) = (ofItems items).map .all := rfl

theorem ofData_any (items : List (Data φ)) :
    ofData (.record [("any", .list items)]) = (ofItems items).map .any := rfl

theorem ofData_not {value : Data φ} (present : value.isMissing = false) :
    ofData (.record [("not", value)]) = (ofData value).map .not := by
  show (if value.isMissing then _ else _) = _
  rw [present, if_neg Bool.false_ne_true]

omit [Callable φ] in
theorem IsScoped.isFaithful {fields : Fields (Data φ)} {condition : Condition}
    (isScoped : IsScoped fields condition) : condition.IsFaithful (Data.record fields) := by
  cases isScoped with
  | @among scopes place named =>
    refine ⟨same_scopeFields (by decide) named, fun ψ _ => ?_⟩
    have onScopes : ofData ((Condition.scopeAmong scopes place).toData : Data ψ) =
        scopesOfFields (Fields.keys (scopeFields "scopeWhitelist" scopes place : Fields (Data ψ)))
          (textsData scopes : Data ψ) .missing (Predicate.placeData place) := by
      cases place <;> rfl
    rw [onScopes, scopesOfFields_placeData, Data.texts?_eq_some_iff.mpr rfl]
    cases place <;> rfl
  | @notAmong scopes place named =>
    refine ⟨same_scopeFields (by decide) named, fun ψ _ => ?_⟩
    have onScopes : ofData ((Condition.scopeNotAmong scopes place).toData : Data ψ) =
        scopesOfFields (Fields.keys (scopeFields "scopeBlacklist" scopes place : Fields (Data ψ)))
          (.missing : Data ψ) (textsData scopes) (Predicate.placeData place) := by
      cases place <;> rfl
    rw [onScopes, scopesOfFields_placeData, Data.texts?_eq_some_iff.mpr rfl]
    cases place <;> rfl

/-- What some conditions are handed on as is the same as what they were read out of, and can be read
again. -/
structure AreFaithful (conditions : List Condition) (items : List (Data φ)) : Prop where
  same : List.Forall₂ Data.Same (listData conditions) items
  again : ∀ (ψ : Type) [Callable ψ], ofItems (listData conditions : List (Data ψ)) = .ok conditions

theorem exists_of_ofItems {items : List (Data φ)} {condition : Condition} {rest : List Condition}
    (given : ofItems items = .ok (condition :: rest)) :
    ∃ item others, items = item :: others ∧ ofData item = .ok condition ∧ ofItems others = .ok rest := by
  cases items with
  | nil => cases given
  | cons item others =>
    unfold ofItems at given
    split at given
    · cases given
    · next first isFirst =>
      split at given
      · cases given
      · next more areMore =>
        obtain ⟨rfl, rfl⟩ := List.cons.inj (Except.ok.inj given)
        exact ⟨item, others, rfl, isFirst, areMore⟩

mutual

/-- A condition that was read is faithful to what it was read out of. -/
theorem ofData_isFaithful : ∀ (condition : Condition) {value : Data φ},
    ofData value = .ok condition → condition.IsFaithful value
  | .textBefore t, value, given => by
    obtain ⟨fields, rfl, ⟨key, operand, rfl, isOperand⟩ | isScoped⟩ := ofData_cases given
    · cases isOperand with
      | textBefore nonempty =>
        obtain ⟨unit, rest, rfl⟩ := List.exists_cons_of_ne_nil nonempty
        exact ⟨.refl _, fun _ _ => rfl⟩
    · cases isScoped
  | .textAfter t, value, given => by
    obtain ⟨fields, rfl, ⟨key, operand, rfl, isOperand⟩ | isScoped⟩ := ofData_cases given
    · cases isOperand with
      | textAfter nonempty =>
        obtain ⟨unit, rest, rfl⟩ := List.exists_cons_of_ne_nil nonempty
        exact ⟨.refl _, fun _ _ => rfl⟩
    · cases isScoped
  | .inSpan kind, value, given => by
    obtain ⟨fields, rfl, ⟨key, operand, rfl, isOperand⟩ | isScoped⟩ := ofData_cases given
    · cases isOperand
      exact ⟨.refl _, fun _ _ => rfl⟩
    · cases isScoped
  | .scopeAmong _ _, value, given | .scopeNotAmong _ _, value, given => by
    obtain ⟨fields, rfl, ⟨key, operand, rfl, isOperand⟩ | isScoped⟩ := ofData_cases given
    · cases isOperand
    · exact isScoped.isFaithful
  | .charUnderCursor _, value, given => by
    obtain ⟨fields, rfl, ⟨key, operand, rfl, isOperand⟩ | isScoped⟩ := ofData_cases given
    · cases isOperand <;> exact ⟨.refl _, fun _ _ => rfl⟩
    · cases isScoped
  | .all conditions, value, given => by
    obtain ⟨fields, rfl, ⟨key, operand, rfl, isOperand⟩ | isScoped⟩ := ofData_cases given
    · cases isOperand with
      | all isList =>
        obtain ⟨same, again⟩ := ofItems_areFaithful conditions isList
        refine ⟨.single (by decide) (.list same), fun ψ _ => ?_⟩
        rw [toData, ofData_all, again ψ]
        rfl
    · cases isScoped
  | .any conditions, value, given => by
    obtain ⟨fields, rfl, ⟨key, operand, rfl, isOperand⟩ | isScoped⟩ := ofData_cases given
    · cases isOperand with
      | any isList =>
        obtain ⟨same, again⟩ := ofItems_areFaithful conditions isList
        refine ⟨.single (by decide) (.list same), fun ψ _ => ?_⟩
        rw [toData, ofData_any, again ψ]
        rfl
    · cases isScoped
  | .not condition, value, given => by
    obtain ⟨fields, rfl, ⟨key, operand, rfl, isOperand⟩ | isScoped⟩ := ofData_cases given
    · cases isOperand with
      | not isPart =>
        obtain ⟨same, again⟩ := ofData_isFaithful condition isPart
        refine ⟨.single (by decide) same, fun ψ _ => ?_⟩
        have present : (condition.toData : Data ψ).isMissing = false := by cases condition <;> rfl
        rw [toData, ofData_not present, again ψ]
        rfl
    · cases isScoped

theorem ofItems_areFaithful : ∀ (conditions : List Condition) {items : List (Data φ)},
    ofItems items = .ok conditions → AreFaithful conditions items
  | [], items, given => by
    cases items with
    | nil => exact ⟨.nil, fun _ _ => rfl⟩
    | cons item rest =>
      unfold ofItems at given
      split at given
      · cases given
      · split at given <;> cases given
  | condition :: rest, items, given => by
    obtain ⟨item, others, rfl, isFirst, areMore⟩ := exists_of_ofItems given
    obtain ⟨same, again⟩ := ofData_isFaithful condition isFirst
    obtain ⟨sameRest, againRest⟩ := ofItems_areFaithful rest areMore
    refine ⟨.cons same sameRest, fun ψ _ => ?_⟩
    rw [listData, ofItems, again ψ, againRest ψ]

end

end Condition

/-! ### Sources and flags -/

section Sources

variable {φ : Type} [Callable φ]

/-- One condition or several that were read are faithful to what they were read out of. -/
theorem ConditionSource.ofData_isFaithful {value : Data φ} {source : ConditionSource}
    (given : ofData value = .ok source) :
    Data.Same source.toData value ∧
      ∀ (ψ : Type) [Callable ψ], ofData (source.toData : Data ψ) = .ok source := by
  have ofOne (isOne : (Condition.ofData value).map .one = .ok source) :
      Data.Same source.toData value ∧
        ∀ (ψ : Type) [Callable ψ], ofData (source.toData : Data ψ) = .ok source := by
    obtain ⟨condition, isCondition, rfl⟩ := exists_of_map_eq_ok isOne
    obtain ⟨same, again⟩ := Condition.ofData_isFaithful condition isCondition
    refine ⟨same, fun ψ _ => ?_⟩
    have one : ofData (condition.toData : Data ψ) =
        (Condition.ofData (condition.toData : Data ψ)).map .one := by
      cases condition <;> rfl
    rw [toData, one, again ψ]
    rfl
  cases value with
  | list items =>
    obtain ⟨conditions, areConditions, rfl⟩ := exists_of_map_eq_ok (f := ConditionSource.each) given
    obtain ⟨same, again⟩ := Condition.ofItems_areFaithful conditions areConditions
    refine ⟨.list same, fun ψ _ => ?_⟩
    show (Condition.ofItems (Condition.listData conditions : List (Data ψ))).map ConditionSource.each = _
    rw [again ψ]
    rfl
  | _ => exact ofOne given

theorem Flag.ofData_isFaithful {action : Action} {value : Data φ} {flag : Flag}
    (given : ofData action value = .ok flag) :
    Data.Same flag.toData value ∧
      ∀ (ψ : Type) [Callable ψ], ofData action (flag.toData : Data ψ) = .ok flag := by
  have ofSource (isSource : ((ConditionSource.ofData value).map Flag.given).mapError (Problem.flag action) =
      .ok flag) : Data.Same flag.toData value ∧
        ∀ (ψ : Type) [Callable ψ], ofData action (flag.toData : Data ψ) = .ok flag := by
    cases read : ConditionSource.ofData value with
    | error refusal =>
      rw [read] at isSource
      cases isSource
    | ok source =>
      rw [read] at isSource
      obtain rfl := Except.ok.inj isSource
      obtain ⟨same, again⟩ := ConditionSource.ofData_isFaithful read
      refine ⟨same, fun ψ _ => ?_⟩
      have ofSource : ofData action (source.toData : Data ψ) =
          ((ConditionSource.ofData (source.toData : Data ψ)).map .given).mapError (.flag action) := by
        obtain ⟨items, list⟩ | ⟨fields, record⟩ := source.toData_cases (φ := ψ)
        · rw [list]
          rfl
        · rw [record]
          rfl
      rw [toData, ofSource, again ψ]
      rfl
  cases value with
  | bool allowed =>
    obtain rfl := Except.ok.inj given
    exact ⟨.refl _, fun _ _ => rfl⟩
  | _ => exact ofSource given

end Sources

end Pairing
