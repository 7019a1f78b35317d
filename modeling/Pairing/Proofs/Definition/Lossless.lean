/-
**Definitions that were read.**

Definitions are rebuilt field by field when they are read. Where nothing is found wrong with them, nothing is
lost on the way:

* `Entry.IsOf`: a definition says what the data says that it was read from;
* `readField_toData`, `readField_isFaithful`: one field, from data and back;
* `Entry.ofData_isFaithful`: a definition without problems;
* `Definitions.areOf_entriesUnder`: the definitions under a key, in their order.

`Definitions.read_isLossless` puts this together, and says that reading what was read changes nothing.
-/

import Pairing.Proofs.Condition.Reread
import Pairing.Proofs.Definition.Merged
import Pairing.Proofs.RuleStore.Texts

namespace Pairing

variable {φ : Type}

/-! ### One field -/

section Fields

variable {α : Type}

/-- A field that can be read is read from what it is handed on as. -/
theorem readField_toData {toData : α → Data φ} {read : Data φ → Except Problem α} {value : Option α}
    (again : ∀ found, value = some found →
      (toData found).isMissing = false ∧ read (toData found) = .ok found) :
    readField ((value.map toData).getD .missing) read = (value, []) := by
  cases value with
  | none => rfl
  | some found =>
    obtain ⟨present, same⟩ := again found rfl
    rw [Option.map_some, Option.getD_some, readField, present, if_neg Bool.false_ne_true, same]

theorem readField_cases {value : Data φ} {read : Data φ → Except Problem α}
    (clean : (readField value read).2 = []) :
    (value.isMissing = true ∧ (readField value read).1 = none) ∨
      value.isMissing = false ∧
        ∃ found, read value = .ok found ∧ (readField value read).1 = some found := by
  unfold readField at clean ⊢
  by_cases missing : value.isMissing = true
  · rw [if_pos missing]
    exact Or.inl ⟨missing, rfl⟩
  · rw [if_neg missing] at clean ⊢
    refine Or.inr ⟨Bool.eq_false_iff.mpr missing, ?_⟩
    cases outcome : read value with
    | ok found => exact ⟨found, rfl, rfl⟩
    | error problem =>
      rw [outcome] at clean
      cases clean

/-- What stands under a name, unless it is missing. -/
def Data.given? (name : Text) (fields : Fields (Data φ)) : Option (Data φ) :=
  (Fields.get? name fields).filter fun value => !value.isMissing

/-- What was read of a field without problems is the same as what stands in the record. -/
theorem readField_isFaithful {fields : Fields (Data φ)} {name : Text} {toData : α → Data φ}
    {read : Data φ → Except Problem α}
    (clean : (readField ((Data.record fields).field name) read).2 = [])
    (same : ∀ value found, read value = .ok found → Data.Same (toData found) value) :
    Option.Rel Data.Same ((readField ((Data.record fields).field name) read).1.map toData)
      (Data.given? name fields) := by
  have field : (Data.record fields).field name = (Fields.get? name fields).getD .missing := rfl
  rw [field] at clean ⊢
  unfold Data.given?
  cases stands : Fields.get? name fields with
  | none => exact .none
  | some value =>
    rw [stands, Option.getD_some] at clean
    rw [Option.getD_some]
    obtain ⟨missing, nothing⟩ | ⟨present, found, isFound, something⟩ := readField_cases clean
    · rw [nothing]
      simp [Option.filter, missing]
    · rw [something]
      simpa [Option.filter, present] using same value found isFound

end Fields

/-! ### One definition -/

section Entries

variable [Callable φ]

/-- The definition that is read from a record with a closing. -/
def Definition.ofRecord (record : Data φ) (closing : Text) : Definition where
  closing := closing
  opening := (readField (record.field "opening") fun v => orProblem .openingKind v.text?).1
  priority := (readField (record.field "priority") fun v => orProblem .priorityKind v.number?).1
  languages := (readField (record.field "languages") fun v => orProblem .languagesKind v.texts?).1
  cmdline := (readField (record.field "cmdline") fun v => orProblem .cmdlineKind v.bool?).1
  condition := (readField (record.field "when") fun v =>
    (ConditionSource.ofData v).mapError .condition).1
  flags action := (readField (record.field action.name) (Flag.ofData action)).1

/-- The problems that are found in the fields of a record with a closing. -/
def Definition.problemsOfRecord (record : Data φ) : List Problem :=
  (record.keys.filter fun key => !fieldNames.contains key).map Problem.unknownField ++
    (readField (record.field "opening") fun v => orProblem .openingKind v.text?).2 ++
    (readField (record.field "priority") fun v => orProblem .priorityKind v.number?).2 ++
    (readField (record.field "languages") fun v => orProblem .languagesKind v.texts?).2 ++
    (readField (record.field "cmdline") fun v => orProblem .cmdlineKind v.bool?).2 ++
    (readField (record.field "when") fun v => (ConditionSource.ofData v).mapError .condition).2 ++
    Action.all.flatMap fun action => (readField (record.field action.name) (Flag.ofData action)).2

theorem Entry.ofData_record {record : Data φ} {fields : Fields (Data φ)} {closing : Text}
    (isRecord : record = .record fields) (closes : record.field "closing" = .text closing) :
    Entry.ofData record =
      (some (.full (.ofRecord record closing)), Definition.problemsOfRecord record) := by
  subst isRecord
  unfold Entry.ofData
  rw [closes]
  rfl

theorem Entry.ofData_of_unclosed {fields : Fields (Data φ)}
    (unclosed : ((Data.record fields).field "closing").text? = none) :
    (Entry.ofData (.record fields)).2 =
      ((Data.record fields).keys.filter fun key => !Definition.fieldNames.contains key).map
        Problem.unknownField ++ [.noClosing] := by
  unfold Entry.ofData
  cases closes : (Data.record fields).field "closing" with
  | text closing =>
    rw [closes] at unclosed
    cases unclosed
  | _ => rfl

theorem Entry.ofData_cases {value : Data φ} (clean : (Entry.ofData value).2 = []) :
    (∃ t, value = .text t) ∨
      ∃ fields closing, value = .record fields ∧
        (Data.record fields).field "closing" = .text closing ∧
        Definition.problemsOfRecord (.record fields) = [] := by
  cases value with
  | text t => exact Or.inl ⟨t, rfl⟩
  | record fields =>
    cases closes : ((Data.record fields).field "closing").text? with
    | none =>
      rw [ofData_of_unclosed closes] at clean
      exact absurd clean (List.append_ne_nil_of_right_ne_nil _ (List.cons_ne_nil _ _))
    | some closing =>
      have isText : (Data.record fields).field "closing" = .text closing := by
        cases stands : (Data.record fields).field "closing" <;> rw [stands] at closes <;> cases closes
        rfl
      rw [ofData_record rfl isText] at clean
      exact Or.inr ⟨fields, closing, rfl, isText, clean⟩
  | _ => cases clean

/-- No field of a record without problems is unknown, and each can be read. -/
theorem Definition.clean_of_problemsOfRecord {fields : Fields (Data φ)}
    (clean : problemsOfRecord (.record fields) = []) :
    let record : Data φ := .record fields
    (∀ key ∈ Fields.keys fields, key ∈ fieldNames) ∧
      (readField (record.field "opening") fun v => orProblem .openingKind v.text?).2 = [] ∧
      (readField (record.field "priority") fun v => orProblem .priorityKind v.number?).2 = [] ∧
      (readField (record.field "languages") fun v => orProblem .languagesKind v.texts?).2 = [] ∧
      (readField (record.field "cmdline") fun v => orProblem .cmdlineKind v.bool?).2 = [] ∧
      (readField (record.field "when") fun v => (ConditionSource.ofData v).mapError .condition).2 = [] ∧
      ∀ action : Action, (readField (record.field action.name) (Flag.ofData action)).2 = [] := by
  intro record
  unfold problemsOfRecord at clean
  simp only [List.append_eq_nil_iff, List.map_eq_nil_iff, List.filter_eq_nil_iff,
    List.flatMap_eq_nil_iff] at clean
  obtain ⟨⟨⟨⟨⟨⟨known, opening⟩, priority⟩, languages⟩, cmdline⟩, condition⟩, flags⟩ := clean
  refine ⟨fun key member => ?_, opening, priority, languages, cmdline, condition,
    fun action => flags action action.mem_all⟩
  simpa using known key member

/-- A definition says what the data says that it was read from: a text says itself, and a record says what
stands under each name, where a missing value is as good as none. -/
inductive Entry.IsOf : Entry → Data φ → Prop
  | closing (t : Text) : IsOf (.closing t) (.text t)
  | full {definition : Definition} {fields : Fields (Data φ)}
      (each : ∀ name, Option.Rel Data.Same
        ((definition.toData : Data φ).fields?.bind (Fields.get? name)) (Data.given? name fields)) :
      IsOf (.full definition) (.record fields)

omit [Callable φ] in
theorem Data.same_of_orProblem {α : Type} {problem : Problem} {kind : Data φ → Option α}
    {toData : α → Data φ} (isKind : ∀ value found, kind value = some found → value = toData found)
    (value : Data φ) (found : α) (given : orProblem problem (kind value) = .ok found) :
    Data.Same (toData found) value := by
  cases outcome : kind value with
  | none =>
    rw [outcome] at given
    cases given
  | some other =>
    rw [outcome] at given
    obtain rfl := Except.ok.inj given
    rw [← isKind value other outcome]
    exact .refl _

theorem ConditionSource.eq_ok_of_mapError {value : Data φ} {found : ConditionSource}
    (given : (ofData value).mapError Problem.condition = .ok found) : ofData value = .ok found := by
  cases outcome : ofData value with
  | error refusal =>
    rw [outcome] at given
    cases given
  | ok other =>
    rw [outcome] at given
    exact congrArg _ (Except.ok.inj given)

/-- Each optional field of a definition that was read is the same as what stands in the record. -/
theorem Definition.optionalFields_ofRecord {fields : Fields (Data φ)} {closing : Text}
    (clean : problemsOfRecord (.record fields) = []) {name : Text} {value : Option (Data φ)}
    (member : (name, value) ∈ (ofRecord (.record fields) closing).optionalFields) :
    Option.Rel Data.Same value (Data.given? name fields) := by
  obtain ⟨_, opening, priority, languages, cmdline, condition, flags⟩ :=
    clean_of_problemsOfRecord clean
  obtain plain | isFlag := List.mem_append.mp member
  · simp only [List.mem_cons, List.not_mem_nil, or_false] at plain
    obtain same | same | same | same | same := plain <;> obtain ⟨rfl, rfl⟩ := Prod.mk.inj same
    · exact readField_isFaithful opening
        (Data.same_of_orProblem fun value found isText => by cases value <;> cases isText; rfl)
    · exact readField_isFaithful priority
        (Data.same_of_orProblem fun value found isNumber => by cases value <;> cases isNumber; rfl)
    · exact readField_isFaithful languages
        (Data.same_of_orProblem fun value found => Data.texts?_eq_some_iff.mp)
    · exact readField_isFaithful cmdline
        (Data.same_of_orProblem fun value found isBool => by cases value <;> cases isBool; rfl)
    · exact readField_isFaithful condition fun value found given =>
        (ConditionSource.ofData_isFaithful (ConditionSource.eq_ok_of_mapError given)).1
  · obtain ⟨action, _, same⟩ := List.mem_map.mp isFlag
    obtain ⟨rfl, rfl⟩ := Prod.mk.inj same
    exact readField_isFaithful (flags action) fun value found given =>
      (Flag.ofData_isFaithful given).1

theorem Definition.isOf_ofRecord {fields : Fields (Data φ)} {closing : Text}
    (closes : (Data.record fields).field "closing" = .text closing)
    (clean : problemsOfRecord (.record fields) = []) :
    Entry.IsOf (.full (.ofRecord (.record fields) closing)) (Data.record fields) := by
  let definition := ofRecord (.record fields) closing
  obtain ⟨known, _⟩ := clean_of_problemsOfRecord clean
  have distinct : (definition.optionalFields (φ := φ)).map (·.1) |>.Nodup :=
    (List.nodup_cons.mp (definition.names_eq (φ := φ) ▸ fieldNames_nodup)).2
  refine .full fun name => ?_
  show Option.Rel Data.Same ((definition.toData : Data φ).fields?.bind _) _
  rw [toData_eq, Data.fields?, Option.bind_some]
  by_cases isClosing : Text.ofString "closing" = name
  · subst isClosing
    replace closes : (Fields.get? (Text.ofString "closing") fields).getD .missing = .text closing :=
      closes
    rw [Data.given?]
    cases stands : Fields.get? (Text.ofString "closing") fields with
    | none =>
      rw [stands] at closes
      cases closes
    | some value =>
      rw [stands] at closes
      obtain rfl : value = .text closing := closes
      exact .some (.refl _)
  rw [Fields.get?, if_neg isClosing]
  by_cases optional : name ∈ (definition.optionalFields (φ := φ)).map (·.1)
  · obtain ⟨⟨_, value⟩, member, rfl⟩ := List.mem_map.mp optional
    rw [Fields.get?_ofOptions distinct member]
    exact optionalFields_ofRecord clean member
  · have absent : Fields.get? name fields = none := by
      refine Option.eq_none_iff_forall_ne_some.mpr fun value found => ?_
      have isName := known name
        (Fields.mem_keys_iff.mpr (Option.isSome_iff_exists.mpr ⟨value, found⟩))
      rw [← definition.names_eq (φ := φ)] at isName
      exact (List.mem_cons.mp isName).elim (fun same => isClosing same.symm) optional
    rw [Fields.get?_ofOptions_of_notMem optional, Data.given?, absent]
    exact .none

omit [Callable φ] in
theorem Definition.mem_fieldNames_of_toData (definition : Definition) {key : Text}
    (member : key ∈ (definition.toData : Data φ).keys) : key ∈ fieldNames := by
  rw [toData_eq] at member
  rw [← definition.names_eq (φ := φ)]
  obtain rfl | optional := List.mem_cons.mp member
  · exact List.mem_cons_self
  refine List.mem_cons_of_mem _ (Classical.byContradiction fun absent => ?_)
  have stands := Fields.mem_keys_iff.mp optional
  rw [Fields.get?_ofOptions_of_notMem absent] at stands
  cases stands

omit [Callable φ] in
theorem ConditionSource.isMissing_toData (source : ConditionSource) :
    (source.toData : Data φ).isMissing = false := by
  obtain ⟨items, list⟩ | ⟨fields, record⟩ := source.toData_cases (φ := φ)
  · rw [list]
    rfl
  · rw [record]
    rfl

omit [Callable φ] in
theorem Flag.isMissing_toData (flag : Flag) : (flag.toData : Data φ).isMissing = false := by
  cases flag with
  | fixed allowed => rfl
  | given source => exact source.isMissing_toData

/-- A definition whose conditions can be read again is read from what it is handed on as. -/
theorem Entry.ofData_toData {definition : Definition}
    (condition : ∀ source, definition.condition = some source →
      ConditionSource.ofData (source.toData : Data φ) = .ok source)
    (flags : ∀ action flag, definition.flags action = some flag →
      Flag.ofData action (flag.toData : Data φ) = .ok flag) :
    Entry.ofData (definition.toData : Data φ) = (some (.full definition), []) := by
  obtain ⟨closes, opening, priority, languages, cmdline, isCondition, isFlag⟩ :=
    definition.fields_toData (φ := φ)
  obtain ⟨record, itsRecord⟩ : ∃ record : Data φ, definition.toData = record := ⟨_, rfl⟩
  have isRecord := itsRecord.symm.trans definition.toData_eq
  have known (key : Text) (member : key ∈ record.keys) : key ∈ Definition.fieldNames :=
    definition.mem_fieldNames_of_toData (itsRecord ▸ member)
  simp only [itsRecord] at closes opening priority languages cmdline isCondition isFlag
  have readsOpening : (readField (record.field "opening") fun v => orProblem .openingKind v.text?) =
      (definition.opening, []) := by
    rw [opening]
    exact readField_toData fun _ _ => ⟨rfl, rfl⟩
  have readsPriority : (readField (record.field "priority") fun v =>
      orProblem .priorityKind v.number?) = (definition.priority, []) := by
    rw [priority]
    exact readField_toData fun _ _ => ⟨rfl, rfl⟩
  have readsLanguages : (readField (record.field "languages") fun v =>
      orProblem .languagesKind v.texts?) = (definition.languages, []) := by
    rw [languages]
    refine readField_toData fun found _ => ⟨rfl, ?_⟩
    rw [Data.texts?_eq_some_iff.mpr rfl]
    rfl
  have readsCmdline : (readField (record.field "cmdline") fun v =>
      orProblem .cmdlineKind v.bool?) = (definition.cmdline, []) := by
    rw [cmdline]
    exact readField_toData fun _ _ => ⟨rfl, rfl⟩
  have readsCondition : (readField (record.field "when") fun v =>
      (ConditionSource.ofData v).mapError .condition) = (definition.condition, []) := by
    rw [isCondition]
    refine readField_toData fun source isSource => ⟨source.isMissing_toData, ?_⟩
    rw [condition source isSource]
    rfl
  have readsFlag (action : Action) : readField (record.field action.name) (Flag.ofData action) =
      (definition.flags action, []) := by
    rw [isFlag]
    exact readField_toData fun flag given => ⟨flag.isMissing_toData, flags action flag given⟩
  have unknown : (record.keys.filter fun key => !Definition.fieldNames.contains key) = [] := by
    refine List.filter_eq_nil_iff.mpr fun key member => ?_
    simpa using known key member
  rw [itsRecord, ofData_record isRecord closes, Definition.ofRecord, Definition.problemsOfRecord,
    unknown, readsOpening, readsPriority, readsLanguages, readsCmdline, readsCondition]
  simp only [readsFlag]
  rfl

/-- A definition without problems is kept, says what it was read from, and is read from what it is handed on
as. -/
theorem Entry.ofData_isFaithful {value : Data φ} (clean : (Entry.ofData value).2 = []) :
    ∃ entry, (Entry.ofData value).1 = some entry ∧ entry.IsOf value ∧
      ∀ (ψ : Type) [Callable ψ], Entry.ofData (entry.toData : Data ψ) = (some entry, []) := by
  obtain ⟨t, rfl⟩ | ⟨fields, closing, rfl, closes, noProblems⟩ := ofData_cases clean
  · exact ⟨.closing t, rfl, .closing t, fun _ _ => rfl⟩
  obtain ⟨_, _, _, _, _, condition, flags⟩ := Definition.clean_of_problemsOfRecord noProblems
  refine ⟨.full (.ofRecord (.record fields) closing), ?_, Definition.isOf_ofRecord closes noProblems,
    fun ψ _ => Entry.ofData_toData (fun source isSource => ?_) fun action flag isFlag => ?_⟩
  · rw [ofData_record rfl closes]
  · obtain ⟨_, nothing⟩ | ⟨_, found, given, something⟩ := readField_cases condition
    · exact absurd (nothing.symm.trans isSource) (by simp)
    · obtain rfl := Option.some.inj (something.symm.trans isSource)
      exact (ConditionSource.ofData_isFaithful (ConditionSource.eq_ok_of_mapError given)).2 ψ
  · obtain ⟨_, nothing⟩ | ⟨_, found, given, something⟩ := readField_cases (flags action)
    · exact absurd (nothing.symm.trans isFlag) (by simp)
    · obtain rfl := Option.some.inj (something.symm.trans isFlag)
      exact (Flag.ofData_isFaithful given).2 ψ

end Entries

/-! ### All definitions -/

namespace Definitions

section Reading

variable [Callable φ]

theorem readingIssuesUnder_eq_nil {key : Text} {value : Data φ} :
    readingIssuesUnder key value = [] ↔
      ∀ candidate ∈ value.asList, (Entry.ofData candidate).2 = [] :=
  flatten_mapIdx_eq_nil

/-- The definitions under a key without problems are those that the data has there, one by one. -/
theorem areOf_entriesUnder {value : Data φ}
    (clean : ∀ candidate ∈ value.asList, (Entry.ofData candidate).2 = []) :
    List.Forall₂ Entry.IsOf (entriesUnder value) value.asList := by
  unfold entriesUnder
  generalize value.asList = candidates at clean
  induction candidates with
  | nil => exact .nil
  | cons candidate rest ih =>
    obtain ⟨entry, kept, isOf, _⟩ := Entry.ofData_isFaithful (clean candidate List.mem_cons_self)
    rw [List.filterMap_cons, kept]
    exact .cons isOf (ih fun other member => clean other (List.mem_cons_of_mem _ member))

theorem ofData_of_mem_entriesUnder {value : Data φ}
    (clean : ∀ candidate ∈ value.asList, (Entry.ofData candidate).2 = []) {entry : Entry}
    (member : entry ∈ entriesUnder value) (ψ : Type) [Callable ψ] :
    Entry.ofData (entry.toData : Data ψ) = (some entry, []) := by
  obtain ⟨candidate, isCandidate, given⟩ := List.mem_filterMap.mp member
  obtain ⟨other, kept, _, again⟩ := Entry.ofData_isFaithful (clean candidate isCandidate)
  obtain rfl := Option.some.inj (given.symm.trans kept)
  exact again ψ

end Reading

/-- Definitions that can be read again are read from what they are handed on as. -/
theorem readFields_ofChecked {checked : CheckedDefinitions}
    (keys : ∀ field ∈ checked, field.1 ≠ inheritanceKey)
    (again : ∀ field ∈ checked, ∀ entry ∈ field.2,
      Entry.ofData (entry.toData : Data HostFunction) = (some entry, [])) :
    readFields (ofChecked checked) = ⟨checked, [], checkingIssuesOf checked⟩ := by
  have same : checkedOf (ofChecked checked) = checked := by
    have noneLeftOut : ((ofChecked checked).filter fun field => field.1 != inheritanceKey) =
        ofChecked checked := by
      refine List.filter_eq_self.mpr fun field member => ?_
      obtain ⟨declared, isDeclared, rfl⟩ := List.mem_map.mp member
      exact bne_iff_ne.mpr (keys declared isDeclared)
    show ((ofChecked checked).filter fun field => field.1 != inheritanceKey).map _ = checked
    rw [noneLeftOut, ofChecked, List.map_map]
    refine (List.map_congr_left fun field member => ?_).trans (List.map_id checked)
    have kept : entriesUnder (.list (field.2.map Entry.toData) : Data HostFunction) = field.2 := by
      show (field.2.map Entry.toData).filterMap _ = field.2
      rw [List.filterMap_map]
      refine (List.filterMap_congr fun entry inside => ?_).trans List.filterMap_some
      exact congrArg Prod.fst (again field member entry inside)
    exact congrArg (Prod.mk field.1) kept
  have noIssues :
      ((ofChecked checked).flatMap fun field => readingIssuesUnder field.1 field.2) = [] := by
    refine List.flatMap_eq_nil_iff.mpr fun field member => ?_
    obtain ⟨declared, isDeclared, rfl⟩ := List.mem_map.mp member
    refine readingIssuesUnder_eq_nil.mpr fun candidate inside => ?_
    obtain ⟨entry, isEntry, rfl⟩ := List.mem_map.mp inside
    exact congrArg Prod.snd (again declared isDeclared entry isEntry)
  show Reading.mk (checkedOf (ofChecked checked))
    ((ofChecked checked).flatMap fun field => readingIssuesUnder field.1 field.2)
    (checkingIssuesOf (checkedOf (ofChecked checked))) = _
  rw [same, noIssues]

/-- **Reading loses nothing.** Data without issues is a record. Each of its keys but the one for what is
inherited declares as many definitions as stand there, in the same order, and each of them says what the
data says. What was read has no issues either, and reading it changes nothing. -/
theorem read_isLossless [Callable φ] {value : Data φ} (clean : (read value).issues = []) :
    ∃ fields, value = .record fields ∧
      Fields.keys (read value).definitions =
        (Fields.keys fields).filter (fun key => key != inheritanceKey) ∧
      List.Forall₂ (fun declared field =>
          declared.1 = field.1 ∧ List.Forall₂ Entry.IsOf declared.2 field.2.asList)
        (read value).definitions (fields.filter fun field => field.1 != inheritanceKey) ∧
      read (.record (ofChecked (read value).definitions) : Data HostFunction) =
        ⟨(read value).definitions, [], []⟩ := by
  obtain ⟨noReading, noChecking⟩ := List.append_eq_nil_iff.mp clean
  rw [checkingIssues_read] at noChecking
  have single := (isSound_ofChecked noChecking).singleKey
  cases value with
  | record fields =>
    replace noReading : fields.flatMap (fun field => readingIssuesUnder field.1 field.2) = [] := noReading
    have each (field : Text × Data φ) (member : field ∈ fields) :
        ∀ candidate ∈ field.2.asList, (Entry.ofData candidate).2 = [] :=
      readingIssuesUnder_eq_nil.mp (List.flatMap_eq_nil_iff.mp noReading field member)
    let checked := checkedOf fields
    replace noChecking : checkingIssuesOf checked = [] := noChecking
    refine ⟨fields, rfl, ?_, ?_, ?_⟩
    · show (((fields.filter _).map _).map _) = _
      rw [Fields.keys, List.map_map, List.filter_map]
      rfl
    · show List.Forall₂ _ ((fields.filter _).map _) _
      rw [List.forall₂_map_left_iff, List.forall₂_same]
      intro field member
      exact ⟨rfl, areOf_entriesUnder (each field (List.mem_filter.mp member).1)⟩
    · show readFields (ofChecked checked) = ⟨checked, [], []⟩
      rw [readFields_ofChecked, noChecking]
      · intro field member
        obtain ⟨raw, kept, rfl⟩ := List.mem_map.mp member
        exact bne_iff_ne.mp (List.mem_filter.mp kept).2
      · intro field member entry inside
        obtain ⟨raw, kept, rfl⟩ := List.mem_map.mp member
        exact ofData_of_mem_entriesUnder (each raw (List.mem_filter.mp kept).1) inside HostFunction
  | error name message =>
    have isSingle := single "name" _ (List.mem_singleton_self _)
    exact absurd isSingle (by decide +kernel)
  | circular =>
    have isSingle := single "self" _ (List.mem_singleton_self _)
    exact absurd isSingle (by decide +kernel)
  | _ => cases noReading

/-- A missing action and a missing place are left out, and what every record inherits is declared by
nobody. -/
theorem read_isLossless_missingFields :
    let inStrings : Data Empty :=
      .record [("scopeWhitelist", .list [.text "string"]), ("position", .missing)]
    let value : Data Empty := .record [
      ("(", .list [.text ")", .record [("when", .record [("not", inStrings)]), ("open", .missing),
        ("closing", .text ")")]]),
      (inheritanceKey, .text "]")]
    (read value).issues = [] ∧ Fields.keys (read value).definitions = ["("] ∧
      read (.record (ofChecked (read value).definitions) : Data HostFunction) =
        ⟨(read value).definitions, [], []⟩ := by
  intro inStrings value
  have clean : (read value).issues = [] := List.isEmpty_iff.mp (by decide +kernel)
  obtain ⟨fields, isRecord, keys, _, again⟩ := read_isLossless clean
  obtain rfl := Data.record.inj isRecord
  exact ⟨clean, keys.trans (by decide +kernel), again⟩

end Definitions

end Pairing
