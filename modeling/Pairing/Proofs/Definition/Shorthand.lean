/-
**What a bare closing is short for.**

A bare closing stands for the record that names the closing and nothing else. The rules of the two are the
same, but they are not checked in the same way:

* `Data.spelledOut`, `Definitions.spelledOutAt`: bare closings as records, at any places of definitions;
* `Rule.ofEntry_spelledOut`: the rule stays the same;
* `Text.LeadsTo`: a key may stand before a closing as the opening of a record;
* `Definitions.problemsOf_closingRecord`: a record is refused where its key does not lead to its closing,
  and a bare closing is not.

`RuleIndex.compile_spelledOutAt_iff` puts this together, and `RuleIndex.refuses_spelledOut_twoUnitKey`
shows that the difference can be met.
-/

import Pairing.Proofs.Definition.Checked
import Pairing.Proofs.Number.Rounding

namespace Pairing

open Text

/-! ### Bare closings as records -/

/-- The record that names a closing and nothing else. -/
def Data.closingRecord {φ : Type} (closing : Text) : Data φ :=
  .record [("closing", .text closing)]

/-- A definition, as a record if it is a bare closing. -/
def Data.spelledOut {φ : Type} : Data φ → Data φ
  | .text closing => closingRecord closing
  | entry => entry

/-- The definitions under a key, with those at some places spelled out. -/
def Data.spelledOutAt {φ : Type} (places : Nat → Bool) : Data φ → Data φ
  | .list entries =>
    .list (entries.mapIdx fun place entry => if places place then entry.spelledOut else entry)
  | entry => if places 0 then entry.spelledOut else entry

/-- Definitions, with those at some places under their keys spelled out. -/
def Definitions.spelledOutAt (places : Text → Nat → Bool) (definitions : Definitions) : Definitions :=
  definitions.map fun (key, value) => (key, value.spelledOutAt (places key))

theorem Data.asList_spelledOutAt {φ : Type} (places : Nat → Bool) (value : Data φ) :
    (value.spelledOutAt places).asList =
      value.asList.mapIdx fun place entry => if places place then entry.spelledOut else entry := by
  by_cases chosen : places 0 = true
  · cases value <;> simp [spelledOutAt, asList, spelledOut, closingRecord, chosen]
  · cases value <;> simp [spelledOutAt, asList, chosen]

/-! ### The rule of a record -/

/-- The definition that names a closing and nothing else. -/
def Definition.ofClosing (closing : Text) : Definition :=
  ⟨closing, none, none, none, none, none, fun _ => none⟩

theorem Definition.rule_ofClosing (key closing : Text) (order : Nat) :
    (Definition.ofClosing closing).rule key order = .ofClosing key closing order := by
  have worth : (Definition.ofClosing closing).usualPriority key =
      (Number.ofNat key.length).add (.ofNat closing.length) :=
    ((Number.isUnsigned_ofNat _).add (Number.isUnsigned_ofNat _)).add_zero
  unfold Definition.rule Rule.ofClosing
  congr 1

/-- A bare closing and its record have the same rule. -/
theorem Rule.ofEntry_closingRecord (key closing : Text) (order : Nat) :
    Rule.ofEntry key (.closingRecord closing) order = .ok (.ofClosing key closing order) := by
  have record : (Entry.full (.ofClosing closing)).toData =
      (.closingRecord closing : Data HostFunction) := rfl
  rw [← record, Rule.ofEntry_toData]
  exact congrArg _ (Definition.rule_ofClosing key closing order)

theorem Rule.ofEntry_spelledOut (key : Text) (entry : Data HostFunction) (order : Nat) :
    Rule.ofEntry key entry.spelledOut order = Rule.ofEntry key entry order := by
  cases entry with
  | text closing => exact Rule.ofEntry_closingRecord key closing order
  | _ => rfl

/-- The rule of a bare closing applies and allows everything in every context, and asks the host nothing. -/
theorem Rule.run'_ofClosing (key closing : Text) (order : Nat) (ctx : Context) (memo : Memo) :
    (Rule.ofClosing key closing order).applies.run' ctx memo = (.ok true, memo) ∧
      ∀ action, ((Rule.ofClosing key closing order).allows action).run' ctx memo = (.ok true, memo) :=
  ⟨rfl, fun _ => rfl⟩

/-! ### The check of a record -/

/-- A key may stand before a closing as its opening: it is one unit, or is the closing, or contains the
first character of the closing. -/
def Text.LeadsTo (key closing : Text) : Prop :=
  1 < key.length → key ≠ closing → key.contains closing.firstCluster = true

instance (key closing : Text) : Decidable (key.LeadsTo closing) :=
  inferInstanceAs (Decidable (_ → _ → _))

namespace Definitions

theorem problemsOf_bareClosing {key closing : Text} :
    problemsOf key (.text closing) = [] ↔ closing ≠ [] := by
  simp [problemsOf, problemIf_eq_nil]

/-- A record with a closing has a problem if its key does not lead to the closing, and no other. -/
theorem problemsOf_closingRecord_of_ne_nil {key closing : Text} (nonempty : closing ≠ []) :
    problemsOf key (.closingRecord closing) =
      problemIf (!decide (key.LeadsTo closing)) (.foreignClosing key) := by
  obtain ⟨unit, rest, rfl⟩ := List.exists_cons_of_ne_nil nonempty
  have problems : problemsOf key (.closingRecord (unit :: rest)) =
      [] ++ [] ++ problemIf (1 < key.length && key != unit :: rest && !key.contains (firstCluster (unit :: rest)))
        (.foreignClosing key) ++ [] ++ [] ++ [] ++ [] ++ [] := by
    unfold problemsOf
    rfl
  rw [problems]
  simp only [List.append_nil, List.nil_append]
  congr 1
  rw [Bool.eq_iff_iff, Bool.not_eq_true', decide_eq_false_iff_not, Text.LeadsTo]
  simp [and_assoc]

/-- A record is refused for an empty closing, and for a closing that its key does not lead to. -/
theorem problemsOf_closingRecord {key closing : Text} :
    problemsOf key (.closingRecord closing) = [] ↔ closing ≠ [] ∧ key.LeadsTo closing := by
  by_cases empty : closing = []
  · subst empty
    simp [problemsOf, problemIf, Data.closingRecord, Data.field, Data.fields?, Fields.get?, nonEmptyText?]
  · simp [problemsOf_closingRecord_of_ne_nil empty, problemIf_eq_nil, empty]

/-- A definition that is spelled out has the problems that it had, and a key that must lead to its closing. -/
theorem problemsOf_spelledOut {key : Text} {entry : Data HostFunction} :
    problemsOf key entry.spelledOut = [] ↔
      problemsOf key entry = [] ∧ ∀ closing, entry = .text closing → key.LeadsTo closing := by
  cases entry with
  | text closing =>
    show problemsOf key (.closingRecord closing) = [] ↔ _
    simp [problemsOf_closingRecord, problemsOf_bareClosing]
  | _ => simp [Data.spelledOut]

/-! ### The check of the definitions -/

variable {places : Text → Nat → Bool} {definitions : Definitions}

/-- Wherever a bare closing stands at one of the places, its key leads to it. -/
def LeadToClosingsAt (places : Text → Nat → Bool) (definitions : Definitions) : Prop :=
  ∀ key value, (key, value) ∈ definitions → ∀ index closing, places key index = true →
    value.asList[index]? = some (.text closing) → key.LeadsTo closing

/-- Nothing is wrong with a definition of a key. -/
def IsSoundEntry (key : Text) (entry : Data HostFunction) : Prop :=
  entry.isNullish = false ∧ problemsOf key entry = []

/-- Nothing is wrong with definitions if nothing is wrong with any of them. -/
theorem isSound_iff :
    definitions.IsSound ↔ ∀ key value, (key, value) ∈ definitions → key.isSingleCluster = true ∧
      ∀ (index : Nat) entry, value.asList[index]? = some entry → IsSoundEntry key entry := by
  constructor
  · intro sound key value member
    refine ⟨sound.singleKey key value member, fun index entry place => ?_⟩
    have inside := List.mem_of_getElem? place
    have readable := List.all_eq_true.mp (List.all_eq_true.mp sound.readable _ member) _ inside
    exact ⟨by simpa using readable, sound.noProblems key value member entry inside⟩
  · intro each
    have atEach {key : Text} {value : Data HostFunction} (member : (key, value) ∈ definitions)
        {entry : Data HostFunction} (inside : entry ∈ value.asList) : IsSoundEntry key entry := by
      obtain ⟨index, place⟩ := List.mem_iff_getElem?.mp inside
      exact (each key value member).2 index entry place
    refine ⟨?_, fun key value member => (each key value member).1,
      fun key value member entry inside => (atEach member inside).2⟩
    refine List.all_eq_true.mpr fun (key, value) member => List.all_eq_true.mpr fun entry inside => ?_
    simpa using (atEach member inside).1

theorem isSoundEntry_spelledOut {key : Text} {entry : Data HostFunction} :
    IsSoundEntry key entry.spelledOut ↔
      IsSoundEntry key entry ∧ ∀ closing, entry = .text closing → key.LeadsTo closing := by
  have nullish : entry.spelledOut.isNullish = entry.isNullish := by
    cases entry <;> rfl
  rw [IsSoundEntry, nullish, problemsOf_spelledOut, ← and_assoc, IsSoundEntry]

/-- Of the definitions of one key, only those that are spelled out have a new reason to be refused. -/
theorem isSoundEntry_spelledOutAt {key : Text} {chosen : Nat → Bool} {value : Data HostFunction} :
    (∀ (index : Nat) entry, (value.spelledOutAt chosen).asList[index]? = some entry →
        IsSoundEntry key entry) ↔
      (∀ (index : Nat) entry, value.asList[index]? = some entry → IsSoundEntry key entry) ∧
        ∀ index closing, chosen index = true → value.asList[index]? = some (.text closing) →
          key.LeadsTo closing := by
  have atPlace (index : Nat) (entry : Data HostFunction) :
      IsSoundEntry key (if chosen index then entry.spelledOut else entry) ↔
        IsSoundEntry key entry ∧
          (chosen index = true → ∀ closing, entry = .text closing → key.LeadsTo closing) := by
    by_cases isChosen : chosen index = true
    · simp [isChosen, isSoundEntry_spelledOut]
    · simp [isChosen]
  rw [Data.asList_spelledOutAt]
  constructor
  · intro each
    have atEach (index : Nat) (entry : Data HostFunction) (place : value.asList[index]? = some entry) :=
      (atPlace index entry).mp (each index _ (by rw [List.getElem?_mapIdx, place]; rfl))
    exact ⟨fun index entry place => (atEach index entry place).1,
      fun index closing isChosen place => (atEach index _ place).2 isChosen closing rfl⟩
  · rintro ⟨each, leads⟩ index entry place
    rw [List.getElem?_mapIdx] at place
    obtain ⟨before, found, rfl⟩ := Option.map_eq_some_iff.mp place
    refine (atPlace index before).mpr ⟨each index before found, ?_⟩
    rintro isChosen closing rfl
    exact leads index closing isChosen found

/-- What holds under each key of the spelled out definitions. -/
theorem forall_mem_spelledOutAt {P : Text → Data HostFunction → Prop} :
    (∀ key value, (key, value) ∈ definitions.spelledOutAt places → P key value) ↔
      ∀ key value, (key, value) ∈ definitions → P key (value.spelledOutAt (places key)) := by
  simp only [spelledOutAt, List.mem_map, Prod.mk.injEq, Prod.exists]
  constructor
  · intro all key value member
    exact all key _ ⟨key, value, member, rfl, rfl⟩
  · rintro all key value ⟨key, before, member, rfl, rfl⟩
    exact all key before member

theorem isSound_spelledOutAt :
    (definitions.spelledOutAt places).IsSound ↔
      definitions.IsSound ∧ definitions.LeadToClosingsAt places := by
  rw [isSound_iff, forall_mem_spelledOutAt, isSound_iff]
  constructor
  · intro each
    refine ⟨fun key value member => ?_, fun key value member => ?_⟩
    · exact ⟨(each key value member).1, (isSoundEntry_spelledOutAt.mp (each key value member).2).1⟩
    · exact (isSoundEntry_spelledOutAt.mp (each key value member).2).2
  · rintro ⟨each, leads⟩ key value member
    obtain ⟨single, sound⟩ := each key value member
    exact ⟨single, isSoundEntry_spelledOutAt.mpr ⟨sound, leads key value member⟩⟩

/-! ### The rules of the definitions -/

/-- Definitions have the rules of the records that they are short for. -/
theorem rules_eq_map_spelledOut (definitions : Definitions) :
    definitions.rules =
      ((definitions.entries.map fun (key, entry) => (key, entry.spelledOut)).mapIdx
        fun order (key, entry) => Rule.ofEntry key entry order).mapM id := by
  simp only [rules, List.mapIdx_eq_zipIdx_map, List.zipIdx_map, List.map_map,
    Function.comp_def, Prod.map_fst, Prod.map_snd, id_eq, Rule.ofEntry_spelledOut]

theorem map_spelledOut_asList (chosen : Nat → Bool) (value : Data HostFunction) :
    (value.spelledOutAt chosen).asList.map Data.spelledOut = value.asList.map Data.spelledOut := by
  have again (entry : Data HostFunction) : entry.spelledOut.spelledOut = entry.spelledOut := by
    cases entry <;> rfl
  rw [Data.asList_spelledOutAt]
  refine List.ext_getElem (by simp) fun index _ _ => ?_
  simp only [List.getElem_map, List.getElem_mapIdx]
  split
  · exact again _
  · rfl

/-- Wherever definitions are spelled out, they are short for the same records. -/
theorem map_spelledOut_entries (places : Text → Nat → Bool) (definitions : Definitions) :
    ((definitions.spelledOutAt places).entries.map fun (key, entry) => (key, entry.spelledOut)) =
      definitions.entries.map fun (key, entry) => (key, entry.spelledOut) := by
  induction definitions with
  | nil => rfl
  | cons first rest ih =>
    obtain ⟨key, value⟩ := first
    have records := congrArg (List.map fun record => (key.composed, record))
      (map_spelledOut_asList (places key) value)
    simp only [List.map_map, Function.comp_def] at records
    simp only [spelledOutAt, Definitions.entries, List.map_cons, List.flatMap_cons, List.map_append,
      List.map_map, Function.comp_def] at ih records ⊢
    rw [records, ih]

theorem rules_spelledOutAt (places : Text → Nat → Bool) (definitions : Definitions) :
    (definitions.spelledOutAt places).rules = definitions.rules := by
  rw [rules_eq_map_spelledOut, map_spelledOut_entries, ← rules_eq_map_spelledOut]

end Definitions

/-! ### The index of the definitions -/

/-- **What a bare closing is short for.** Definitions whose bare closings are spelled out are accepted exactly if
they were accepted and the key of each such closing leads to it. Then they have the same index. The rule of
a closing is that of its record; it applies and allows everything everywhere, and asks the host nothing. -/
theorem RuleIndex.compile_spelledOutAt_iff (places : Text → Nat → Bool) (definitions : Definitions) :
    ((definitions.spelledOutAt places).issues? = some [] ↔
        definitions.issues? = some [] ∧ definitions.LeadToClosingsAt places) ∧
      (definitions.issues? = some [] → definitions.LeadToClosingsAt places →
        compile (definitions.spelledOutAt places) = compile definitions) ∧
      ∀ key closing order, ∃ rule, Rule.ofEntry key (.text closing) order = .ok rule ∧
        Rule.ofEntry key (.closingRecord closing) order = .ok rule ∧
        ∀ ctx memo, rule.applies.run' ctx memo = (.ok true, memo) ∧
          ∀ action, (rule.allows action).run' ctx memo = (.ok true, memo) := by
  have accepted : (definitions.spelledOutAt places).issues? = some [] ↔
      definitions.issues? = some [] ∧ definitions.LeadToClosingsAt places := by
    simp only [Definitions.issues?_eq_nil_iff, Definitions.isSound_spelledOutAt]
  refine ⟨accepted, fun none leads => ?_, fun key closing order => ?_⟩
  · simp only [compile, accepted.mpr ⟨none, leads⟩, none, Definitions.rules_spelledOutAt]
  · exact ⟨.ofClosing key closing order, Rule.ofEntry_text key closing order,
      Rule.ofEntry_closingRecord key closing order, Rule.run'_ofClosing key closing order⟩

/-- A key of two units that its closing starts with leads to it, as a key of one unit leads to any closing. -/
theorem RuleIndex.compile_spelledOutAt_thumb :
    let definitions := Definitions.ofClosings [("(", ")"), ("👍", "👍!")]
    definitions.issues? = some [] ∧ definitions.LeadToClosingsAt (fun _ _ => true) ∧
      compile (definitions.spelledOutAt fun _ _ => true) = compile definitions := by
  intro definitions
  have sound : definitions.IsSound := by
    refine (compile_eq_ok_iff.mp (compile_ofClosings ?_)).1
    intro key closing member
    rcases List.mem_cons.mp member with same | last
    · obtain ⟨rfl, rfl⟩ := Prod.mk.inj same
      decide +kernel
    · obtain ⟨rfl, rfl⟩ := Prod.mk.inj (List.mem_singleton.mp last)
      decide +kernel
  have leads : definitions.LeadToClosingsAt fun _ _ => true := by
    intro key value member index closing chosen place
    have closes := List.mem_of_getElem? place
    rcases List.mem_cons.mp member with same | last
    · obtain ⟨rfl, rfl⟩ := Prod.mk.inj same
      obtain rfl := Data.text.inj (List.mem_singleton.mp closes)
      decide +kernel
    · obtain ⟨rfl, rfl⟩ := Prod.mk.inj (List.mem_singleton.mp last)
      obtain rfl := Data.text.inj (List.mem_singleton.mp closes)
      decide +kernel
  have none := Definitions.issues?_eq_nil_iff.mpr sound
  exact ⟨none, leads, (compile_spelledOutAt_iff (fun _ _ => true) definitions).2.1 none leads⟩

/-- The pair of two thumbs is accepted as a bare closing, and refused once it is spelled out. -/
theorem RuleIndex.refuses_spelledOut_twoUnitKey :
    let definitions := Definitions.ofClosings [("👍", "👎")]
    let record : Definitions := [(Text.ofString "👍", .closingRecord "👎")]
    compile definitions = .ok (.ofClosings [("👍", "👎")]) ∧
      definitions.spelledOutAt (fun _ _ => true) = record ∧
      compile record = .error (.issues [⟨"👍", 0, .foreignClosing "👍"⟩]) := by
  intro definitions record
  refine ⟨compile_ofClosings ?_, rfl, ?_⟩
  · intro key closing member
    obtain ⟨rfl, rfl⟩ := Prod.mk.inj (List.mem_singleton.mp member)
    decide +kernel
  · have foreign : Definitions.problemsOf "👍" (.closingRecord "👎") = [.foreignClosing "👍"] := by
      rw [Definitions.problemsOf_closingRecord_of_ne_nil (by decide)]
      exact if_pos (by decide +kernel)
    have single : Text.isSingleCluster "👍" = true := by
      decide +kernel
    have issues : record.issues? = some [⟨"👍", 0, .foreignClosing "👍"⟩] := by
      have under : Definitions.issuesUnder "👍" (.closingRecord "👎") =
          [⟨"👍", 0, .foreignClosing "👍"⟩] := by
        have only : (Data.closingRecord "👎").asList = [(.closingRecord "👎" : Data HostFunction)] := rfl
        simp only [Definitions.issuesUnder, single, only, List.mapIdx_cons, List.mapIdx_nil, foreign]
        rfl
      have readable : record.areReadable = true := rfl
      simp only [Definitions.issues?, if_pos readable]
      rw [List.flatMap_cons, under]
      rfl
    simp only [compile, issues]

end Pairing
