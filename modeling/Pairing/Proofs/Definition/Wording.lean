/-
**The wording of issues.**

An unknown condition is reported together with its record, and there are values that cannot be written
down. None of them comes out of a configuration text:

* `Data.exists_written_ofJson`: each value of a configuration text can be written;
* `Refusal.IsWorded`, `Condition.isWorded_ofData`: whatever such a value is refused for as a condition
  has a wording;
* `Entry.areWorded_ofData`, `Reading.cause?_read_ofJson`: and so has each issue of the definitions in it.
-/

import Pairing.Definition.Reading
import Pairing.Proofs.Fields.Distinct

namespace Pairing

variable {φ : Type}

/-! ### Values of a configuration text -/

namespace Data

theorem get?_ofJsonFields (key : Text) (fields : List (Text × Json)) :
    Fields.get? key (ofJsonFields fields : Fields (Data φ)) = (Fields.get? key fields).map ofJson := by
  induction fields with
  | nil => rfl
  | cons field rest ih =>
    obtain ⟨k, value⟩ := field
    rw [ofJsonFields, Fields.get?, Fields.get?, ih]
    split <;> rfl

/-- A field of a value of a configuration text is left out, or holds another such value. -/
theorem field_ofJson_cases (name : Text) (json : Json) :
    ((ofJson json : Data φ).field name).isMissing = true ∨
      ∃ value : Json, (ofJson json : Data φ).field name = ofJson value := by
  cases json with
  | record fields =>
    have field : (ofJson (.record fields) : Data φ).field name =
        ((Fields.get? name fields).map ofJson).getD .missing := by
      rw [← get?_ofJsonFields]
      rfl
    rw [field]
    cases Fields.get? name fields with
    | none => exact Or.inl rfl
    | some value => exact Or.inr ⟨value, rfl⟩
  | _ => exact Or.inl rfl

theorem exists_of_mem_asList_ofJson {json : Json} {item : Data φ}
    (member : item ∈ (ofJson json : Data φ).asList) : ∃ value : Json, item = ofJson value := by
  cases json with
  | list items =>
    induction items with
    | nil => simp [ofJson, ofJsonItems, asList] at member
    | cons first rest ih =>
      obtain rfl | later := List.mem_cons.mp member
      · exact ⟨first, rfl⟩
      · exact ih later
  | _ => exact ⟨_, List.mem_singleton.mp member⟩

theorem exists_of_mem_ofJsonFields {fields : List (Text × Json)} {field : Text × Data φ}
    (member : field ∈ (ofJsonFields fields : Fields (Data φ))) :
    ∃ value : Json, field.2 = ofJson value := by
  induction fields with
  | nil => simp [ofJsonFields] at member
  | cons first rest ih =>
    obtain rfl | later := List.mem_cons.mp member
    · exact ⟨first.2, rfl⟩
    · exact ih later

/-- A configuration text holds no functions. -/
theorem ownFunction?_ofJsonFields (name : Text) (fields : List (Text × Json)) :
    ownFunction? name (ofJsonFields fields : Fields (Data φ)) = none := by
  unfold ownFunction?
  rw [get?_ofJsonFields]
  cases Fields.get? name fields with
  | none => rfl
  | some value => cases value <;> rfl

mutual

/-- Each value of a configuration text can be written. -/
theorem exists_written_ofJson (ofCall : φ → Text → Written) (key : Text) : ∀ json : Json,
    ∃ form, writtenBy ofCall key (ofJson json) = .as form
  | .null => ⟨_, rfl⟩
  | .bool true => ⟨_, rfl⟩
  | .bool false => ⟨_, rfl⟩
  | .number _ => ⟨_, rfl⟩
  | .text _ => ⟨_, rfl⟩
  | .list items => by
    obtain ⟨parts, written⟩ := exists_writtenItems_ofJson ofCall 0 items
    exact ⟨_, by rw [ofJson, writtenBy, written, writtenParts]⟩
  | .record fields => by
    obtain ⟨parts, written⟩ := exists_writtenFields_ofJson ofCall fields
    refine ⟨enclosed 0x7B 0x7D parts, ?_⟩
    rw [ofJson, writtenBy, ownFunction?_ofJsonFields]
    exact congrArg (writtenParts 0x7B 0x7D) written

/-- So can the items of a list in it. -/
theorem exists_writtenItems_ofJson (ofCall : φ → Text → Written) (index : Nat) :
    ∀ items : List Json, ∃ parts, writtenItems ofCall index (ofJsonItems items) = .ok parts
  | [] => ⟨_, rfl⟩
  | item :: rest => by
    obtain ⟨form, written⟩ := exists_written_ofJson ofCall (Text.ofNat index) item
    obtain ⟨parts, others⟩ := exists_writtenItems_ofJson ofCall (index + 1) rest
    exact ⟨form :: parts, by rw [ofJsonItems, writtenItems, written, others]; rfl⟩

/-- So can the fields of a record in it. -/
theorem exists_writtenFields_ofJson (ofCall : φ → Text → Written) :
    ∀ fields : List (Text × Json), ∃ parts, writtenFields ofCall (ofJsonFields fields) = .ok parts
  | [] => ⟨_, rfl⟩
  | (key, value) :: rest => by
    obtain ⟨form, written⟩ := exists_written_ofJson ofCall key value
    obtain ⟨parts, others⟩ := exists_writtenFields_ofJson ofCall rest
    exact ⟨_, by rw [ofJsonFields, writtenFields, written, others]; rfl⟩

end

end Data

/-! ### Refused conditions -/

/-- Whatever is refused has a wording. -/
def Refusal.IsWorded {α : Type} (result : Except Refusal α) : Prop :=
  ∀ refusal, result = .error refusal → refusal.cause? = none

namespace Refusal

variable {α β : Type}

theorem isWorded_ok (value : α) : IsWorded (.ok value) :=
  nofun

theorem isWorded_error {refusal : Refusal} (worded : refusal.cause? = none) :
    IsWorded (.error refusal : Except Refusal α) := by
  rintro _ ⟨⟩
  exact worded

theorem IsWorded.map {result : Except Refusal α} (worded : IsWorded result) (f : α → β) :
    IsWorded (result.map f) := by
  cases result with
  | ok value => exact isWorded_ok (f value)
  | error refusal => exact isWorded_error (worded refusal rfl)

end Refusal

namespace Condition

open Refusal

theorem isWorded_scopesOfFields (keys : List Text) (whitelist blacklist place : Data φ) :
    IsWorded (scopesOfFields keys whitelist blacklist place) := by
  unfold scopesOfFields
  repeat' split
  all_goals first | exact isWorded_ok _ | exact isWorded_error rfl

/-- A record is refused for what has a wording, if it can be written and each of its parts is refused for
what has one. -/
theorem isWorded_ofOperands {operands : Fields (Operand φ)} {written : Data.Written}
    (writable : ∃ form, written = .as form)
    (parts : ∀ key operand, Fields.get? key operands = some operand →
      IsWorded operand.condition ∧ ∀ results, operand.conditions = some results → IsWorded results) :
    IsWorded (ofOperands operands written) := by
  obtain ⟨form, rfl⟩ := writable
  have ofList {key : Text} {results : Except Refusal (List Condition)}
      (found : (Fields.get? key operands).bind (·.conditions) = some results) : IsWorded results := by
    obtain ⟨operand, place, given⟩ := Option.bind_eq_some_iff.mp found
    exact (parts key operand place).2 results given
  unfold ofOperands
  dsimp only
  split
  · exact isWorded_ok _
  · exact isWorded_ok _
  · exact isWorded_ok _
  split
  · exact isWorded_scopesOfFields _ _ _ _
  split
  · exact isWorded_ok _
  split
  · exact isWorded_ok _
  split
  · next found _ => exact (ofList found).map _
  · next found _ => exact (ofList found).map _
  · next place _ =>
    split
    · exact isWorded_error rfl
    · exact ((parts _ _ place).1).map _
  · exact isWorded_error rfl

variable [Callable φ]

mutual

/-- Whatever a value of a configuration text is refused for as a condition has a wording. -/
theorem isWorded_ofData : ∀ json : Json, IsWorded (ofData (Data.ofJson json : Data φ))
  | .null | .bool _ | .number _ | .text _ | .list _ => isWorded_error rfl
  | .record fields => by
    refine isWorded_ofOperands (Data.exists_written_ofJson _ [] (.record fields)) ?_
    intro key operand found
    rw [operandsOf_get?, Data.get?_ofJsonFields] at found
    cases place : Fields.get? key fields with
    | none => simp [place] at found
    | some value =>
      rw [place] at found
      obtain rfl := Option.some.inj found
      exact isWorded_fields fields key value (Fields.mem_of_get? place)

/-- So has what it is refused for as a list of conditions. -/
theorem isWorded_ofListData : ∀ (json : Json) (results : Except Refusal (List Condition)),
    ofListData (Data.ofJson json : Data φ) = some results → IsWorded results
  | .list items, results, found => Option.some.inj found ▸ isWorded_ofItems items
  | .null, _, found | .bool _, _, found | .number _, _, found | .text _, _, found
  | .record _, _, found => by simp [Data.ofJson, ofListData] at found

/-- So has what the items of a list are refused for. -/
theorem isWorded_ofItems : ∀ items : List Json,
    IsWorded (ofItems (Data.ofJsonItems items : List (Data φ)))
  | [] => isWorded_ok []
  | item :: rest => by
    have first := isWorded_ofData item
    have others := isWorded_ofItems rest
    rw [Data.ofJsonItems, ofItems]
    cases refused : ofData (Data.ofJson item : Data φ) with
    | error refusal => exact isWorded_error (first refusal refused)
    | ok condition =>
      cases refused : ofItems (Data.ofJsonItems rest : List (Data φ)) with
      | error refusal => exact isWorded_error (others refusal refused)
      | ok conditions => exact isWorded_ok _

/-- So has what the fields of a record are refused for. -/
theorem isWorded_fields : ∀ (fields : List (Text × Json)) (key : Text) (value : Json),
    (key, value) ∈ fields →
      IsWorded (ofData (Data.ofJson value : Data φ)) ∧
        ∀ results, ofListData (Data.ofJson value : Data φ) = some results → IsWorded results
  | [], _, _, member => by simp at member
  | (k, first) :: rest, key, value, member => by
    obtain same | later := List.mem_cons.mp member
    · obtain ⟨rfl, rfl⟩ := Prod.mk.inj same
      exact ⟨isWorded_ofData value, isWorded_ofListData value⟩
    · exact isWorded_fields rest key value later

end

end Condition

theorem ConditionSource.isWorded_ofData [Callable φ] (json : Json) :
    Refusal.IsWorded (ofData (Data.ofJson json : Data φ)) := by
  have single := (Condition.isWorded_ofData (φ := φ) json).map ConditionSource.one
  cases json with
  | list items => exact (Condition.isWorded_ofItems items).map ConditionSource.each
  | _ => exact single

/-! ### Issues -/

/-- Each problem has a wording. -/
def Problem.AreWorded (problems : List Problem) : Prop :=
  ∀ problem ∈ problems, problem.cause? = none

namespace Problem

theorem AreWorded.append {first rest : List Problem} (worded : AreWorded first)
    (others : AreWorded rest) : AreWorded (first ++ rest) := by
  intro problem member
  exact (List.mem_append.mp member).elim (worded problem) (others problem)

theorem cause?_of_mapError {α : Type} {result : Except Refusal α} (worded : Refusal.IsWorded result)
    {toProblem : Refusal → Problem} (same : ∀ refusal, (toProblem refusal).cause? = refusal.cause?)
    (problem : Problem) (refused : result.mapError toProblem = .error problem) :
    problem.cause? = none := by
  cases result with
  | ok value => cases refused
  | error refusal =>
    obtain rfl := Except.error.inj refused
    rw [same, worded refusal rfl]

theorem cause?_of_orProblem {α : Type} {expected problem : Problem} {value : Option α}
    (worded : expected.cause? = none) (refused : orProblem expected value = .error problem) :
    problem.cause? = none := by
  cases value with
  | none => exact Except.error.inj refused ▸ worded
  | some value => simp [orProblem] at refused

/-- A field of a configuration text is read with a wording for each problem. -/
theorem areWorded_readField {α : Type} (json : Json) (name : Text) {read : Data φ → Except Problem α}
    (worded : ∀ (value : Json) (problem : Problem),
      read (Data.ofJson value) = .error problem → problem.cause? = none) :
    AreWorded (readField ((Data.ofJson json).field name) read).2 := by
  unfold readField
  split
  · simp [AreWorded]
  · next present =>
    obtain ⟨value, holds⟩ := (Data.field_ofJson_cases name json).resolve_left present
    rw [holds]
    split
    · simp [AreWorded]
    · next problem refused => simpa [AreWorded] using worded value problem refused

end Problem

theorem Flag.cause?_of_ofData [Callable φ] (action : Action) (json : Json) (problem : Problem)
    (refused : Flag.ofData action (Data.ofJson json : Data φ) = .error problem) :
    problem.cause? = none := by
  have worded := (ConditionSource.isWorded_ofData (φ := φ) json).map Flag.given
  cases json with
  | bool allowed => simp [Data.ofJson, Flag.ofData] at refused
  | _ => exact Problem.cause?_of_mapError worded (fun _ => rfl) problem refused

/-- Each problem of a definition of a configuration text has a wording. -/
theorem Entry.areWorded_ofData [Callable φ] (json : Json) :
    Problem.AreWorded (Entry.ofData (Data.ofJson json : Data φ)).2 := by
  unfold Entry.ofData
  split
  · simp [Problem.AreWorded]
  split
  · simp [Problem.AreWorded, Problem.cause?, Problem.refusal?]
  dsimp only
  have unknown (keys : List Text) : Problem.AreWorded (keys.map .unknownField) := by
    intro problem member
    obtain ⟨key, -, rfl⟩ := List.mem_map.mp member
    rfl
  split
  · refine ((((((unknown _).append ?_).append ?_).append ?_).append ?_).append ?_).append ?_
    case refine_5 =>
      exact Problem.areWorded_readField json _ fun value =>
        Problem.cause?_of_mapError (ConditionSource.isWorded_ofData value) fun _ => rfl
    case refine_6 =>
      intro problem member
      obtain ⟨action, -, inside⟩ := List.mem_flatMap.mp member
      exact Problem.areWorded_readField json _ (Flag.cause?_of_ofData action) problem inside
    all_goals exact Problem.areWorded_readField json _ fun _ _ => Problem.cause?_of_orProblem rfl
  · exact (unknown _).append (by simp [Problem.AreWorded, Problem.cause?, Problem.refusal?])

/-- Nothing is thrown in the place of the issues of a configuration text: each of them has a wording. -/
theorem Reading.cause?_read_ofJson [Callable φ] (json : Json) :
    (Definitions.read (Data.ofJson json : Data φ)).cause? = none := by
  refine List.findSome?_eq_none_iff.mpr fun issue member => ?_
  unfold Definitions.read at member
  split at member
  · next fields found =>
    obtain ⟨⟨key, value⟩, inside, reported⟩ := List.mem_flatMap.mp member
    obtain ⟨candidateIssues, place, reported⟩ := List.mem_flatten.mp reported
    obtain ⟨index, insideList, rfl⟩ := List.mem_mapIdx.mp place
    obtain ⟨problem, isProblem, rfl⟩ := List.mem_map.mp reported
    obtain ⟨field, rfl⟩ : ∃ field : Json, value = Data.ofJson field := by
      cases json with
      | record jsonFields =>
        obtain rfl := Option.some.inj found
        exact Data.exists_of_mem_ofJsonFields inside
      | _ => simp [Data.ofJson, Data.fields?] at found
    obtain ⟨candidate, isCandidate⟩ := Data.exists_of_mem_asList_ofJson (List.getElem_mem insideList)
    rw [isCandidate] at isProblem
    exact Entry.areWorded_ofData candidate problem isProblem
  · obtain rfl := List.mem_singleton.mp member
    rfl

end Pairing
