/-
**Fields with distinct keys.**

A record is filled by assignments one after the other. Where no key is assigned twice, it holds exactly
what was assigned, whatever its property order:

* `Fields.mem_keys_iff`, `Fields.mem_of_get?`: a key stands in a record with what is found under it;
* `Fields.get?_of_mem`: what stands there with a key is found under it;
* `Fields.mem_of_mem_merge`: assignments add nothing but what is assigned;
* `Fields.mem_merge`: the fields after assignments to distinct keys that are not there;
* `Fields.mem_ofList`: the same from no fields at all;
* `Fields.ofOptions`, `Fields.get?_ofOptions`: a record of fields that may be left out.
-/

import Pairing.Fields

namespace Pairing.Fields

variable {α : Type}

/-! ### Looking up fields -/

theorem mem_keys_iff {key : Text} {fields : Fields α} :
    key ∈ keys fields ↔ (get? key fields).isSome = true := by
  induction fields with
  | nil => simp [keys, get?]
  | cons field rest ih =>
    obtain ⟨k, value⟩ := field
    simp only [keys, List.map_cons, List.mem_cons] at ih ⊢
    unfold get?
    split
    · next same => simp [same]
    · next different => rw [← ih, or_iff_right (Ne.symm different)]

theorem mem_of_get? {key : Text} {value : α} {fields : Fields α}
    (found : get? key fields = some value) : (key, value) ∈ fields := by
  induction fields with
  | nil => simp [get?] at found
  | cons field rest ih =>
    obtain ⟨k, first⟩ := field
    unfold get? at found
    split at found
    · next same =>
      obtain rfl := Option.some.inj found
      exact same ▸ List.mem_cons_self
    · exact List.mem_cons_of_mem _ (ih found)

theorem get?_of_mem {fields : Fields α} (distinct : (keys fields).Nodup) {key : Text} {value : α}
    (member : (key, value) ∈ fields) : get? key fields = some value := by
  induction fields with
  | nil => simp at member
  | cons field rest ih =>
    obtain ⟨firstNew, restDistinct⟩ := List.nodup_cons.mp distinct
    unfold get?
    obtain rfl | later := List.mem_cons.mp member
    · rw [if_pos rfl]
    · have different : field.1 ≠ key := by
        rintro rfl
        exact firstNew (List.mem_map_of_mem (f := (·.1)) later)
      rw [if_neg different]
      exact ih restDistinct later

theorem get?_eq_none_iff {key : Text} {fields : Fields α} : get? key fields = none ↔ key ∉ keys fields := by
  rw [mem_keys_iff, Bool.not_eq_true, Option.isSome_eq_false_iff, Option.isNone_iff_eq_none]

/-! ### Assignments -/

theorem insertNew_perm (key : Text) (value : α) (fields : Fields α) :
    (insertNew key value fields).Perm ((key, value) :: fields) := by
  induction fields with
  | nil => exact List.Perm.refl _
  | cons field rest ih =>
    unfold insertNew
    split
    · exact List.Perm.refl _
    · exact (ih.cons field).trans (List.Perm.swap _ _ rest)

theorem mem_insertNew {key : Text} {value : α} {fields : Fields α} {field : Text × α} :
    field ∈ insertNew key value fields ↔ field = (key, value) ∨ field ∈ fields :=
  (insertNew_perm key value fields).mem_iff.trans List.mem_cons

theorem eq_or_mem_of_mem_replace {key : Text} {value : α} {fields : Fields α} {field : Text × α}
    (member : field ∈ replace key value fields) : field = (key, value) ∨ field ∈ fields := by
  induction fields with
  | nil => simp [replace] at member
  | cons first rest ih =>
    obtain ⟨k, v⟩ := first
    unfold replace at member
    split at member
    · next same =>
      rw [same] at member
      exact (List.mem_cons.mp member).imp_right (List.mem_cons_of_mem _)
    · obtain rfl | later := List.mem_cons.mp member
      · exact Or.inr List.mem_cons_self
      · exact (ih later).imp_right (List.mem_cons_of_mem _)

/-- Assignments add nothing but what is assigned. -/
theorem mem_of_mem_merge {fields assignments : Fields α} {field : Text × α}
    (member : field ∈ merge fields assignments) : field ∈ fields ∨ field ∈ assignments := by
  induction assignments generalizing fields with
  | nil => exact Or.inl member
  | cons first rest ih =>
    obtain ⟨key, value⟩ := first
    have afterFirst : field ∈ merge (set key value fields) rest := member
    obtain assigned | later := ih afterFirst
    · have known : field = (key, value) ∨ field ∈ fields := by
        unfold set at assigned
        split at assigned
        · exact eq_or_mem_of_mem_replace assigned
        · exact mem_insertNew.mp assigned
      obtain rfl | before := known
      · exact Or.inr List.mem_cons_self
      · exact Or.inl before
    · exact Or.inr (List.mem_cons_of_mem _ later)

/-- Assignments to distinct keys that are not there add exactly what is assigned. -/
theorem mem_merge {fields assignments : Fields α} (distinct : (assignments.map (·.1)).Nodup)
    (absent : ∀ key ∈ assignments.map (·.1), get? key fields = none) {field : Text × α} :
    field ∈ merge fields assignments ↔ field ∈ fields ∨ field ∈ assignments := by
  induction assignments generalizing fields with
  | nil => simp [merge]
  | cons first rest ih =>
    obtain ⟨key, value⟩ := first
    obtain ⟨keyNew, restDistinct⟩ := List.nodup_cons.mp distinct
    have keyAbsent : get? key fields = none := absent key List.mem_cons_self
    have inserted : set key value fields = insertNew key value fields := by simp [set, keyAbsent]
    have restAbsent : ∀ other ∈ rest.map (·.1), get? other (insertNew key value fields) = none := by
      intro other member
      have different : key ≠ other := fun same => keyNew (by rw [same]; exact member)
      rw [get?_insertNew_of_ne different]
      exact absent other (List.mem_cons_of_mem _ member)
    show field ∈ merge (set key value fields) rest ↔ _
    rw [inserted, ih restDistinct restAbsent, mem_insertNew, List.mem_cons, or_assoc, or_left_comm]

/-- A record with distinct keys holds what was assigned. -/
theorem mem_ofList {assignments : List (Text × α)} (distinct : (assignments.map (·.1)).Nodup)
    {field : Text × α} : field ∈ ofList assignments ↔ field ∈ assignments := by
  show field ∈ merge [] assignments ↔ _
  rw [mem_merge distinct fun _ _ => rfl]
  simp

/-! ### Fields that may be left out -/

theorem get?_append (key : Text) (first rest : Fields α) :
    get? key (first ++ rest) = (get? key first).or (get? key rest) := by
  induction first with
  | nil => rfl
  | cons field others ih =>
    rw [List.cons_append, get?, get?, ih]
    split <;> rfl

/-- The fields that are not left out. -/
def ofOptions (fields : List (Text × Option α)) : Fields α :=
  fields.flatMap fun field => (field.2.map (field.1, ·)).toList

theorem get?_ofOptions_cons (name first : Text) (value : Option α) (rest : List (Text × Option α)) :
    get? name (ofOptions ((first, value) :: rest)) =
      if first = name then value.or (get? name (ofOptions rest)) else get? name (ofOptions rest) := by
  rw [ofOptions, List.flatMap_cons, get?_append]
  cases value with
  | none => simp [get?, ofOptions]
  | some v => by_cases same : first = name <;> simp [get?, ofOptions, same]

theorem get?_ofOptions_of_notMem {name : Text} {fields : List (Text × Option α)}
    (absent : name ∉ fields.map (·.1)) : get? name (ofOptions fields) = none := by
  induction fields with
  | nil => rfl
  | cons field rest ih =>
    obtain ⟨different, later⟩ := not_or.mp (mt List.mem_cons.mpr absent)
    rw [get?_ofOptions_cons, if_neg (Ne.symm different), ih later]

/-- Under each of several names stands what was given for it, or nothing. -/
theorem get?_ofOptions {name : Text} {value : Option α} {fields : List (Text × Option α)}
    (distinct : (fields.map (·.1)).Nodup) (member : (name, value) ∈ fields) :
    get? name (ofOptions fields) = value := by
  induction fields with
  | nil => simp at member
  | cons field rest ih =>
    obtain ⟨firstNew, restDistinct⟩ := List.nodup_cons.mp distinct
    rw [get?_ofOptions_cons]
    obtain rfl | later := List.mem_cons.mp member
    · rw [if_pos rfl, get?_ofOptions_of_notMem firstNew, Option.or_none]
    · have different : field.1 ≠ name := by
        rintro rfl
        exact firstNew (List.mem_map_of_mem (f := (·.1)) later)
      rw [if_neg different, ih restDistinct later]

end Pairing.Fields
