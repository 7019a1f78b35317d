/-
**Merged fields.**

The fields of one record are put on top of those of another, key by key:

* `Fields.filter_merge`: the fields whose keys are not named again stay, in their order;
* `Fields.get?_merge`: under a key stands what is put there, or else what was there;
* `Fields.nodup_keys_merge`: distinct keys stay distinct;
* `Fields.filter_merge_perm`: the fields whose keys are named again are exactly those put there.
-/

import Mathlib.Data.List.Nodup
import Pairing.Proofs.Fields.Distinct

namespace Pairing.Fields

variable {α : Type}

/-! ### One assignment -/

theorem keys_replace (key : Text) (value : α) (fields : Fields α) :
    keys (replace key value fields) = keys fields := by
  induction fields with
  | nil => rfl
  | cons field rest ih =>
    unfold replace
    split
    · rfl
    · exact congrArg (field.1 :: ·) ih

theorem nodup_keys_set {fields : Fields α} (distinct : (keys fields).Nodup) (key : Text) (value : α) :
    (keys (set key value fields)).Nodup := by
  unfold set
  split
  · rwa [keys_replace]
  · next absent =>
    have keyNew : key ∉ keys fields := mt mem_keys_iff.mp absent
    have sameKeys : (keys (insertNew key value fields)).Perm (key :: keys fields) :=
      (insertNew_perm key value fields).map _
    exact sameKeys.nodup_iff.mpr (List.nodup_cons.mpr ⟨keyNew, distinct⟩)

theorem filter_replace {keeps : Text → Bool} {key : Text} (dropped : keeps key = false) (value : α)
    (fields : Fields α) :
    (replace key value fields).filter (fun field => keeps field.1) =
      fields.filter fun field => keeps field.1 := by
  induction fields with
  | nil => rfl
  | cons field rest ih =>
    unfold replace
    split
    · next same => simp [same, dropped]
    · rw [List.filter_cons, List.filter_cons, ih]

theorem filter_insertNew {keeps : Text → Bool} {key : Text} (dropped : keeps key = false) (value : α)
    (fields : Fields α) :
    (insertNew key value fields).filter (fun field => keeps field.1) =
      fields.filter fun field => keeps field.1 := by
  induction fields with
  | nil => simp [insertNew, dropped]
  | cons field rest ih =>
    unfold insertNew
    split
    · rw [List.filter_cons_of_neg (by simp [dropped])]
    · rw [List.filter_cons, List.filter_cons, ih]

/-- An assignment leaves the fields alone that are chosen by other keys. -/
theorem filter_set {keeps : Text → Bool} {key : Text} (dropped : keeps key = false) (value : α)
    (fields : Fields α) :
    (set key value fields).filter (fun field => keeps field.1) =
      fields.filter fun field => keeps field.1 := by
  unfold set
  split
  · exact filter_replace dropped value fields
  · exact filter_insertNew dropped value fields

/-! ### Several assignments -/

variable {base overrides : Fields α}

theorem nodup_keys_merge (distinct : (keys base).Nodup) (overrides : Fields α) :
    (keys (merge base overrides)).Nodup := by
  induction overrides generalizing base with
  | nil => exact distinct
  | cons field rest ih => exact ih (nodup_keys_set distinct field.1 field.2)

/-- The fields whose keys are not named again stay, in their order. -/
theorem filter_merge (keeps : Text → Bool) (dropped : ∀ key ∈ keys overrides, keeps key = false)
    (base : Fields α) :
    (merge base overrides).filter (fun field => keeps field.1) =
      base.filter fun field => keeps field.1 := by
  induction overrides generalizing base with
  | nil => rfl
  | cons field rest ih =>
    have later : ∀ key ∈ keys rest, keeps key = false := fun key member =>
      dropped key (List.mem_cons_of_mem _ member)
    exact (ih later _).trans (filter_set (dropped _ List.mem_cons_self) field.2 base)

/-- Under a key stands what is put there, or else what was there. -/
theorem get?_merge (distinct : (keys overrides).Nodup) (base : Fields α) (key : Text) :
    get? key (merge base overrides) = (get? key overrides).or (get? key base) := by
  induction overrides generalizing base with
  | nil => rfl
  | cons field rest ih =>
    obtain ⟨firstNew, restDistinct⟩ := List.nodup_cons.mp distinct
    show get? key (merge (set field.1 field.2 base) rest) = _
    rw [ih restDistinct, get?]
    by_cases same : field.1 = key
    · subst same
      rw [if_pos rfl, get?_eq_none_iff.mpr firstNew, get?_set_self, Option.none_or, Option.some_or]
    · rw [if_neg same, get?_set_of_ne same]

/-- The fields whose keys are named again are exactly those put there. -/
theorem filter_merge_perm (baseDistinct : (keys base).Nodup) (distinct : (keys overrides).Nodup) :
    ((merge base overrides).filter fun field => field.1 ∈ keys overrides).Perm overrides := by
  have mergedDistinct := nodup_keys_merge baseDistinct overrides
  refine (List.perm_ext_iff_of_nodup (mergedDistinct.of_map.filter _) distinct.of_map).mpr fun field => ?_
  rw [List.mem_filter, decide_eq_true_iff]
  constructor
  · rintro ⟨member, named⟩
    obtain ⟨value, put⟩ := Option.isSome_iff_exists.mp (mem_keys_iff.mp named)
    have found := get?_of_mem mergedDistinct member
    rw [get?_merge distinct, put, Option.some_or] at found
    exact mem_of_get? (put.trans found)
  · intro member
    refine ⟨mem_of_get? ?_, List.mem_map_of_mem (f := (·.1)) member⟩
    rw [get?_merge distinct, get?_of_mem distinct member, Option.some_or]

end Pairing.Fields
