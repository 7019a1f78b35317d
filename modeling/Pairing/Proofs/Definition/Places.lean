/-
**Where issues point.**

An issue names the place of a definition under its key. Definitions are read one by one, and what could be
read is checked once more, as a list without the ones that could not:

* `Issue.report`: the place that an issue names, the field, and what was expected there;
* `Definitions.reports`, `Definitions.reportsApart`: the reports on the definitions under a key, and those on
  each of them by itself;
* `Definitions.reports_eq`: what is found while reading is reported at the place of the definition, and what
  is found while checking at the number of definitions before it that could be read;
* `Definitions.keptBefore_eq_iff`: the two places are the same if all definitions before could be read.

`Definitions.reports_eq_reportsApart_iff` says exactly when the definitions do not disturb each other.
-/

import Mathlib.Algebra.BigOperators.Fin
import Mathlib.Algebra.Order.BigOperators.Group.Finset
import Pairing.Definition.Reading

namespace Pairing

/-! ### Lists by place -/

section Lists

variable {α β γ : Type}

/-- What the items of a list come to at their places, taken together. -/
theorem coe_map_flatten_mapIdx (g : β → γ) (items : List α) (f : Nat → α → List β) :
    ((items.mapIdx f).flatten.map g : Multiset γ) =
      ∑ place : Fin items.length, ((f place items[place]).map g : Multiset γ) := by
  induction items generalizing f with
  | nil => rfl
  | cons item rest ih =>
    rw [List.mapIdx_cons, List.flatten_cons, List.map_append, ← Multiset.coe_add, ih]
    exact (Fin.sum_univ_succ fun place : Fin (item :: rest).length =>
      ((f place (item :: rest)[place]).map g : Multiset γ)).symm

/-- An item that is kept stands at the number of items before it that are kept. -/
theorem flatten_mapIdx_filterMap (keep : α → Option β) (items : List α) (f : Nat → β → List γ) :
    ((items.filterMap keep).mapIdx f).flatten =
      (items.mapIdx fun place item =>
        ((keep item).map (f ((items.take place).filterMap keep).length)).getD []).flatten := by
  induction items generalizing f with
  | nil => rfl
  | cons item rest ih =>
    rw [List.mapIdx_cons, List.flatten_cons, List.filterMap_cons]
    cases kept : keep item with
    | none => simp [ih, kept]
    | some value => simp [ih, kept, List.mapIdx_cons]

end Lists

/-! ### Reports -/

/-- What is said of a problem at a place: the place, the field, and what was expected there. -/
def Problem.reportAt (place : Nat) (problem : Problem) : Nat × Text × Text :=
  (place, problem.field, problem.expected)

/-- What an issue says: the place that it names, the field, and what was expected there. -/
def Issue.report (issue : Issue) : Nat × Text × Text :=
  issue.problem.reportAt issue.index

/-- What is said of some problems at a place. -/
def Problem.reportsAt (place : Nat) (problems : List Problem) : Multiset (Nat × Text × Text) :=
  (problems.map (reportAt place) : List _)

namespace Definitions

variable {φ : Type} [Callable φ] {key : Text}

/-- The reports on the definitions under a key. -/
def reports (key : Text) (candidates : List (Data φ)) : Multiset (Nat × Text × Text) :=
  ((read (.record [(key, .list candidates)])).issues.map Issue.report : List _)

/-- The reports on each of some definitions when nothing else stands under the key, at the place where it
stands among them. -/
def reportsApart (key : Text) (candidates : List (Data φ)) : Multiset (Nat × Text × Text) :=
  ∑ place : Fin candidates.length,
    (reports key [candidates[place]]).map fun report => (place.val, report.2)

/-- The problems that are found when a definition that could be read is checked. -/
def checkProblems (key : Text) (candidate : Data φ) : List Problem :=
  ((Entry.ofData candidate).1.map fun entry => problemsOf key entry.toData).getD []

/-- How many of the definitions before a place could be read. -/
def keptBefore (candidates : List (Data φ)) (place : Nat) : Nat :=
  ((candidates.take place).filterMap fun candidate => (Entry.ofData candidate).1).length

theorem ne_inheritanceKey_of_isSingleCluster (single : key.isSingleCluster = true) :
    key ≠ inheritanceKey := by
  rintro rfl
  exact absurd single (by decide +kernel)

theorem readingIssues_single (candidates : List (Data φ)) :
    (read (.record [(key, .list candidates)])).readingIssues =
      (candidates.mapIdx fun place candidate =>
        (Entry.ofData candidate).2.map (⟨key, place, ·⟩)).flatten :=
  List.append_nil _

theorem checkedOf_single (single : key.isSingleCluster = true) (candidates : List (Data φ)) :
    checkedOf [(key, .list candidates)] =
      [(key, candidates.filterMap fun candidate => (Entry.ofData candidate).1)] := by
  have stays : (key != inheritanceKey) = true :=
    bne_iff_ne.mpr (ne_inheritanceKey_of_isSingleCluster single)
  unfold checkedOf
  simp only [List.filter_cons, stays, if_true]
  rfl

theorem checkingIssues_single (single : key.isSingleCluster = true) (candidates : List (Data φ)) :
    (read (.record [(key, .list candidates)])).checkingIssues =
      (candidates.mapIdx fun place candidate =>
        (checkProblems key candidate).map (⟨key, keptBefore candidates place, ·⟩)).flatten := by
  show checkingIssuesOf (checkedOf [(key, .list candidates)]) = _
  rw [checkedOf_single single]
  show issuesUnder key (.list ((candidates.filterMap _).map Entry.toData)) ++ [] = _
  rw [List.append_nil, issuesUnder, single]
  show (List.mapIdx _ ((candidates.filterMap _).map Entry.toData)).flatten = _
  rw [List.map_filterMap, flatten_mapIdx_filterMap]
  congr 1
  refine List.mapIdx_eq_mapIdx_iff.mpr fun place inside => ?_
  rw [← List.map_filterMap, List.length_map, checkProblems, keptBefore]
  cases (Entry.ofData candidates[place]).1 <;> rfl

/-- What is found while a definition is read is reported at its place, and what is found while it is checked
at the number of definitions before it that could be read. -/
theorem reports_eq (single : key.isSingleCluster = true) (candidates : List (Data φ)) :
    reports key candidates =
      ∑ place : Fin candidates.length, Problem.reportsAt place (Entry.ofData candidates[place]).2 +
        ∑ place : Fin candidates.length,
          Problem.reportsAt (keptBefore candidates place) (checkProblems key candidates[place]) := by
  have report (place : Nat) : Issue.report ∘ Issue.mk key place = Problem.reportAt place := rfl
  rw [reports, Reading.issues, readingIssues_single, checkingIssues_single single, List.map_append,
    ← Multiset.coe_add, coe_map_flatten_mapIdx, coe_map_flatten_mapIdx]
  simp only [List.map_map, report]
  rfl

theorem reportsApart_eq (single : key.isSingleCluster = true) (candidates : List (Data φ)) :
    reportsApart key candidates =
      ∑ place : Fin candidates.length, Problem.reportsAt place (Entry.ofData candidates[place]).2 +
        ∑ place : Fin candidates.length,
          Problem.reportsAt place (checkProblems key candidates[place]) := by
  have moved (problems : List Problem) (place : Nat) :
      (Problem.reportsAt 0 problems).map (fun report => (place, report.2)) =
        Problem.reportsAt place problems := by
    rw [Problem.reportsAt, Multiset.map_coe, List.map_map]
    rfl
  have alone (candidate : Data φ) : reports key [candidate] =
      Problem.reportsAt 0 (Entry.ofData candidate).2 +
        Problem.reportsAt 0 (checkProblems key candidate) := by
    rw [reports_eq single]
    exact congrArg₂ (· + ·) (Fin.sum_univ_one _) (Fin.sum_univ_one _)
  rw [reportsApart, ← Finset.sum_add_distrib]
  refine Finset.sum_congr rfl fun place _ => ?_
  rw [alone, Multiset.map_add, moved, moved]

/-! ### Where the places differ -/

theorem keptBefore_le (candidates : List (Data φ)) (place : Fin candidates.length) :
    keptBefore candidates place ≤ place :=
  (List.length_filterMap_le _ _).trans (List.length_take_le _ _)

/-- The number of definitions that could be read is that of all definitions if each could be. -/
theorem keptBefore_eq_iff (candidates : List (Data φ)) (place : Fin candidates.length) :
    keptBefore candidates place = place ↔
      ∀ earlier ∈ candidates.take place, (Entry.ofData earlier).1.isSome = true := by
  have length : (candidates.take place).length = place :=
    List.length_take_of_le (Nat.le_of_lt place.isLt)
  rw [← List.filterMap_length_eq_length, length, keptBefore]

/-- All places of some reports, added up. -/
def totalPlace : Multiset (Nat × Text × Text) →+ Nat :=
  Multiset.sumAddMonoidHom.comp (Multiset.mapAddMonoidHom Prod.fst)

theorem totalPlace_reportsAt (place : Nat) (problems : List Problem) :
    totalPlace (Problem.reportsAt place problems) = problems.length * place := by
  show (((problems.map (Problem.reportAt place)).map Prod.fst : List Nat) : Multiset Nat).sum = _
  have same : Prod.fst ∘ Problem.reportAt place = Function.const Problem place := rfl
  rw [List.map_map, Multiset.sum_coe, same, List.map_const, List.sum_replicate_nat]

/-- Places that are named too low are not made up for by others, none of which is named too high. -/
theorem sum_reportsAt_eq_iff {count : Nat} {named : Fin count → Nat} (low : ∀ place, named place ≤ place)
    (problems : Fin count → List Problem) :
    ∑ place, Problem.reportsAt (named place) (problems place) =
        ∑ place : Fin count, Problem.reportsAt place (problems place) ↔
      ∀ place, problems place ≠ [] → named place = place := by
  constructor
  · intro same place found
    have total := congrArg totalPlace same
    simp only [map_sum, totalPlace_reportsAt] at total
    have each := (Finset.sum_eq_sum_iff_of_le fun other _ =>
      Nat.mul_le_mul_left (problems other).length (low other)).mp total place (Finset.mem_univ place)
    exact Nat.eq_of_mul_eq_mul_left (List.length_pos_iff.mpr found) each
  · intro same
    refine Finset.sum_congr rfl fun place _ => ?_
    by_cases none : problems place = []
    · rw [none]
      rfl
    · rw [same place none]

/-- **Where issues point.** What is found while a definition is read is reported at its place under the
key, and what is found while it is checked at the number of definitions before it that could be read. So the
reports on some definitions are those on each of them, at its own place, exactly if no definition in which
checking finds a problem comes after one that could not be read. -/
theorem reports_eq_reportsApart_iff (single : key.isSingleCluster = true)
    (candidates : List (Data φ)) :
    reports key candidates =
        ∑ place : Fin candidates.length,
            Problem.reportsAt place (Entry.ofData candidates[place]).2 +
          ∑ place : Fin candidates.length,
            Problem.reportsAt (keptBefore candidates place) (checkProblems key candidates[place]) ∧
      (reports key candidates = reportsApart key candidates ↔
        ∀ place : Fin candidates.length, checkProblems key candidates[place] ≠ [] →
          ∀ earlier ∈ candidates.take place, (Entry.ofData earlier).1.isSome = true) := by
  refine ⟨reports_eq single candidates, ?_⟩
  rw [reports_eq single, reportsApart_eq single, add_right_inj,
    sum_reportsAt_eq_iff (keptBefore_le candidates)]
  exact forall_congr' fun place => imp_congr_right fun _ => keptBefore_eq_iff candidates place

/-- An empty closing is reported at its place where what is no definition comes after it. -/
theorem reports_eq_reportsApart_emptyClosing :
    reports "(" [.text "", (.null : Data Empty)] = reportsApart "(" [.text "", (.null : Data Empty)] :=
  (reports_eq_reportsApart_iff (by decide +kernel) _).2.mpr (by decide +kernel)

/-- An empty closing is reported at another place where what is no definition comes before it. -/
theorem reports_ne_reportsApart_emptyClosing :
    let emptyClosingAt (place : Nat) : Nat × Text × Text := (place, "closing", "non-empty string")
    let candidates : List (Data Empty) := [.null, .text ""]
    emptyClosingAt 0 ∈ reports "(" candidates ∧ emptyClosingAt 1 ∈ reportsApart "(" candidates ∧
      reports "(" candidates ≠ reportsApart "(" candidates := by
  decide +kernel

end Definitions

end Pairing
