/-
**Defaults that are replaced.**

The definitions of a user replace the defaults key by key, and keys are compared as they are written. Rules
stand under the composed forms of keys. So a default gives way to the definitions that are written under
its very key, and stays beside those that are written under another spelling of it:

* `Definitions.declared`, `Definitions.Names`: what is declared under the spellings of a key;
* `Definitions.replacing`, `Definitions.remaining`: the definitions of the user where they stand in the
  merged ones, and the defaults that stay;
* `RuleIndex.HoldsUnder`: the rules under a key are those of definitions, one for one and in their order;
* `RuleIndex.holdsUnder_of_compile`: what an index holds under each key.

`RuleIndex.compile_merge_replaces_iff` says when the definitions of a user are all that a key holds.
-/

import Mathlib.Data.List.Forall2
import Pairing.Proofs.Definition.Merged
import Pairing.Proofs.Fields.Merged
import Pairing.Proofs.RuleIndex.Representation

namespace Pairing

/-- A rule is that of a definition, in whatever place. -/
def Rule.IsOf (rule : Rule) (entry : Data HostFunction) : Prop :=
  Rule.ofEntry rule.key entry rule.order = .ok rule

/-- The rules under a key are those of some definitions, one for one and in the same order. -/
def RuleIndex.HoldsUnder (index : RuleIndex) (key : Text) (entries : List (Data HostFunction)) : Prop :=
  ∃ rules : List Rule, rules.Perm (index.all.filter fun rule => rule.key = key) ∧
    rules.Pairwise (fun a b => a.order < b.order) ∧ List.Forall₂ Rule.IsOf rules entries

namespace Definitions

/-- Some key of the definitions has a composed form. -/
def Names (definitions : Definitions) (key : Text) : Prop :=
  ∃ spelling ∈ Fields.keys definitions, spelling.composed = key

/-- What is declared under the spellings of a key, in the order of its declaration. -/
def declared (definitions : Definitions) (key : Text) : List (Data HostFunction) :=
  (definitions.entries.filter fun entry => entry.1 = key).map (·.2)

/-- The definitions that replace others, where they stand among the merged ones. -/
def replacing (defaults overrides : Definitions) : Definitions :=
  (merge defaults overrides).filter fun field => field.1 ∈ Fields.keys overrides

/-- The definitions whose keys, as they are written, no others name. -/
def remaining (defaults overrides : Definitions) : Definitions :=
  defaults.filter fun field => field.1 ∉ Fields.keys overrides

/-! ### What is declared under a key -/

variable {definitions : Definitions} {key : Text}

theorem declared_cons (field : Text × Data HostFunction) (rest : Definitions) (key : Text) :
    declared (field :: rest) key =
      (if field.1.composed = key then field.2.asList else []) ++ declared rest key := by
  have first : ((field.2.asList.map fun entry => (field.1.composed, entry)).filter
      fun entry => entry.1 = key).map (·.2) = if field.1.composed = key then field.2.asList else [] := by
    by_cases same : field.1.composed = key <;> simp [List.filter_map, Function.comp_def, same]
  rw [declared, entries, List.flatMap_cons, List.filter_append, List.map_append, first]
  rfl

theorem declared_eq_flatMap (definitions : Definitions) (key : Text) :
    declared definitions key =
      definitions.flatMap fun field => if field.1.composed = key then field.2.asList else [] := by
  induction definitions with
  | nil => rfl
  | cons field rest ih => rw [declared_cons, List.flatMap_cons, ih]

theorem declared_append (first rest : Definitions) (key : Text) :
    declared (first ++ rest : List _) key = declared first key ++ declared rest key := by
  simp only [declared_eq_flatMap, List.flatMap_append]

theorem declared_perm {first second : Definitions} (same : first.Perm second) (key : Text) :
    (declared first key).Perm (declared second key) := by
  simp only [declared_eq_flatMap]
  exact same.flatMap_right _

/-- Definitions that declare nothing under a key can be left out. -/
theorem declared_filter {keeps : Text × Data HostFunction → Bool}
    (nothing : ∀ field ∈ definitions, keeps field = false → field.1.composed = key →
      field.2.asList = []) :
    declared (definitions.filter keeps) key = declared definitions key := by
  induction definitions with
  | nil => rfl
  | cons field rest ih =>
    have later := ih fun other member => nothing other (List.mem_cons_of_mem _ member)
    rw [declared_cons, List.filter_cons]
    split
    · rw [declared_cons, later]
    · next dropped =>
      rw [later]
      split
      · next same =>
        rw [nothing field List.mem_cons_self (eq_false_of_ne_true dropped) same, List.nil_append]
      · rfl

theorem asList_eq_nil_of_declared (none : declared definitions key = [])
    {field : Text × Data HostFunction} (member : field ∈ definitions)
    (same : field.1.composed = key) : field.2.asList = [] := by
  rw [declared_eq_flatMap, List.flatMap_eq_nil_iff] at none
  simpa [same] using none field member

/-! ### The rules under a key -/

theorem forall₂_entries {rules : List Rule} (given : definitions.rules = .ok rules) :
    List.Forall₂ (fun rule entry => rule.key = entry.1 ∧ rule.IsOf entry.2) rules definitions.entries := by
  refine List.forall₂_iff_get.mpr ⟨length_rules given, fun order insideRules inside => ?_⟩
  have made := ofEntry_getElem given inside insideRules
  obtain ⟨sameKey, place⟩ := Rule.place_of_ofEntry made
  refine ⟨sameKey, ?_⟩
  rw [Rule.IsOf, List.get_eq_getElem, List.get_eq_getElem, sameKey, place]
  exact made

theorem forall₂_filter {rules : List Rule} {entries : List (Text × Data HostFunction)}
    (each : List.Forall₂ (fun rule entry => rule.key = entry.1 ∧ rule.IsOf entry.2) rules entries)
    (key : Text) :
    List.Forall₂ Rule.IsOf (rules.filter fun rule => rule.key = key)
      ((entries.filter fun entry => entry.1 = key).map (·.2)) := by
  induction each with
  | nil => exact List.Forall₂.nil
  | cons first _ ih =>
    obtain ⟨sameKey, made⟩ := first
    rw [List.filter_cons, List.filter_cons, sameKey]
    split
    · exact List.Forall₂.cons made ih
    · exact ih

end Definitions

namespace RuleIndex

variable {index : RuleIndex} {key : Text}

/-- Under each key an index holds what is declared under the spellings of the key. -/
theorem holdsUnder_of_compile {definitions : Definitions} (compiled : compile definitions = .ok index)
    (key : Text) : index.HoldsUnder key (definitions.declared key) := by
  obtain ⟨-, rules, given, rfl⟩ := compile_eq_ok_iff.mp compiled
  have increasing : (rules.map (·.order)).Pairwise (· < ·) := by
    rw [Definitions.map_order_rules given]
    exact List.pairwise_lt_range
  exact ⟨rules.filter fun rule => rule.key = key, (Rule.ranked_perm rules).symm.filter _,
    (List.pairwise_map.mp increasing).filter _,
    Definitions.forall₂_filter (Definitions.forall₂_entries given) key⟩

theorem HoldsUnder.length_eq {entries : List (Data HostFunction)} (holds : index.HoldsUnder key entries) :
    entries.length = (index.all.filter fun rule => rule.key = key).length := by
  obtain ⟨rules, same, -, each⟩ := holds
  rw [← each.length_eq, same.length_eq]

end RuleIndex

/-! ### Definitions on top of others -/

namespace Definitions

variable {defaults overrides : Definitions} {key : Text}

/-- The keys of the definitions have a composed form once at most. -/
def NamesOnce (definitions : Definitions) (key : Text) : Prop :=
  ∀ first ∈ Fields.keys definitions, ∀ second ∈ Fields.keys definitions,
    first.composed = key → second.composed = key → first = second

theorem filter_merge_eq_remaining (defaults overrides : Definitions) :
    ((merge defaults overrides).filter fun field => field.1 ∉ Fields.keys overrides) =
      remaining defaults overrides :=
  Fields.filter_merge (fun spelling => spelling ∉ Fields.keys overrides) (by simp) defaults

/-- The merged definitions are those that replace others and those that stay. -/
theorem replacing_append_remaining_perm (defaults overrides : Definitions) :
    (replacing defaults overrides ++ remaining defaults overrides : List _).Perm
      (merge defaults overrides) := by
  have parts := List.filter_append_perm
    (fun field : Text × Data HostFunction => decide (field.1 ∈ Fields.keys overrides))
    (merge defaults overrides)
  simp only [← decide_not, filter_merge_eq_remaining] at parts
  exact parts

theorem declared_merge_of_not_names (unnamed : ¬overrides.Names key) :
    (merge defaults overrides).declared key = defaults.declared key := by
  have outside : ∀ field : Text × Data HostFunction,
      decide (field.1 ∉ Fields.keys overrides) = false → field.1.composed = key →
        field.2.asList = [] := by
    intro field named same
    have spelling : field.1 ∈ Fields.keys overrides := Decidable.not_not.mp (of_decide_eq_false named)
    exact absurd ⟨field.1, spelling, same⟩ unnamed
  calc (merge defaults overrides).declared key
      = declared ((merge defaults overrides).filter fun field => field.1 ∉ Fields.keys overrides) key :=
        (declared_filter fun field _ => outside field).symm
    _ = (remaining defaults overrides).declared key := by rw [filter_merge_eq_remaining]
    _ = defaults.declared key := declared_filter fun field _ => outside field

/-- Where no default stays under another spelling of a key, the definitions that replace others are all
that is declared. -/
theorem declared_merge_of_remaining (none : (remaining defaults overrides).declared key = []) :
    (merge defaults overrides).declared key = (replacing defaults overrides).declared key := by
  refine (declared_filter fun field member unnamed same => ?_).symm
  have stays : field ∈ remaining defaults overrides := by
    rw [← filter_merge_eq_remaining]
    exact List.mem_filter.mpr ⟨member, decide_eq_true (of_decide_eq_false unnamed)⟩
  exact asList_eq_nil_of_declared none stays same

theorem replacing_perm (defaultsDistinct : (Fields.keys defaults).Nodup)
    (overridesDistinct : (Fields.keys overrides).Nodup) :
    (replacing defaults overrides).Perm overrides :=
  Fields.filter_merge_perm defaultsDistinct overridesDistinct

/-- Where a key is spelled in one way only, the order of the definitions does not matter to it. -/
theorem declared_of_perm {first second : Definitions} (same : first.Perm second)
    (distinct : (Fields.keys second).Nodup) (once : second.NamesOnce key) :
    first.declared key = second.declared key := by
  have chosen (definitions : Definitions) :
      declared (definitions.filter fun field => field.1.composed = key) key = declared definitions key :=
    declared_filter fun field _ other composed => absurd composed (of_decide_eq_false other)
  rw [← chosen first, ← chosen second]
  have sameChosen := same.filter fun field => field.1.composed = key
  -- All fields of that form have one key, and so there is one of them at most.
  have anyOrder (fields : Definitions) : List.Pairwise (fun _ _ => True) fields :=
    List.pairwise_of_forall fun _ _ => trivial
  refine congrArg (declared · key) (sameChosen.eq_of_pairwise ?_ (anyOrder _) (anyOrder _))
  intro field other member otherMember _ _
  obtain ⟨inFirst, composed⟩ := List.mem_filter.mp member
  obtain ⟨inside, otherComposed⟩ := List.mem_filter.mp otherMember
  have alsoInside := same.mem_iff.mp inFirst
  exact List.inj_on_of_nodup_map distinct alsoInside inside
    (once _ (List.mem_map_of_mem alsoInside) _ (List.mem_map_of_mem inside)
      (of_decide_eq_true composed) (of_decide_eq_true otherComposed))

end Definitions

namespace RuleIndex

variable {defaults overrides : Definitions} {index : RuleIndex}

/-- The definitions of a user are all that a key holds exactly if no default stays under another spelling
of it. -/
theorem holdsUnder_replacing_iff (compiled : compile (Definitions.merge defaults overrides) = .ok index)
    (key : Text) :
    index.HoldsUnder key ((Definitions.replacing defaults overrides).declared key) ↔
      (Definitions.remaining defaults overrides).declared key = [] := by
  have holds := holdsUnder_of_compile compiled key
  constructor
  · intro replaced
    have parts := (Definitions.declared_perm
      (Definitions.replacing_append_remaining_perm defaults overrides) key).length_eq
    rw [Definitions.declared_append, List.length_append, holds.length_eq, replaced.length_eq] at parts
    exact List.eq_nil_of_length_eq_zero (Nat.add_eq_left.mp parts)
  · intro none
    rw [← Definitions.declared_merge_of_remaining none]
    exact holds

/-- **The definitions of a user replace the defaults of the keys that they name**, so far as no default
is written under another spelling of such a key. The other keys hold what the defaults declare. -/
theorem compile_merge_replaces_iff (defaultsDistinct : (Fields.keys defaults).Nodup)
    (overridesDistinct : (Fields.keys overrides).Nodup)
    (compiled : compile (Definitions.merge defaults overrides) = .ok index) (key : Text) :
    (overrides.Names key →
      (index.HoldsUnder key ((Definitions.replacing defaults overrides).declared key) ↔
        (Definitions.remaining defaults overrides).declared key = [])) ∧
      (¬overrides.Names key → index.HoldsUnder key (defaults.declared key)) ∧
      (Definitions.replacing defaults overrides).Perm overrides ∧
      (overrides.NamesOnce key →
        (Definitions.replacing defaults overrides).declared key = overrides.declared key) := by
  have all := Definitions.replacing_perm defaultsDistinct overridesDistinct
  refine ⟨fun _ => holdsUnder_replacing_iff compiled key, fun unnamed => ?_, all,
    Definitions.declared_of_perm all overridesDistinct⟩
  rw [← Definitions.declared_merge_of_not_names unnamed]
  exact holdsUnder_of_compile compiled key

/-- A user's definition of a bracket takes the place of the default, and that of a parenthesis stays. -/
theorem compile_merge_replaces_bracket :
    ∃ index, compile (Definitions.merge [("(", .text ")"), ("[", .text "]")] [("[", .text ">")]) =
        .ok index ∧
      index.HoldsUnder "[" [.text ">"] ∧ index.HoldsUnder "(" [.text ")"] := by
  obtain ⟨index, compiled⟩ : ∃ index, compile
      (Definitions.merge [("(", .text ")"), ("[", .text "]")] [("[", .text ">")]) = .ok index :=
    exists_of_toBool (by decide +kernel)
  have bracket : Text.composed "[" = "[" := by decide +kernel
  have parenthesis : Text.composed "(" = "(" := by decide +kernel
  have holds := compile_merge_replaces_iff (by decide) (by decide) compiled
  refine ⟨index, compiled, ?_, ?_⟩
  · have once : Definitions.NamesOnce [("[", .text ">")] "[" := by
      simp [Definitions.NamesOnce, Fields.keys]
    have noDefault : (Definitions.remaining [("(", .text ")"), ("[", .text "]")]
        [("[", .text ">")]).declared "[" = [] := by
      show Definitions.declared [("(", .text ")")] "[" = []
      rw [Definitions.declared_cons, parenthesis]
      rfl
    have replaced := ((holds "[").1 ⟨"[", List.mem_cons_self, bracket⟩).mpr noDefault
    rw [(holds "[").2.2.2 once, Definitions.declared_cons, bracket] at replaced
    exact replaced
  · have unnamed : ¬Definitions.Names [("[", .text ">")] "(" := by
      rintro ⟨spelling, member, same⟩
      obtain rfl : spelling = "[" := List.mem_singleton.mp member
      exact absurd (bracket.symm.trans same) (by decide)
    have kept := (holds "(").2.1 unnamed
    rw [Definitions.declared_cons, Definitions.declared_cons, parenthesis, bracket] at kept
    exact kept

/-- A default under a composed key stays beside the definition of a user under its decomposed spelling. -/
theorem holdsUnder_decomposedOverride :
    ∃ index, compile (Definitions.merge [([0xE9], .text ")")] [([0x65, 0x301], .text "]")]) =
        .ok index ∧
      Definitions.Names [([0x65, 0x301], .text "]")] [0xE9] ∧
      index.HoldsUnder [0xE9] [.text ")", .text "]"] ∧
      ¬index.HoldsUnder [0xE9] (Definitions.declared [([0x65, 0x301], .text "]")] [0xE9]) := by
  obtain ⟨index, compiled⟩ : ∃ index, compile
      (Definitions.merge [([0xE9], .text ")")] [([0x65, 0x301], .text "]")]) = .ok index :=
    exists_of_toBool (by decide +kernel)
  have composed : Text.composed [0xE9] = [0xE9] := by decide +kernel
  have decomposed : Text.composed [0x65, 0x301] = [0xE9] := by decide +kernel
  have holds := holdsUnder_of_compile compiled [0xE9]
  have both : Definitions.declared
      (Definitions.merge [([0xE9], .text ")")] [([0x65, 0x301], .text "]")]) [0xE9] =
        [.text ")", .text "]"] := by
    show Definitions.declared [([0xE9], .text ")"), ([0x65, 0x301], .text "]")] [0xE9] = _
    rw [Definitions.declared_cons, Definitions.declared_cons, composed, decomposed]
    rfl
  rw [both] at holds
  refine ⟨index, compiled, ⟨_, List.mem_cons_self, decomposed⟩, holds, fun alone => ?_⟩
  rw [Definitions.declared_cons, decomposed] at alone
  have sameLength := holds.length_eq.trans alone.length_eq.symm
  simp [Data.asList, Definitions.declared, Definitions.entries] at sameLength

end RuleIndex

end Pairing
