/-
**Languages and the filetypes that they handle.**

One table is read in two directions: from filetypes to the languages that handle them, and from languages to the
filetypes that they handle. Both readings put the names that they were given beside what they find.

* `Handles`: what the table says of a language and a filetype;
* `mem_languagesOf_iff`, `exists_filetypesOf`: what the two readings find. The second one fails only for names that
  every record has;
* `Query.run'_language_fst`: the language at the cursor is asked for once;
* `Query.isFoundAmong`, `Query.run'_isLanguage`: where it is known, it is among the given names or not.

`Handles.reads_converse` says that the two readings are converse, that they take lists member by member, and which of
the two decides whether the cursor is in a language.
-/

import Mathlib.Data.List.Nodup
import Pairing.Proofs.Query.Ends

namespace Pairing

/-- A language handles a filetype of another name. -/
def Handles (language filetype : Text) : Prop :=
  ∃ entry ∈ languageFiletypes, entry.language = language ∧ filetype ∈ entry.filetypes

instance (language filetype : Text) : Decidable (Handles language filetype) :=
  inferInstanceAs (Decidable (∃ entry ∈ languageFiletypes, entry.language = language ∧ filetype ∈ entry.filetypes))

variable {language filetype : Text} {names : List Text}

/-! ### From filetypes to languages -/

theorem mem_languagesOf_iff :
    language ∈ languagesOf names ↔ language ∈ names ∨ ∃ filetype ∈ names, Handles language filetype := by
  rw [languagesOf, mem_distinct, List.mem_append, or_comm, List.mem_map]
  refine or_congr_right ⟨?_, ?_⟩
  · rintro ⟨entry, found, rfl⟩
    obtain ⟨member, handles⟩ := List.mem_filter.mp found
    obtain ⟨filetype, its, given⟩ := List.any_eq_true.mp handles
    exact ⟨filetype, List.contains_iff_mem.mp given, entry, member, rfl, its⟩
  · rintro ⟨filetype, given, entry, member, rfl, its⟩
    refine ⟨entry, List.mem_filter.mpr ⟨member, ?_⟩, rfl⟩
    exact List.any_eq_true.mpr ⟨filetype, its, List.contains_iff_mem.mpr given⟩

/-! ### From languages to filetypes -/

/-- Each language stands in the table once. -/
theorem languageFiletypes_nodup : (languageFiletypes.map (·.language)).Nodup := by
  decide +kernel

theorem mem_tableFiletypes_iff {own : List Text} (found : tableFiletypes language = .ok own) :
    filetype ∈ own ↔ Handles language filetype := by
  unfold tableFiletypes at found
  split at found
  · next entry first =>
    obtain rfl := Except.ok.inj found
    have member := List.mem_of_find?_eq_some first
    have its : entry.language = language := by simpa using List.find?_some first
    refine ⟨fun handled => ⟨entry, member, its, handled⟩, ?_⟩
    rintro ⟨other, otherMember, same, handled⟩
    rw [List.inj_on_of_nodup_map languageFiletypes_nodup otherMember member (same.trans its.symm)] at handled
    exact handled
  · next unknown =>
    refine iff_of_false ?_ ?_
    · split at found
      · cases found
      · obtain rfl := Except.ok.inj found
        exact List.not_mem_nil
    · rintro ⟨entry, member, its, -⟩
      exact List.find?_eq_none.mp unknown entry member (beq_iff_eq.mpr its)

theorem exists_tableFiletypes (plain : inherited? language = none) : ∃ own, tableFiletypes language = .ok own := by
  unfold tableFiletypes
  rw [plain]
  split <;> exact ⟨_, rfl⟩

theorem exists_mapM_tableFiletypes (plain : ∀ name ∈ names, inherited? name = none) :
    ∃ handled, names.mapM tableFiletypes = .ok handled ∧
      ∀ filetype, filetype ∈ handled.flatten ↔ ∃ name ∈ names, Handles name filetype := by
  induction names with
  | nil => exact ⟨[], rfl, by simp⟩
  | cons name rest ih =>
    obtain ⟨firstPlain, restPlain⟩ := List.forall_mem_cons.mp plain
    obtain ⟨own, found⟩ := exists_tableFiletypes firstPlain
    obtain ⟨handled, others, handles⟩ := ih restPlain
    refine ⟨own :: handled, by rw [List.mapM_cons, found, others]; rfl, fun filetype => ?_⟩
    rw [List.flatten_cons, List.mem_append, mem_tableFiletypes_iff found, handles, List.exists_mem_cons_iff]

/-- The filetypes of languages, none of which is a name that every record has. -/
theorem exists_filetypesOf (plain : ∀ name ∈ names, inherited? name = none) :
    ∃ handled, filetypesOf names = .ok handled ∧ handled.Nodup ∧
      ∀ filetype, filetype ∈ handled ↔ filetype ∈ names ∨ ∃ name ∈ names, Handles name filetype := by
  obtain ⟨handled, found, handles⟩ := exists_mapM_tableFiletypes plain
  refine ⟨distinct (names ++ handled.flatten), by rw [filetypesOf, found]; rfl, nodup_distinct _, fun filetype => ?_⟩
  rw [mem_distinct, List.mem_append, handles]

/-! ### The language at the cursor -/

namespace Query

variable {ctx : Context} {memo after : Memo}

/-- What the host says about the language at the cursor of a context. -/
def languageAnswer (ctx : Context) (earlier : List OracleCall) : Except Fault (Option Text) :=
  match ctx.oracle.language with
  | some answer => answer earlier ctx.cursor
  | none => .ok none

/-- The language at the cursor is what is known of it, and else what the host says. -/
theorem run'_language_fst (ctx : Context) (memo : Memo) :
    (Query.language.run' ctx memo).1 =
      match memo.language with
      | some known => .ok known
      | none => languageAnswer ctx memo.calls := by
  unfold Query.language languageAnswer
  cases known : memo.language with
  | some found => rw [run'_keep_of_some known ctx]
  | none =>
    rw [keep, run'_bind_of_ok (run'_get ctx memo), known]
    dsimp only
    rw [run'_bind, run'_read_bind]
    cases ctx.oracle.language with
    | none => rfl
    | some answer =>
      dsimp only
      rw [run'_ask]
      cases answer memo.calls ctx.cursor <;> rfl

/-- Once it was found, the language at the cursor is known. -/
theorem known_of_run'_language {found : Option Text} (asked : Query.language.run' ctx memo = (.ok found, after)) :
    after.language = some found := by
  unfold Query.language at asked
  cases known : memo.language with
  | some earlier =>
    rw [run'_keep_of_some known ctx] at asked
    obtain ⟨same, rfl⟩ := Prod.mk.inj asked
    rw [known, Except.ok.inj same]
  | none =>
    rw [keep, run'_bind_of_ok (run'_get ctx memo), known] at asked
    obtain ⟨answer, between, -, filled⟩ := exists_of_run'_bind asked
    rw [run'_bind_of_ok (run'_modify _ ctx between)] at filled
    obtain ⟨rfl, rfl⟩ := of_run'_pure ctx filled
    rfl

/-- Whether the cursor is in one of some languages and filetypes, given the language that was found at it. -/
def isFoundAmong (ctx : Context) (names handled : List Text) : Option Text → Bool
  | some current => names.contains current || (languagesOf names).contains current
  | none => names.contains ctx.filetype || handled.contains ctx.filetype

/-- Whether the cursor is in one of some languages, once its language is found. -/
theorem run'_isLanguage {found : Option Text} {handled : List Text}
    (asked : Query.language.run' ctx memo = (.ok found, after)) (finds : filetypesOf names = .ok handled) :
    (isLanguage names).run' ctx memo = (.ok (isFoundAmong ctx names handled found), after) := by
  rw [isLanguage, isLanguageAmong, run'_bind_of_ok asked]
  cases found with
  | some current => rfl
  | none =>
    dsimp only
    rw [run'_read_bind, finds, isFoundAmong]
    by_cases named : names.contains ctx.filetype = true
    · rw [if_pos named, named, Bool.true_or]
      rfl
    · rw [if_neg named, Bool.eq_false_iff.mpr named, Bool.false_or]
      rfl

end Query

/-! ### Both directions -/

theorem contains_or_languagesOf_iff :
    (names.contains language || (languagesOf names).contains language) = true ↔
      ∃ name ∈ names, name = language ∨ Handles language name := by
  rw [Bool.or_eq_true, List.contains_iff_mem, List.contains_iff_mem, mem_languagesOf_iff]
  simp only [and_or_left, exists_or, exists_eq_right]
  tauto

theorem contains_or_filetypes_iff {handled : List Text}
    (handles : ∀ filetype, filetype ∈ handled ↔ filetype ∈ names ∨ ∃ name ∈ names, Handles name filetype) :
    (names.contains filetype || handled.contains filetype) = true ↔
      ∃ name ∈ names, name = filetype ∨ Handles name filetype := by
  rw [Bool.or_eq_true, List.contains_iff_mem, List.contains_iff_mem, handles]
  simp only [and_or_left, exists_or, exists_eq_right]
  tauto

/-- **The two readings of the table are converse.** A language is found for a filetype exactly where the filetype is
found for the language. For several names each reading finds what it finds for one of them, without repetitions and
the names themselves among it. A context is in one of some languages exactly where one of the names is the current
one or the table relates the two, the current name being the filetype of a name where it is that of the buffer, and
its language where the host says what is written at the cursor. -/
theorem Handles.reads_converse :
    (∀ language filetype, inherited? language = none →
      ∃ handled, filetypesOf [language] = .ok handled ∧
        (language ∈ languagesOf [filetype] ↔ filetype ∈ handled)) ∧
    (∀ names : List Text, (∀ name ∈ names, inherited? name = none) →
      ((languagesOf names).Nodup ∧ names ⊆ languagesOf names ∧
        ∀ language, language ∈ languagesOf names ↔ ∃ name ∈ names, language ∈ languagesOf [name]) ∧
      ∃ handled, filetypesOf names = .ok handled ∧ handled.Nodup ∧ names ⊆ handled ∧
        ∀ filetype, filetype ∈ handled ↔
          ∃ name ∈ names, ∃ own, filetypesOf [name] = .ok own ∧ filetype ∈ own) ∧
    ∀ (ctx : Context) (memo : Memo) (names : List Text), (∀ name ∈ names, inherited? name = none) →
      ((Query.language.run' ctx memo).1 = match memo.language with
        | some known => .ok known
        | none => Query.languageAnswer ctx memo.calls) ∧
      match Query.language.run' ctx memo with
      | (.error fault, after) => (Query.isLanguage names).run' ctx memo = (.error fault, after)
      | (.ok none, after) => ∃ holds, (Query.isLanguage names).run' ctx memo = (.ok holds, after) ∧
          (holds = true ↔ ∃ name ∈ names, name = ctx.filetype ∨ Handles name ctx.filetype)
      | (.ok (some current), after) => ∃ holds, (Query.isLanguage names).run' ctx memo = (.ok holds, after) ∧
          (holds = true ↔ ∃ name ∈ names, name = current ∨ Handles current name) := by
  refine ⟨fun language filetype plain => ?_, fun names plain => ⟨⟨nodup_distinct _, ?_, ?_⟩, ?_⟩,
    fun ctx memo names plain => ⟨Query.run'_language_fst ctx memo, ?_⟩⟩
  · obtain ⟨handled, found, -, handles⟩ := exists_filetypesOf (List.forall_mem_singleton.mpr plain)
    refine ⟨handled, found, ?_⟩
    rw [mem_languagesOf_iff, handles]
    simp [eq_comm]
  · exact fun name given => mem_languagesOf_iff.mpr (Or.inl given)
  · intro language
    simp only [mem_languagesOf_iff, List.mem_singleton, exists_eq_left, and_or_left, exists_or, exists_eq_right']
  · obtain ⟨handled, found, apart, handles⟩ := exists_filetypesOf plain
    refine ⟨handled, found, apart, fun name given => (handles name).mpr (Or.inl given), fun filetype => ?_⟩
    have alone {name : Text} (given : name ∈ names) :
        (∃ own, filetypesOf [name] = .ok own ∧ filetype ∈ own) ↔ filetype = name ∨ Handles name filetype := by
      obtain ⟨own, ownFound, -, ownHandles⟩ := exists_filetypesOf (List.forall_mem_singleton.mpr (plain name given))
      rw [ownFound]
      simp [ownHandles]
    rw [handles, exists_congr fun name => and_congr_right alone]
    simp only [and_or_left, exists_or, exists_eq_right']
  · obtain ⟨handled, found, -, handles⟩ := exists_filetypesOf plain
    cases asked : Query.language.run' ctx memo with
    | mk outcome after =>
      cases outcome with
      | error fault =>
        dsimp only
        rw [Query.isLanguage, Query.isLanguageAmong, Query.run'_bind, asked]
      | ok answer =>
        have run := Query.run'_isLanguage asked found
        cases answer with
        | none => exact ⟨_, run, contains_or_filetypes_iff handles⟩
        | some current => exact ⟨_, run, contains_or_languagesOf_iff⟩

/-- A name that is a language and a filetype of another one: a buffer of Markdown is in the language of its lines, and
where the host says that Markdown is written, that is no longer so, but the cursor is in Pandoc. -/
theorem Handles.reads_converse_markdown :
    let buffer : Context := ⟨[], [], 0, "markdown", .insert, defaultIndentUnit, .silent⟩
    let written : Context := { buffer with
      oracle := { Oracle.silent with language := some fun _ _ => .ok (some (Text.ofString "markdown")) } }
    Text.ofString "markdown_inline" ∈ languagesOf [Text.ofString "markdown"] ∧
      (Query.isLanguage ["markdown_inline"]).eval buffer = .ok true ∧
      (Query.isLanguage ["markdown_inline", "pandoc"]).eval written = .ok true ∧
      (Query.isLanguage ["markdown_inline"]).eval written = .ok false := by
  intro buffer written
  have inline : Handles "markdown_inline" "markdown" := by decide +kernel
  have pandoc : Handles "markdown" "pandoc" := by decide +kernel
  have foreign : ¬ Handles "markdown" "markdown_inline" := by decide +kernel
  have plain : ∀ name ∈ [Text.ofString "markdown_inline", Text.ofString "pandoc"], inherited? name = none := by
    decide +kernel
  have plainInline : ∀ name ∈ [Text.ofString "markdown_inline"], inherited? name = none := by decide +kernel
  obtain ⟨converse, -, inLanguage⟩ := reads_converse
  refine ⟨?_, ?_, ?_, ?_⟩
  · obtain ⟨handled, found, converse⟩ := converse "markdown_inline" "markdown" (by decide +kernel)
    obtain ⟨own, same, -, handles⟩ := exists_filetypesOf plainInline
    obtain rfl := Except.ok.inj (found.symm.trans same)
    exact converse.mpr ((handles _).mpr (Or.inr ⟨_, List.mem_singleton_self _, inline⟩))
  · obtain ⟨holds, run, means⟩ := (inLanguage buffer {} _ plainInline).2
    obtain rfl := means.mpr ⟨_, List.mem_singleton_self _, Or.inr inline⟩
    exact congrArg Prod.fst run
  · obtain ⟨holds, run, means⟩ := (inLanguage written {} _ plain).2
    obtain rfl := means.mpr ⟨_, by simp, Or.inr pandoc⟩
    exact congrArg Prod.fst run
  · obtain ⟨holds, run, means⟩ := (inLanguage written {} _ plainInline).2
    have isNot : holds ≠ true := fun isSo => by
      obtain ⟨name, given, same | handled⟩ := means.mp isSo
      · rw [List.mem_singleton.mp given] at same
        exact absurd same (by decide +kernel)
      · rw [List.mem_singleton.mp given] at handled
        exact foreign handled
    obtain rfl := Bool.eq_false_iff.mpr isNot
    exact congrArg Prod.fst run

end Pairing
