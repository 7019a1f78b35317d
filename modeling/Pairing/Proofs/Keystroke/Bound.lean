/-
**Keys that a host binds.**

A host passes on the keys that it was told to bind and no others, so every key that an index acts on has to be among
them, under the name that its rules are found under.

* `KeystrokeSettings.Attend`: where keys are decided at all;
* `mem_boundKeys_iff`, `RuleIndex.mem_triggerKeys`: the bound keys are the special ones and those that reach a rule;
* `keyKind?_eq_none_iff`: the keys that are of no kind;
* `RuleIndex.decide_passesIts`, `RuleIndex.mem_boundKeys_of_decide`: a verdict lets its own key through or acts on a
  bound one.

`handleKey_acts_onBound` says so of the keys as a host names them, and which keys leave no trace.
-/

import Pairing.Proofs.Decision.Around
import Pairing.Proofs.Fields.Distinct
import Pairing.Proofs.Keystroke.Handled

namespace Pairing

/-- Keys are decided for a snapshot: they are switched on, nothing is overwritten, and the filetype is not left
out. -/
def KeystrokeSettings.Attend (settings : KeystrokeSettings) (snapshot : Snapshot) : Prop :=
  settings.enabled = true ∧ snapshot.mode ≠ .replace ∧ snapshot.filetype ∉ settings.disabledFiletypes

/-- The keys with a meaning of their own. -/
def specialKeys : List Text :=
  [backspaceKey, enterKey, spaceKey]

/-- The questions that the host was asked for a key. -/
def Response.calls (response : Response) : List OracleCall :=
  (response.decided.map fun decided => decided.2.memo.calls).getD []

variable {index : RuleIndex} {settings : KeystrokeSettings} {key name : Text} {kind : KeyKind} {snapshot : Snapshot}
  {oracle : Oracle} {ctx : Context}

theorem KeystrokeSettings.isEnabledFor_iff : settings.isEnabledFor snapshot = true ↔ settings.Attend snapshot := by
  rw [isEnabledFor, Attend, Bool.and_eq_true, Bool.and_eq_true, bne_iff_ne, Bool.not_eq_true', Bool.eq_false_iff,
    ne_eq (List.contains _ _), List.contains_iff_mem, and_assoc]

/-! ### Bound keys -/

theorem mem_boundKeys_iff : key ∈ boundKeys index ↔ key ∈ index.triggerKeys ∨ key ∈ specialKeys := by
  rw [boundKeys, mem_distinct, List.mem_append]
  rfl

/-- A key that reaches a rule is one of those that do. -/
theorem RuleIndex.mem_triggerKeys {rule : Rule} (reached : rule ∈ index.rulesFor key) : key ∈ index.triggerKeys := by
  unfold rulesFor at reached
  cases found : Fields.get? key index.byKey with
  | none =>
    rw [found] at reached
    cases reached
  | some rules =>
    rw [found, Option.getD_some] at reached
    have nonempty : (!rules.isEmpty) = true := by
      cases rules with
      | nil => cases reached
      | cons first rest => rfl
    exact List.mem_map.mpr ⟨(key, rules), List.mem_filter.mpr ⟨Fields.mem_of_get? found, nonempty⟩, rfl⟩

theorem keyKind?_eq_none_iff : keyKind? name = none ↔ name ∉ specialKeys ∧ name.isSingleCluster = false := by
  unfold keyKind? specialKeys
  simp only [List.mem_cons, List.not_mem_nil, or_false, not_or]
  by_cases space : name = spaceKey
  · rw [if_pos space]
    exact iff_of_false (Option.some_ne_none _) fun plain => plain.1.2.2 space
  by_cases enter : name = enterKey
  · rw [if_neg space, if_pos enter]
    exact iff_of_false (Option.some_ne_none _) fun plain => plain.1.2.1 enter
  by_cases backspace : name = backspaceKey
  · rw [if_neg space, if_neg enter, if_pos backspace]
    exact iff_of_false (Option.some_ne_none _) fun plain => plain.1.1 backspace
  simp [space, enter, backspace]

/-- A kind that is not that of characters is the kind of one special key. -/
theorem keyKind?_cases (known : keyKind? name = some kind) :
    kind = .printable ∨ (kind = .backspace ∧ name = backspaceKey) ∨ (kind = .enter ∧ name = enterKey) ∨
      (kind = .space ∧ name = spaceKey) := by
  unfold keyKind? at known
  split at known
  · next space => exact Or.inr (Or.inr (Or.inr ⟨(Option.some.inj known).symm, space⟩))
  split at known
  · next enter => exact Or.inr (Or.inr (Or.inl ⟨(Option.some.inj known).symm, enter⟩))
  split at known
  · next backspace => exact Or.inr (Or.inl ⟨(Option.some.inj known).symm, backspace⟩)
  split at known
  · exact Or.inl (Option.some.inj known).symm
  · cases known

/-! ### Verdicts -/

/-- Whatever rules a key is decided among, it is let through as itself. -/
theorem decideAmong_passesIts (rules : List Rule) :
    (decideAmong key rules).Ends ctx (fun outcome => ∀ passed, outcome.edit = .passThrough passed → passed = key)
      fun _ => True := by
  have itself : ∀ passed, Edit.passThrough key = .passThrough passed → passed = key :=
    fun _ same => (Edit.passThrough.inj same).symm
  induction rules with
  | nil => exact .pure itself
  | cons rule rest ih =>
    refine decideAmong_cons_ends ?_
    cases rule.turn key ctx with
    | either =>
      refine openOrClosePair_ends.mono (fun edit ends => ?_) fun _ => id
      rcases ends with rfl | ⟨-, -, rfl⟩ | ⟨_, _, rfl, -⟩
      · exact itself
      · exact fun _ same => nomatch same
      · exact fun _ same => nomatch same
    | opens typed =>
      refine (openPair_ends typed).mono (fun edit ends => ?_) fun _ => id
      rcases ends with rfl | rfl
      · exact itself
      · exact fun _ same => nomatch same
    | closes =>
      refine closePair_ends.mono (fun edit ends => ?_) fun _ => id
      rcases ends with rfl | rfl | ⟨-, -, rfl⟩ | ⟨-, rfl⟩
      · exact itself
      all_goals exact fun _ same => nomatch same
    | passes => exact ih
    | fails => trivial

/-- Between delimiters too, a key is let through as itself. -/
theorem decideBetween_passesIts {action : Action} {edit : Context → Surrounding → Edit}
    (acts : ∀ found, (edit ctx found).kind ≠ .passThrough) {memo after : Memo} {outcome : Outcome}
    (run : (decideBetween index key action edit).run' ctx memo = (.ok outcome, after)) {passed : Text}
    (passes : outcome.edit = .passThrough passed) : passed = key := by
  obtain rfl | ⟨found, rfl, -⟩ := decideBetween_cases run
  · exact (Edit.passThrough.inj passes).symm
  · exact absurd (congrArg Edit.kind passes) (acts found)

/-- A verdict that lets a key through lets its own key through. -/
theorem RuleIndex.decide_passesIts (known : keyKind? name = some kind) {passed : Text}
    (passes : (index.decide kind name ctx).edit = .passThrough passed) : passed = name := by
  rw [decide_eq_ofQuery known] at passes
  obtain through | ⟨outcome, after, run, same, -⟩ :=
    Verdict.passes_or_exists_outcome name kind (index.decision kind name) ctx
  · exact (Edit.passThrough.inj (through.symm.trans passes)).symm
  rw [same] at passes
  obtain rfl | ⟨rfl, rfl⟩ | ⟨rfl, rfl⟩ | ⟨rfl, rfl⟩ := keyKind?_cases known
  · exact (decidePrintable_ends fun active _ => decideAmong_passesIts active).of_run' run passed passes
  · refine decideBetween_passesIts (fun found => ?_) run passes
    unfold backspaceEdit
    split <;> exact EditKind.noConfusion
  · exact decideBetween_passesIts (fun _ => EditKind.noConfusion) run passes
  · exact decideBetween_passesIts (fun _ => EditKind.noConfusion) run passes

/-- A verdict acts only on a key that is bound. -/
theorem RuleIndex.mem_boundKeys_of_decide (known : keyKind? name = some kind)
    (acts : (index.decide kind name ctx).edit.kind ≠ .passThrough) : name ∈ boundKeys index := by
  rw [mem_boundKeys_iff]
  obtain rfl | ⟨-, rfl⟩ | ⟨-, rfl⟩ | ⟨-, rfl⟩ := keyKind?_cases known
  · obtain ⟨rule, reached, -⟩ := decide_writes acts
    exact Or.inl (mem_triggerKeys reached)
  all_goals exact Or.inr (by simp [specialKeys])

/-! ### Keys of a host -/

/-- A key that is not decided. -/
theorem handleKey_of_not_decided
    (undecided : ¬ settings.Attend snapshot ∨ isUnreliableKey key = true ∨
      ∃ name, normalKey? key = some name ∧ name ∉ specialKeys ∧ name.isSingleCluster = false) :
    handleKey index settings key snapshot oracle = .ok ⟨.passThrough key, none⟩ := by
  unfold handleKey
  by_cases off : (isUnreliableKey key || !settings.isEnabledFor snapshot) = true
  · rw [if_pos off]
  rw [if_neg off]
  rw [Bool.or_eq_true, not_or, Bool.not_eq_true', Bool.not_eq_false, KeystrokeSettings.isEnabledFor_iff] at off
  obtain ⟨name, named, plain⟩ := (undecided.resolve_left (not_not_intro off.2)).resolve_left off.1
  rw [named]
  dsimp only
  rw [keyKind?_eq_none_iff.mpr plain]

/-- A key that something comes of is let through as it came, or decided under its name. -/
theorem handleKey_cases {response : Response} (returns : handleKey index settings key snapshot oracle = .ok response) :
    response = ⟨.passThrough key, none⟩ ∨
      settings.Attend snapshot ∧ isUnreliableKey key = false ∧ ∃ name kind ctx,
        normalKey? key = some name ∧ keyKind? name = some kind ∧
          response = ⟨(index.decide kind name ctx).edit, some (ctx, index.decide kind name ctx)⟩ := by
  unfold handleKey at returns
  split at returns
  · exact Or.inl (Except.ok.inj returns).symm
  next on =>
  rw [Bool.or_eq_true, not_or, Bool.not_eq_true', Bool.not_eq_true, Bool.not_eq_false,
    KeystrokeSettings.isEnabledFor_iff] at on
  split at returns
  · cases returns
  next name named =>
  split at returns
  · exact Or.inl (Except.ok.inj returns).symm
  next kind known =>
  exact Or.inr ⟨on.2, on.1, name, kind, _, named, known, (Except.ok.inj returns).symm⟩

/-- **Only bound keys are acted on.** Whatever the rules of an index are, where something else comes of a key than that
it is let through, keys are decided for the snapshot, the key is a reliable one, and its name is bound. Where it is let
through, it is as it came or under its name. It is let through as it came, nothing is asked and nothing is recorded,
where keys are not decided, and for a key that is unreliable or whose name is neither that of a special key nor a
single character. -/
theorem handleKey_acts_onBound (index : RuleIndex) (settings : KeystrokeSettings) (key : Text) (snapshot : Snapshot)
    (oracle : Oracle) :
    (∀ response, handleKey index settings key snapshot oracle = .ok response →
      (response.edit.kind ≠ .passThrough →
        settings.Attend snapshot ∧ isUnreliableKey key = false ∧
          ∃ name, normalKey? key = some name ∧ name ∈ boundKeys index) ∧
      ∀ passed, response.edit = .passThrough passed → passed = key ∨ normalKey? key = some passed) ∧
    ((¬ settings.Attend snapshot ∨ isUnreliableKey key = true ∨
        ∃ name, normalKey? key = some name ∧ name ∉ specialKeys ∧ name.isSingleCluster = false) →
      (∃ response, handleKey index settings key snapshot oracle = .ok response ∧
        response.edit = .passThrough key ∧ response.calls = []) ∧
      ∀ session : Session, session.engine.rules.index = index → session.engine.keystrokes = settings →
        session.handleKey key snapshot oracle = (session, .ok (.passThrough key))) := by
  refine ⟨fun response returns => ?_, fun undecided => ⟨?_, ?_⟩⟩
  · obtain rfl | ⟨attends, reliable, name, kind, ctx, named, known, rfl⟩ := handleKey_cases returns
    · exact ⟨fun acts => absurd rfl acts, fun passed passes => Or.inl (Edit.passThrough.inj passes).symm⟩
    · refine ⟨fun acts => ⟨attends, reliable, name, named, RuleIndex.mem_boundKeys_of_decide known acts⟩,
        fun passed passes => Or.inr ?_⟩
      rw [named, RuleIndex.decide_passesIts known passes]
  · exact ⟨_, handleKey_of_not_decided undecided, rfl, rfl⟩
  · rintro session rfl rfl
    have response : session.engine.handleKey key snapshot oracle = .ok ⟨.passThrough key, none⟩ :=
      handleKey_of_not_decided undecided
    rw [Session.handleKey, response]
    rfl

/-- A key that a host names by a letter and its accent is acted on under the one letter that is bound, in an index that
nobody compiled; in a filetype that is left out it is let through as it came. -/
theorem handleKey_acts_onBound_accent :
    let rule : Rule := ⟨"\u00e9", "\u00e9", "!", .ofNat 2, 0, .always true, fun _ => .always true⟩
    let index : RuleIndex := ⟨[("\u00e9", [rule])], []⟩
    let settings : KeystrokeSettings := ⟨true, ["text"], [Text.tab]⟩
    let snapshot (filetype : Text) : Snapshot := ⟨"a", ⟨0, 1⟩, filetype, .insert, none⟩
    (∃ response, handleKey index settings "e\u0301" (snapshot "markdown") .silent = .ok response ∧
      response.edit = .insertPair "\u00e9!" 1 ∧ ∃ name, normalKey? "e\u0301" = some name ∧ name ∈ boundKeys index) ∧
    ∃ response, handleKey index settings "e\u0301" (snapshot "text") .silent = .ok response ∧
      response.edit = .passThrough "e\u0301" ∧ response.calls = [] := by
  intro rule index settings snapshot
  have decided : ((handleKey index settings "e\u0301" (snapshot "markdown") .silent).toOption.map (·.edit)) =
      some (.insertPair "\u00e9!" 1) := by
    decide +kernel
  obtain ⟨response, returns, edit⟩ := Option.map_eq_some_iff.mp decided
  have returns := eq_ok_of_toOption returns
  have acts : response.edit.kind ≠ .passThrough := by
    rw [edit]
    exact EditKind.noConfusion
  obtain ⟨-, -, bound⟩ := ((handleKey_acts_onBound index settings "e\u0301" (snapshot "markdown") .silent).1
    response returns).1 acts
  have leftOut : ¬ settings.Attend (snapshot "text") := fun attends => attends.2.2 (List.mem_singleton_self _)
  exact ⟨⟨response, returns, edit, bound⟩,
    ((handleKey_acts_onBound index settings "e\u0301" (snapshot "text") .silent).2 (Or.inl leftOut)).1⟩

end Pairing
