/-
**Updates that overlap.**

A store takes its time, and a host need not wait for it before it changes settings again. Each update then
has two steps, and between them steps of other updates can come. When an update finishes, it loads the text
of the rules only if that is not the text which it remembers from its start.

* `Updates`: an engine, with the text that each update remembers until it finishes;
* `Updates.Event`, `Updates.after`, `Updates.run`: updates start and finish, in any order;
* `Updates.run_inTurn`: updates of which none overlaps another one are updates of the engine;
* `Updates.IsSound`: what is not in step with memory is still brought in step by an update that has not
  finished. For the rules this is one that remembers another text;
* `Updates.IsSound.start`, `Updates.IsSound.finish`, `Updates.IsSound.run`: no event breaks this;
* `Updates.IsSound.hasConverged`: everything is in step once every update has finished.

`Updates.run_converges` collects what a host can rely on then, and `Session.performAll_hasConverged` what it
can rely on if it waits for each update before it asks for anything else.
-/

import Pairing.Proofs.Engine.Restart

namespace Pairing

/-- An engine with updates in progress. -/
structure Updates where
  engine : Engine
  /-- The text that each update remembers, none once it has finished. The updates are numbered from zero,
  in the order in which they started. -/
  remembered : List (Option Text)

namespace Updates

/-- An engine of which no update was asked. -/
def ofEngine (engine : Engine) : Updates :=
  ⟨engine, []⟩

/-- What happens to updates. -/
inductive Event where
  | start (change : Data Unit)
  /-- The store is done with an update. -/
  | finish (number : Nat)

/-- Updates after an event. What has not started or has finished does not finish. -/
def after (updates : Updates) : Event → Updates
  | .start change =>
    let (engine, text) := updates.engine.startUpdate change
    ⟨engine, updates.remembered ++ [some text]⟩
  | .finish number =>
    match updates.remembered[number]? with
    | some (some text) =>
      ⟨(updates.engine.finishUpdate text).1, updates.remembered.set number none⟩
    | _ => updates

/-- Updates after events, the first one first. -/
def run (updates : Updates) (events : List Event) : Updates :=
  events.foldl after updates

/-- Every update that started has finished. -/
def AllFinished (updates : Updates) : Prop :=
  ∀ call ∈ updates.remembered, call = none

variable {updates : Updates} {defaults : Definitions} {base : RuleIndex}

/-- An update that has not finished remembers a text of some kind. -/
def Remembers (updates : Updates) (meets : Text → Prop) : Prop :=
  ∃ (number : Nat) (text : Text), updates.remembered[number]? = some (some text) ∧ meets text

/-- What is not in step with memory is brought in step by an update that has not finished. -/
structure IsSound (updates : Updates) (defaults : Definitions) : Prop where
  sameDefaults : updates.engine.rules.defaults = defaults
  inStep : updates.engine.settings.InStep
  /-- It holds them as they were put there, if any were. -/
  stored : updates.remembered ≠ [] →
    updates.engine.settings.stored = updates.engine.settings.settings.toData
  /-- Any update lets keystrokes follow the settings. -/
  keystrokes : updates.engine.keystrokes = updates.engine.settings.settings.keystrokes ∨
    updates.Remembers fun _ => True
  /-- An update that remembers another text loads the text of the rules. -/
  rules : updates.engine.rules.Follows updates.engine.settings.settings.rulesText ∨
    updates.Remembers (· ≠ updates.engine.settings.settings.rulesText)

/-! ### One event -/

theorem Remembers.start {meets : Text → Prop} (remembers : updates.Remembers meets) (change : Data Unit) :
    (updates.after (.start change)).Remembers meets := by
  obtain ⟨number, text, place, met⟩ := remembers
  refine ⟨number, text, ?_, met⟩
  show (updates.remembered ++ [_])[number]? = _
  rw [List.getElem?_append_left (List.getElem?_eq_some_iff.mp place).1, place]

/-- The update that has just started remembers the text of the rules before it. -/
theorem remembers_start {meets : Text → Prop} (change : Data Unit)
    (met : meets updates.engine.settings.settings.rulesText) :
    (updates.after (.start change)).Remembers meets := by
  refine ⟨updates.remembered.length, updates.engine.settings.settings.rulesText, ?_, met⟩
  show (updates.remembered ++ [_])[updates.remembered.length]? = _
  rw [List.getElem?_concat_length]

theorem IsSound.start (sound : updates.IsSound defaults) (change : Data Unit) :
    (updates.after (.start change)).IsSound defaults := by
  refine ⟨sound.sameDefaults, SettingsState.inStep_update _ _, fun _ => rfl,
    Or.inr (remembers_start change trivial), ?_⟩
  show updates.engine.rules.Follows (updates.engine.settings.update change).settings.rulesText ∨
    (updates.after (.start change)).Remembers
      (· ≠ (updates.engine.settings.update change).settings.rulesText)
  by_cases same : (updates.engine.settings.update change).settings.rulesText =
      updates.engine.settings.settings.rulesText
  · -- The text stays, and with it all that was said about it.
    rw [same]
    exact sound.rules.imp_right fun remembers => remembers.start change
  · exact Or.inr (remembers_start change (Ne.symm same))

/-- An update that finishes is the only one that does not remember its text any more. -/
theorem Remembers.of_set {meets : Text → Prop} {number : Nat} {text : Text} {engine : Engine}
    (place : updates.remembered[number]? = some (some text)) (remembers : updates.Remembers meets)
    (notMet : ¬ meets text) : Remembers ⟨engine, updates.remembered.set number none⟩ meets := by
  obtain ⟨other, otherText, otherPlace, met⟩ := remembers
  have different : number ≠ other := by
    rintro rfl
    rw [place] at otherPlace
    obtain rfl := Option.some.inj (Option.some.inj otherPlace)
    exact notMet met
  refine ⟨other, otherText, ?_, met⟩
  show (updates.remembered.set number none)[other]? = _
  rw [List.getElem?_set_ne different, otherPlace]

theorem IsSound.finish (sound : updates.IsSound defaults)
    (compiled : RuleIndex.compile defaults = .ok base) (number : Nat) :
    (updates.after (.finish number)).IsSound defaults := by
  unfold after
  dsimp only
  split
  · next text place =>
    have started : updates.remembered ≠ [] := by
      intro none
      rw [none] at place
      cases place
    obtain ⟨rfl, inStep, stored, _, rules⟩ := sound
    unfold Engine.finishUpdate
    dsimp only
    split
    · -- The text is the one that was remembered, so another update answers for the rules.
      next same =>
      refine ⟨rfl, inStep, fun _ => stored started, Or.inl rfl, ?_⟩
      exact rules.imp_right fun remembers => remembers.of_set place fun different => different same.symm
    · exact ⟨RuleStore.defaults_loadText _ _, inStep, fun _ => stored started, Or.inl rfl,
        Or.inl (RuleStore.follows_loadText compiled _)⟩
  · exact sound

/-! ### Every order of events -/

theorem IsSound.run (sound : updates.IsSound defaults)
    (compiled : RuleIndex.compile defaults = .ok base) (events : List Event) :
    (updates.run events).IsSound defaults := by
  induction events generalizing updates with
  | nil => exact sound
  | cons event rest ih =>
    cases event with
    | start change => exact ih (sound.start change)
    | finish number => exact ih (sound.finish compiled number)

theorem isSound_ofEngine {engine : Engine} (compiled : RuleIndex.compile engine.rules.defaults = .ok base) :
    (ofEngine engine.load.1).IsSound engine.rules.defaults :=
  ⟨RuleStore.defaults_loadText _ _, SettingsState.inStep_load _, fun started => absurd rfl started,
    Or.inl rfl, Or.inl (RuleStore.follows_loadText compiled _)⟩

theorem AllFinished.not_remembers (finished : updates.AllFinished) (meets : Text → Prop) :
    ¬ updates.Remembers meets := by
  rintro ⟨number, text, place, _⟩
  have unfinished := finished _ (List.mem_of_getElem? place)
  cases unfinished

/-! ### Once every update has finished -/

theorem IsSound.hasConverged (sound : updates.IsSound defaults) (finished : updates.AllFinished) :
    updates.engine.HasConverged defaults := by
  have follows := sound.rules.resolve_right (finished.not_remembers _)
  refine ⟨sound.keystrokes.resolve_right (finished.not_remembers _), sound.inStep, follows.isValid_iff,
    fun checked parses => ?_⟩
  rw [← sound.sameDefaults]
  exact (follows.uses parses).compiled

/-- **Updates that overlap converge.** Once every update of a loaded engine has finished, in any order in
which each finishes after its own start, keystrokes are handled by the settings in memory, which are
those in the store; the rules are valid if and only if the text of the settings can be used, and then
they are those of this text on top of the defaults. -/
theorem run_converges {engine : Engine} (compiled : RuleIndex.compile engine.rules.defaults = .ok base)
    (events : List Event) :
    let last := (ofEngine engine.load.1).run events
    let settings := last.engine.settings.settings
    let parsed := (RulesText.ofText settings.rulesText).outcome
    last.AllFinished →
      last.engine.keystrokes = settings.keystrokes ∧
      Settings.ofData last.engine.settings.stored = settings ∧
      (last.remembered ≠ [] → last.engine.settings.stored = settings.toData) ∧
      (last.engine.rules.status.isValid = true ↔ ∃ checked, parsed = .ok checked) ∧
      ∀ checked, parsed = .ok checked →
        RuleIndex.compile (Definitions.merge engine.rules.defaults (Definitions.ofChecked checked)) =
          .ok last.engine.rules.index := by
  intro last settings parsed finished
  have sound : last.IsSound engine.rules.defaults := (isSound_ofEngine compiled).run compiled events
  have converged := sound.hasConverged finished
  exact ⟨converged.keystrokes, converged.inStep, sound.stored, converged.isValid_iff, converged.compiled⟩

/-- Two updates that finish in the opposite order come to the rules of the second one. -/
theorem run_converges_crossed :
    let defaults : Data HostFunction := .record [("(", .text ")")]
    let textOf (t : Text) : Data Unit := .record [("rulesJsonc", .text t)]
    ∃ engine, Engine.start defaults .null = .ok engine ∧
      let last := (ofEngine engine.load.1).run [.start (textOf "\x7b\"[\": \"]\"\x7d"),
        .start (textOf "\x7b\"<\": \">\"\x7d"), .finish 1, .finish 0]
      last.AllFinished ∧ last.engine.rules.status.isValid = true ∧
        last.engine.keystrokes = last.engine.settings.settings.keystrokes := by
  intro defaults textOf
  have ends : ((Engine.start defaults .null).toOption.map fun engine =>
      let last := (ofEngine engine.load.1).run [.start (textOf "\x7b\"[\": \"]\"\x7d"),
        .start (textOf "\x7b\"<\": \">\"\x7d"), .finish 1, .finish 0]
      (last.remembered, (RulesText.ofText last.engine.settings.settings.rulesText).outcome.toBool)) =
        some ([none, none], true) := by
    decide +kernel
  obtain ⟨engine, starts, last⟩ := Option.map_eq_some_iff.mp ends
  obtain ⟨remembered, succeeds⟩ := Prod.mk.inj last
  obtain ⟨rules, rulesStarted, rfl⟩ := Engine.start_eq_ok_iff.mp (eq_ok_of_toOption starts)
  have finished : AllFinished _ := fun call member => by
    rw [remembered] at member
    simpa using member
  obtain ⟨keystrokes, _, _, valid_iff, _⟩ :=
    run_converges (RuleStore.compiled_of_start rulesStarted) _ finished
  exact ⟨_, eq_ok_of_toOption starts, finished, valid_iff.mpr (exists_of_toBool succeeds), keystrokes⟩

/-! ### Updates in turn -/

/-- Updates that are numbered from a number on, each of which finishes before the next one starts. -/
def inTurn (number : Nat) : List (Data Unit) → List Event
  | [] => []
  | change :: rest => .start change :: .finish number :: inTurn (number + 1) rest

/-- An update that finishes before anything else happens is an update of the engine. -/
theorem after_start_finish (updates : Updates) (change : Data Unit) :
    (updates.after (.start change)).after (.finish updates.remembered.length) =
      ⟨(updates.engine.update change).1, updates.remembered ++ [none]⟩ := by
  have place : (updates.after (.start change)).remembered[updates.remembered.length]? =
      some (some updates.engine.settings.settings.rulesText) := List.getElem?_concat_length
  have ended (text : Text) :
      (updates.remembered ++ [some text]).set updates.remembered.length none =
        updates.remembered ++ [none] := by
    rw [List.set_append_right _ _ (Nat.le_refl _), Nat.sub_self, List.set_cons_zero]
  unfold after at place ⊢
  dsimp only at place ⊢
  rw [place]
  exact congrArg (Updates.mk _) (ended _)

theorem run_inTurn (updates : Updates) (changes : List (Data Unit)) :
    updates.run (inTurn updates.remembered.length changes) =
      ⟨updates.engine.updateAll changes, updates.remembered ++ changes.map fun _ => none⟩ := by
  induction changes generalizing updates with
  | nil => simp [inTurn, run, Engine.updateAll]
  | cons change rest ih =>
    show ((updates.after (.start change)).after (.finish updates.remembered.length)).run
      (inTurn (updates.remembered.length + 1) rest) = _
    rw [after_start_finish]
    have later := ih ⟨(updates.engine.update change).1, updates.remembered ++ [none]⟩
    rw [List.length_append, List.length_singleton] at later
    rw [later, List.append_assoc]
    rfl

end Updates

/-! ### Sessions -/

namespace Session

variable {session : Session} {base : RuleIndex}

/-- The change of settings that a call asks for. -/
def Call.change? : Call → Option (Data Unit)
  | .update change => some change
  | _ => none

theorem engine_performAll (reliable : session.failures = ⟨none, none⟩) {calls : List Call}
    (noLoad : .load ∉ calls) (noReset : .reset ∉ calls) :
    (session.performAll calls).engine = session.engine.updateAll (calls.filterMap Call.change?) := by
  induction calls generalizing session with
  | nil => rfl
  | cons call rest ih =>
    have restLoads := fun member => noLoad (List.mem_cons_of_mem call member)
    have restResets := fun member => noReset (List.mem_cons_of_mem call member)
    cases call with
    | load => exact absurd List.mem_cons_self noLoad
    | reset => exact absurd List.mem_cons_self noReset
    | update change =>
      obtain ⟨log, updates⟩ := update_eq reliable change
      show ((session.update change).1.performAll rest).engine = _
      rw [updates]
      refine ih ?_ restLoads restResets
      exact reliable
    | handleKey key snapshot oracle =>
      obtain ⟨log, handles⟩ := session.handleKey_eq key snapshot oracle
      show ((session.handleKey key snapshot oracle).1.performAll rest).engine = _
      rw [handles]
      refine ih ?_ restLoads restResets
      exact reliable

/-- **A session does what its settings say, if it waits for each update.** After a load and any updates and
keys, on a store that never fails, keystrokes and the store are in step with memory, and the rules are those
of the text in the settings, if it can be used. -/
theorem performAll_hasConverged (reliable : session.failures = ⟨none, none⟩)
    (compiled : RuleIndex.compile session.engine.rules.defaults = .ok base) {calls : List Call}
    (noLoad : .load ∉ calls) (noReset : .reset ∉ calls) :
    (session.performAll (.load :: calls)).engine.HasConverged session.engine.rules.defaults := by
  let changes := calls.filterMap Call.change?
  let updates := (Updates.ofEngine session.engine.load.1).run (Updates.inTurn 0 changes)
  have inTurn : updates = ⟨session.engine.load.1.updateAll changes, changes.map fun _ => none⟩ :=
    Updates.run_inTurn (.ofEngine session.engine.load.1) changes
  have same : (session.performAll (.load :: calls)).engine = updates.engine := by
    obtain ⟨log, loads⟩ := load_eq reliable
    show (session.load.1.performAll calls).engine = _
    rw [loads, inTurn]
    refine engine_performAll ?_ noLoad noReset
    exact reliable
  have finished : updates.AllFinished := by
    intro call member
    rw [inTurn] at member
    obtain ⟨_, _, rfl⟩ := List.mem_map.mp member
    rfl
  rw [same]
  exact ((Updates.isSound_ofEngine compiled).run compiled _).hasConverged finished

end Session

end Pairing
