/-
**A load among updates.**

A store takes its time to be read, too, and a host need not wait for a load before it changes settings. What
was read when the load started is put into memory when the load finishes, whatever updates have put into
memory and into the store in between:

* `Updates.Interleaving`: one load among updates that start and finish in any order;
* `Updates.settings_run_of_no_start`: an update changes settings when it starts, and never again;
* `Updates.inStep_run_of_start`: any update brings the store in step with memory.

`Updates.Interleaving.inStep_run_iff` says when memory and store are in step after all of it.
-/

import Pairing.Proofs.Engine.Overlap

namespace Pairing.Updates

variable {updates : Updates}

/-! ### Settings after updates -/

theorem settings_finish (updates : Updates) (number : Nat) :
    (updates.after (.finish number)).engine.settings = updates.engine.settings := by
  unfold after
  dsimp only
  split
  · unfold Engine.finishUpdate
    dsimp only
    split <;> rfl
  · rfl

/-- Where no update starts, settings stay as they are, in memory and in the store. -/
theorem settings_run_of_no_start {events : List Event} (none : ∀ change, .start change ∉ events) :
    (updates.run events).engine.settings = updates.engine.settings := by
  induction events generalizing updates with
  | nil => rfl
  | cons event rest ih =>
    have later : ∀ change, .start change ∉ rest := fun change member =>
      none change (List.mem_cons_of_mem _ member)
    cases event with
    | start change => exact absurd List.mem_cons_self (none change)
    | finish number =>
      calc ((updates.after (.finish number)).run rest).engine.settings
          = (updates.after (.finish number)).engine.settings := ih later
        _ = updates.engine.settings := updates.settings_finish number

theorem inStep_run {events : List Event} (inStep : updates.engine.settings.InStep) :
    (updates.run events).engine.settings.InStep := by
  induction events generalizing updates with
  | nil => exact inStep
  | cons event rest ih =>
    refine ih ?_
    cases event with
    | start change => exact SettingsState.inStep_update _ _
    | finish number =>
      rw [settings_finish]
      exact inStep

/-- Once an update has started, the store is in step with memory, whatever was there before. -/
theorem inStep_run_of_start {events : List Event} (started : ∃ change, .start change ∈ events) :
    (updates.run events).engine.settings.InStep := by
  rcases started with ⟨change, member⟩
  rcases List.append_of_mem member with ⟨earlier, later, rfl⟩
  have split : updates.run (earlier ++ .start change :: later) =
      ((updates.run earlier).after (.start change)).run later := by
    simp only [run, List.foldl_append, List.foldl_cons]
  rw [split]
  exact inStep_run (SettingsState.inStep_update _ _)

/-! ### One load -/

/-- One load among updates: what happens to updates before it starts, while the store is read for it, and
after it has finished. -/
structure Interleaving where
  before : List Event
  during : List Event
  afterwards : List Event

namespace Interleaving

variable (order : Interleaving) (engine : Engine)

def atStart : Updates :=
  (ofEngine engine).run order.before

/-- The data that the load reads. -/
def dataRead : Data Unit :=
  (order.atStart engine).engine.startLoad

def atFinish : Updates :=
  (order.atStart engine).run order.during

/-- The load finishes with the data that it read, whatever is in the store by then. -/
def loaded : Updates :=
  { order.atFinish engine with
    engine := ((order.atFinish engine).engine.finishLoad (order.dataRead engine)).1 }

def run : Updates :=
  (order.loaded engine).run order.afterwards

/-- Where no update starts while the store is read, the store is as it was read. -/
theorem stored_atFinish_of_no_start (none : ∀ change, .start change ∉ order.during) :
    (order.atFinish engine).engine.settings.stored = order.dataRead engine := by
  unfold atFinish
  rw [settings_run_of_no_start none]
  rfl

/-- **When a load among updates leaves memory in step with the store.** After a load and any updates,
memory is in step with the store exactly if an update starts after the load has finished, or the load has
read what still is in the store when it finishes. It has if no update starts while the store is read.
Where neither is so, memory holds what the load has read, and the store what the updates have put there
meanwhile. -/
theorem inStep_run_iff (order : Interleaving) (engine : Engine) :
    ((order.run engine).engine.settings.InStep ↔
        (∃ change, .start change ∈ order.afterwards) ∨
          Settings.ofData (order.atFinish engine).engine.settings.stored =
            Settings.ofData (order.dataRead engine)) ∧
      ((∀ change, .start change ∉ order.during) → (order.run engine).engine.settings.InStep) ∧
      ((∀ change, .start change ∉ order.afterwards) →
        (order.run engine).engine.settings.settings = Settings.ofData (order.dataRead engine) ∧
          (order.run engine).engine.settings.stored =
            (order.atFinish engine).engine.settings.stored) := by
  have unchanged (none : ∀ change, .start change ∉ order.afterwards) :
      (order.run engine).engine.settings = (order.loaded engine).engine.settings :=
    settings_run_of_no_start none
  have inStep_iff : (order.run engine).engine.settings.InStep ↔
      (∃ change, .start change ∈ order.afterwards) ∨
        Settings.ofData (order.atFinish engine).engine.settings.stored =
          Settings.ofData (order.dataRead engine) := by
    by_cases started : ∃ change, .start change ∈ order.afterwards
    · exact iff_of_true (inStep_run_of_start started) (Or.inl started)
    · rw [unchanged (not_exists.mp started), or_iff_right started]
      rfl
  refine ⟨inStep_iff, fun none => inStep_iff.mpr (Or.inr ?_), fun none => ?_⟩
  · exact congrArg Settings.ofData (order.stored_atFinish_of_no_start engine none)
  · rw [unchanged none]
    exact ⟨rfl, rfl⟩

end Interleaving

/-- An update that starts while the store is read for a load is lost in memory: keys are off in the store
and on in memory once both have finished. -/
theorem not_inStep_of_update_during_load :
    let defaults : Data HostFunction := .record [("(", .text ")")]
    let order : Interleaving := ⟨[], [.start (.record [("enabled", .bool false)])], [.finish 0]⟩
    ∃ engine, Engine.start defaults .null = .ok engine ∧
      (order.run engine).AllFinished ∧ ¬ (order.run engine).engine.settings.InStep ∧
      (order.run engine).engine.settings.settings.enabled = true ∧
      (Settings.ofData (order.run engine).engine.settings.stored).enabled = false := by
  intro defaults order
  have ends : ((Engine.start defaults .null).toOption.map fun engine =>
      ((order.run engine).remembered, (order.run engine).engine.settings.settings.enabled,
        (Settings.ofData (order.run engine).engine.settings.stored).enabled)) =
        some ([none], true, false) := by
    decide +kernel
  rcases Option.map_eq_some_iff.mp ends with ⟨engine, starts, last⟩
  simp only [Prod.mk.injEq] at last
  rcases last with ⟨remembered, inMemory, inStore⟩
  refine ⟨engine, eq_ok_of_toOption starts, fun call member => ?_, fun inStep => ?_, inMemory, inStore⟩
  · rw [remembered] at member
    exact List.mem_singleton.mp member
  · have same := congrArg Settings.enabled inStep
    rw [inStore, inMemory] at same
    cases same

end Pairing.Updates
