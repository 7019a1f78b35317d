/-
**What a session records of its keys.**

A key that is decided is a call of a handler, and all other keys leave no trace:

* `KeyPress`, `Session.handlerCall?`: a key that a host reports, and the call that it comes to;
* `Session.handleKey_of_call`, `Session.handleKey_of_no_call`: what a session does for it;
* `Session.handlerEvents`, `Session.performAll_keys_eq_run`: keys do to the log what their calls do to it;
* `Log.decisions_run_of_decides`: what a log keeps that is told of decisions alone.

`Session.performAll_keys_decisions` says which decisions a session has on record.
-/

import Pairing.Proofs.Engine.Restart
import Pairing.Proofs.Log.Runs

namespace Pairing

/-! ### Logs of decisions -/

namespace Log

variable {φ : Type} [Callable φ] {filter : TopicFilter} {events : List (LogEvent φ)}

omit [Callable φ] in
theorem capacityAfter_of_decides (decides : ∀ event ∈ events, event.decision?.isSome = true) :
    capacityAfter events = initialCapacity := by
  have none : events.filterMap (·.limit?) = [] := by
    refine List.filterMap_eq_nil_iff.mpr fun event member => ?_
    have made := decides event member
    cases event <;> first | rfl | cases made
  rw [capacityAfter, none]
  rfl

theorem length_entries_run_of_decides (quiet : filter.accepts (topicOf "pair-handlers") = false)
    (decides : ∀ event ∈ events, event.decision?.isSome = true) :
    ((empty.run filter events).1.entries.length : Int) = min initialCapacity events.length := by
  induction events using List.reverseRecOn with
  | nil => rfl
  | append_singleton rest last ih =>
    have restDecides (event : LogEvent φ) (member : event ∈ rest) : event.decision?.isSome = true :=
      decides event (List.mem_append_left _ member)
    have made := decides last (by simp)
    have stays : last ≠ .clear := by
      rintro rfl
      cases made
    have adds : last.appended?.toList.length = 1 := by
      rw [last.decision?_eq] at made
      cases added : last.appended? with
      | none =>
        rw [added] at made
        cases made
      | some entry => rfl
    rw [length_entries_concat quiet rest stays, capacityAfter_of_decides decides, adds, ih restDecides,
      List.length_append, List.length_singleton]
    omega

/-- Where decisions are all that a new log is asked to record, the last ones stay, as many as there is room
for. -/
theorem decisions_run_of_decides (quiet : filter.accepts (topicOf "pair-handlers") = false)
    (decides : ∀ event ∈ events, event.decision?.isSome = true) :
    (empty.run filter events).1.decisions <:+ events.filterMap (·.decision?) ∧
      ((empty.run filter events).1.decisions.length : Int) =
        min initialCapacity (events.filterMap (·.decision?)).length := by
  have whole : sinceClear events = events :=
    @sinceClear_append φ [] events fun member => nomatch decides _ member
  have noNotes (time : Int) (topic : Text) (parts : List (Data φ)) :
      .record time topic parts ∉ sinceClear events := by
    rw [whole]
    exact fun member => nomatch decides _ member
  have suffix := decisions_run_suffix quiet events
  rw [whole] at suffix
  refine ⟨suffix, ?_⟩
  rw [length_decisions_run quiet noNotes, length_entries_run_of_decides quiet decides,
    List.filterMap_length_eq_length.mpr decides]

end Log

/-! ### One key -/

/-- A key that a host reports, and what the host answers to questions about the text. -/
structure KeyPress where
  key : Text
  snapshot : Snapshot
  oracle : Oracle

/-- That the key is handled, as one of the things that a host asks of an engine. -/
def KeyPress.asked (press : KeyPress) : Session.Call :=
  .handleKey press.key press.snapshot press.oracle

namespace Session

variable {session : Session} {press : KeyPress} {call : HandlerCall}

/-- The call of a handler that a key comes to, if it is decided. -/
def handlerCall? (session : Session) (press : KeyPress) : Option HandlerCall :=
  if session.attendsTo press.key press.snapshot then do
    let name ← normalKey? press.key
    let kind ← keyKind? name
    return ⟨session.engine.rules.index, kind, name, session.contextOf press.snapshot press.oracle⟩
  else none

theorem handlerCall?_eq_some_iff :
    session.handlerCall? press = some call ↔
      session.attendsTo press.key press.snapshot = true ∧ ∃ name kind, normalKey? press.key = some name ∧
        keyKind? name = some kind ∧
          ⟨session.engine.rules.index, kind, name, session.contextOf press.snapshot press.oracle⟩ = call := by
  unfold handlerCall?
  split
  · next on => simp [on, Option.bind_eq_some_iff]
  · next off => simp [off]

theorem noteEach_of_left_out (session : Session) {note : Note Unit} (rest : List (Note Unit))
    (leftOut : session.filter.accepts note.topic = false) :
    session.noteEach (note :: rest) = session.noteEach rest := by
  rw [noteEach, session.log.note_of_left_out _ leftOut]

/-- A key that is decided is handled by its call, where the notes of keystrokes are left out. -/
theorem handleKey_of_call (comes : session.handlerCall? press = some call)
    (leftOut : session.filter.accepts (topicOf "keystroke-service") = false) :
    let handling := session.log.handle session.filter session.host.clock call
    session.handleKey press.key press.snapshot press.oracle =
      ({ session with log := handling.log }, handling.outcome.mapError .thrown) := by
  intro handling
  obtain ⟨on, name, kind, named, known, rfl⟩ := handlerCall?_eq_some_iff.mp comes
  let call : HandlerCall :=
    ⟨session.engine.rules.index, kind, name, session.contextOf press.snapshot press.oracle⟩
  have responds : session.engine.handleKey press.key press.snapshot press.oracle =
      .ok ⟨call.verdict.edit, some (call.ctx, call.verdict)⟩ :=
    engine_handleKey_of_decided press.oracle on named known
  have itsKey : call.verdict.record.key = call.key := call.verdict_record.1
  subst handling
  unfold handleKey Log.handle Response.notes Verdict.notes
  rw [responds]
  dsimp only
  rw [itsKey]
  cases call.verdict.fault with
  | none =>
    rw [session.noteEach_of_left_out _ leftOut]
    rfl
  | some fault =>
    dsimp only [failureNote]
    rw [session.noteEach_of_left_out _ leftOut, noteEach]
    generalize @Log.note Unit _ session.log session.filter _ _ = noted
    obtain ⟨log, deliveries, failure⟩ := noted
    cases failure <;> rfl

/-- A key that is not decided changes nothing. -/
theorem handleKey_of_no_call (comes : session.handlerCall? press = none) :
    (session.handleKey press.key press.snapshot press.oracle).1 = session := by
  by_cases on : session.attendsTo press.key press.snapshot = true
  · cases named : normalKey? press.key with
    | none => rw [handleKey_of_nameless on (normalKey?_eq_none_iff.mp named)]
    | some name =>
      cases known : keyKind? name with
      | none => rw [handleKey_of_kindless on named known]
      | some kind =>
        rw [handlerCall?_eq_some_iff.mpr ⟨on, name, kind, named, known, rfl⟩] at comes
        cases comes
  · rw [handleKey_of_not_attended (Bool.eq_false_iff.mpr on)]

/-! ### Several keys -/

/-- What keys ask of the log. -/
def handlerEvents (session : Session) (presses : List KeyPress) : List (LogEvent Unit) :=
  (presses.filterMap session.handlerCall?).map (.handle session.host.clock)

section Quiet

variable (handlersQuiet : session.filter.accepts (topicOf "pair-handlers") = false)
  (keystrokesQuiet : session.filter.accepts (topicOf "keystroke-service") = false)

include keystrokesQuiet

theorem perform_key_eq_run (press : KeyPress) :
    session.perform press.asked =
      { session with log := (session.log.run session.filter (session.handlerEvents [press])).1 } := by
  show (session.handleKey press.key press.snapshot press.oracle).1 = _
  unfold handlerEvents
  cases comes : session.handlerCall? press with
  | none =>
    rw [handleKey_of_no_call comes, List.filterMap_cons_none comes]
    rfl
  | some call =>
    rw [handleKey_of_call comes keystrokesQuiet, List.filterMap_cons_some comes]
    rfl

/-- Keys change the log alone, and do to it what the calls that they come to do. -/
theorem performAll_keys_eq_run (presses : List KeyPress) :
    session.performAll (presses.map KeyPress.asked) =
      { session with log := (session.log.run session.filter (session.handlerEvents presses)).1 } := by
  induction presses generalizing session with
  | nil => rfl
  | cons first rest ih =>
    have split : session.handlerEvents (first :: rest) =
        session.handlerEvents [first] ++ session.handlerEvents rest := by
      unfold handlerEvents
      rw [← List.map_append, ← List.filterMap_append, List.singleton_append]
    show (session.perform first.asked).performAll (rest.map KeyPress.asked) = _
    rw [perform_key_eq_run keystrokesQuiet, split, Log.run_append]
    exact ih keystrokesQuiet

include handlersQuiet

/-- **A session has its last decisions on record.** Where the notes on keys are left out of a log that is new,
the decisions in it are the last ones of those on the keys that were decided, as many as there is room for,
and nothing else about the session has changed. So each key that is decided later gets the edit of its verdict. -/
theorem performAll_keys_decisions (new : session.log = .empty) (presses : List KeyPress) :
    let decided := (presses.filterMap session.handlerCall?).map (·.verdict.record)
    ∃ log : Log, session.performAll (presses.map KeyPress.asked) = { session with log := log } ∧
      log.decisions <:+ decided ∧ (log.decisions.length : Int) = min Log.initialCapacity decided.length ∧
      ∀ press call, session.handlerCall? press = some call →
        ((session.performAll (presses.map KeyPress.asked)).handleKey press.key press.snapshot press.oracle).2 =
          .ok call.verdict.edit := by
  intro decided
  let events := session.handlerEvents presses
  have decides (event : LogEvent Unit) (member : event ∈ events) : event.decision?.isSome = true := by
    obtain ⟨call, -, rfl⟩ := List.mem_map.mp member
    rfl
  have made : events.filterMap (·.decision?) = decided := by
    show ((presses.filterMap session.handlerCall?).map _).filterMap _ = _
    rw [List.filterMap_map]
    exact congrFun List.filterMap_eq_map _
  obtain ⟨suffix, count⟩ := Log.decisions_run_of_decides handlersQuiet decides
  rw [made] at suffix count
  rw [performAll_keys_eq_run keystrokesQuiet presses, new]
  refine ⟨_, rfl, suffix, count, fun press call comes => ?_⟩
  let later := { session with log := (Log.empty.run session.filter events).1 }
  have alsoComes : later.handlerCall? press = some call := comes
  show (later.handleKey press.key press.snapshot press.oracle).2 = _
  rw [handleKey_of_call alsoComes keystrokesQuiet, later.log.handle_of_quiet _ call handlersQuiet]
  rfl

end Quiet

end Session

end Pairing
