/-
**Watchers and timers of a file.**

Whoever watches a file holds on to one watcher and to one timer, but a host would keep every watcher that was not
closed and every timer that was not cleared. Here the two are told apart:

* `WatchService`: the watchers and the timers of a host, beside those that are held on to;
* `WatchService.perform`, `WatchService.run`: what becomes of them. An open watcher reports changes and failures, a
  timer that is set goes off;
* `WatchService.IsIn`: in each phase, the host keeps just the watcher and the timer that are held on to;
* `WatchService.IsIn.run`: a service goes through the phases of a `WatchPhase`, and makes its calls.

`WatchService.run_notifies` says what listeners are told, and that a file on a host counts the same changes.
-/

import Pairing.Proofs.RulesFile.Passing

namespace Pairing

/-- The watchers and the timers of a host that are there for a file, beside those that are held on to. -/
structure WatchService where
  /-- The time, in milliseconds. -/
  clock : Nat
  /-- The watchers that are open, by number, with who listens to each. -/
  watchers : List (Nat × Nat)
  /-- How many watchers were opened. -/
  opened : Nat
  /-- The timers that are set, with whom each of them is set for. -/
  timers : List (Timer × Nat)
  /-- How many timers were set. -/
  timersSet : Nat
  /-- The watcher that is held on to. -/
  watcher : Option Nat
  /-- The timer that is held on to. -/
  settling : Option Timer
  /-- What listeners were told. -/
  calls : List WatchCall
  deriving DecidableEq, Repr

namespace WatchService

variable {service : WatchService} {phase : WatchPhase}

/-- A service that was asked nothing. -/
def start (clock : Nat) : WatchService :=
  ⟨clock, [], 0, [], 0, none, none, []⟩

/-- Closes the watcher that is held on to. -/
def closeWatcher (service : WatchService) : WatchService :=
  { service with
    watchers := service.watchers.filter fun entry => service.watcher != some entry.1
    watcher := none }

/-- Clears the timer that is held on to. -/
def clearTimer (service : WatchService) : WatchService :=
  { service with
    timers := service.timers.filter fun entry => service.settling != some entry.1
    settling := none }

/-- Closes the watcher and clears the timer that are held on to. -/
def cleanup (service : WatchService) : WatchService :=
  service.closeWatcher.clearTimer

/-- Opens a watcher for a listener and holds on to it. -/
def openWatcher (service : WatchService) (listener : Nat) : WatchService :=
  { service with
    watchers := service.watchers ++ [(service.opened, listener)]
    opened := service.opened + 1
    watcher := some service.opened }

/-- Sets a timer for a listener and holds on to it. -/
def setTimer (service : WatchService) (listener : Nat) : WatchService :=
  let timer : Timer := ⟨service.clock + RulesFile.settleDelay, service.timersSet⟩
  { service with
    timers := service.timers ++ [(timer, listener)]
    timersSet := service.timersSet + 1
    settling := some timer }

/-- A change is reported to a listener, who is to be told of it when it has settled. -/
def scheduleChange (service : WatchService) (listener : Nat) : WatchService :=
  service.clearTimer.setTimer listener

/-- A timer goes off, and who it was set for is told. -/
def fire (service : WatchService) (entry : Timer × Nat) : WatchService :=
  { service with
    timers := service.timers.filter fun other => other.1 != entry.1
    settling := none
    calls := service.calls ++ [⟨entry.1.due, entry.2⟩] }

/-- The timers that go off up to a moment, in their order. -/
def dueBy (service : WatchService) (moment : Nat) : List (Timer × Nat) :=
  (service.timers.filter fun entry => entry.1.due ≤ moment).mergeSort fun a b => a.1.precedes b.1

/-- What an event comes to. Each watcher that is open reports a change or a failure. -/
def perform (service : WatchService) : WatchEvent → WatchService
  | .change => service.watchers.foldl (fun service (_, listener) => service.scheduleChange listener) service
  | .pass delay =>
    let moment := service.clock + delay
    { (service.dueBy moment).foldl fire service with clock := moment }
  | .failure => service.watchers.foldl (fun service _ => service.cleanup) service
  | .cleanup => service.cleanup
  | .watch listener => service.cleanup.openWatcher listener

/-- What several events come to. -/
def run (service : WatchService) (events : List WatchEvent) : WatchService :=
  events.foldl perform service

/-- A service is in a phase: its host keeps just the watcher and the timer that it holds on to. -/
inductive IsIn : WatchService → WatchPhase → Prop where
  | closed {clock opened timersSet : Nat} {calls : List WatchCall} :
    IsIn ⟨clock, [], opened, [], timersSet, none, none, calls⟩ .closed
  | idle {clock number listener opened timersSet : Nat} {calls : List WatchCall} :
    IsIn ⟨clock, [(number, listener)], opened, [], timersSet, some number, none, calls⟩ (.idle listener)
  | settling {clock number listener opened timersSet : Nat} {timer : Timer} {calls : List WatchCall} :
    IsIn ⟨clock, [(number, listener)], opened, [(timer, listener)], timersSet, some number, some timer, calls⟩
      (.settling listener timer.due)

namespace IsIn

theorem timers_length_le (isIn : service.IsIn phase) : service.timers.length ≤ 1 := by
  cases isIn <;> simp

theorem timers_due (isIn : service.IsIn phase) : service.timers.map (·.1.due) = phase.due?.toList := by
  cases isIn <;> rfl

theorem isSome_watcher (isIn : service.IsIn phase) : service.watcher.isSome = phase.listener?.isSome := by
  cases isIn <;> rfl

theorem clearTimer_eq (isIn : service.IsIn phase) :
    service.clearTimer = { service with timers := [], settling := none } := by
  cases isIn <;> simp [clearTimer]

theorem cleanup_eq (isIn : service.IsIn phase) : service.cleanup =
    { service with watchers := [], timers := [], watcher := none, settling := none } := by
  cases isIn <;> simp [cleanup, closeWatcher, clearTimer]

theorem cleanup (isIn : service.IsIn phase) : service.cleanup.IsIn .closed := by
  rw [isIn.cleanup_eq]
  exact .closed

/-- A change that is listened to sets a timer, and clears the one before. -/
theorem perform_change (isIn : service.IsIn phase) {listener : Nat} (listens : phase.listener? = some listener) :
    service.perform .change =
      { service with
        timers := [(⟨service.clock + RulesFile.settleDelay, service.timersSet⟩, listener)]
        timersSet := service.timersSet + 1
        settling := some ⟨service.clock + RulesFile.settleDelay, service.timersSet⟩ } := by
  have reported : service.perform .change = service.scheduleChange listener := by
    cases isIn <;> cases listens <;> rfl
  rw [reported, scheduleChange, isIn.clearTimer_eq]
  rfl

/-- When watching fails, the watcher is given up. -/
theorem perform_failure (isIn : service.IsIn phase) {listener : Nat} (listens : phase.listener? = some listener) :
    service.perform .failure = service.cleanup := by
  cases isIn <;> cases listens <;> rfl

theorem mergeSort_of_length_le_one {α : Type} {entries : List α} (few : entries.length ≤ 1)
    (precedes : α → α → Bool) : entries.mergeSort precedes = entries := by
  rcases entries with _ | ⟨only, _ | ⟨second, rest⟩⟩
  · exact List.mergeSort_nil
  · exact List.mergeSort_singleton only
  · simp at few

/-- The timer that is held on to is the only one that may go off. -/
theorem dueBy_eq (isIn : service.IsIn phase) (moment : Nat) :
    service.dueBy moment = service.timers.filter fun entry => entry.1.due ≤ moment :=
  mergeSort_of_length_le_one ((List.length_filter_le _ _).trans isIn.timers_length_le) _

theorem dueBy_of_settling {listener due : Nat} (isIn : service.IsIn (.settling listener due)) (moment : Nat) :
    service.dueBy moment = if due ≤ moment then service.timers else [] := by
  rw [isIn.dueBy_eq]
  cases isIn
  split
  · next settled => exact List.filter_cons_of_pos (decide_eq_true settled)
  · next early => exact List.filter_cons_of_neg (by simpa using early)

/-- When its timer goes off, a service makes one call, and has no timer any longer. -/
theorem foldl_fire {listener due : Nat} (isIn : service.IsIn (.settling listener due)) :
    service.timers.foldl fire service =
      { service with timers := [], settling := none, calls := service.calls ++ [⟨due, listener⟩] } := by
  cases isIn
  simp [fire]

theorem pass (isIn : service.IsIn phase) (delay : Nat) :
    (service.perform (.pass delay)).IsIn (phase.after service.clock (.pass delay)) ∧
      (service.perform (.pass delay)).calls = service.calls ++ phase.call service.clock (.pass delay) ∧
      (service.perform (.pass delay)).clock = service.clock + delay := by
  show WatchService.IsIn { (service.dueBy (service.clock + delay)).foldl fire service with
      clock := service.clock + delay } _ ∧
    ((service.dueBy (service.clock + delay)).foldl fire service).calls = _ ∧ _
  cases phase with
  | settling listener due =>
    rw [WatchPhase.after_settling_pass, WatchPhase.call_settling_pass, isIn.dueBy_of_settling]
    by_cases settled : due ≤ service.clock + delay
    · rw [if_pos settled, if_pos settled, if_pos settled, isIn.foldl_fire]
      cases isIn
      exact ⟨.idle, rfl, rfl⟩
    · rw [if_neg settled, if_neg settled, if_neg settled]
      cases isIn
      exact ⟨.settling, (List.append_nil _).symm, rfl⟩
  | closed =>
    rw [isIn.dueBy_eq]
    cases isIn
    exact ⟨.closed, (List.append_nil _).symm, rfl⟩
  | idle listener =>
    rw [isIn.dueBy_eq]
    cases isIn
    exact ⟨.idle, (List.append_nil _).symm, rfl⟩

/-- An event takes a service from phase to phase, and it makes the calls of the phase that it was in. -/
theorem perform (isIn : service.IsIn phase) (event : WatchEvent) :
    (service.perform event).IsIn (phase.after service.clock event) ∧
      (service.perform event).calls = service.calls ++ phase.call service.clock event ∧
      (service.perform event).clock = service.clock + event.duration := by
  cases event with
  | change =>
    cases phase with
    | closed =>
      cases isIn
      exact ⟨.closed, (List.append_nil _).symm, rfl⟩
    | _ =>
      rw [isIn.perform_change rfl]
      cases isIn
      exact ⟨.settling, (List.append_nil _).symm, rfl⟩
  | pass delay => exact isIn.pass delay
  | failure =>
    cases phase with
    | closed =>
      cases isIn
      exact ⟨.closed, (List.append_nil _).symm, rfl⟩
    | _ =>
      rw [isIn.perform_failure rfl, isIn.cleanup_eq]
      exact ⟨.closed, (List.append_nil _).symm, rfl⟩
  | cleanup =>
    show service.cleanup.IsIn _ ∧ service.cleanup.calls = _ ∧ service.cleanup.clock = _
    rw [isIn.cleanup_eq]
    cases phase <;> exact ⟨.closed, (List.append_nil _).symm, rfl⟩
  | watch listener =>
    show (service.cleanup.openWatcher listener).IsIn _ ∧ (service.cleanup.openWatcher listener).calls = _ ∧
      (service.cleanup.openWatcher listener).clock = _
    rw [isIn.cleanup_eq]
    cases phase <;> exact ⟨.idle, (List.append_nil _).symm, rfl⟩

theorem run (isIn : service.IsIn phase) (events : List WatchEvent) :
    (service.run events).IsIn (phase.run service.clock events) ∧
      (service.run events).calls = service.calls ++ phase.told service.clock events := by
  induction events generalizing service phase with
  | nil => exact ⟨isIn, (List.append_nil _).symm⟩
  | cons event rest ih =>
    obtain ⟨next, calls, clock⟩ := isIn.perform event
    have later := ih next
    rw [calls, clock, List.append_assoc] at later
    exact later

/-- After a service was cleaned up, nobody is told of anything until somebody listens and there is a change. -/
theorem calls_run_cleanup (isIn : service.IsIn phase) {events : List WatchEvent}
    (unheard : events.Pairwise fun first second => ¬ (first.isWatch = true ∧ second = .change)) :
    (service.run (.cleanup :: events)).calls = service.calls := by
  have cleaned : service.cleanup.calls = service.calls := by rw [isIn.cleanup_eq]
  show (service.cleanup.run events).calls = service.calls
  rw [(isIn.cleanup.run events).2, WatchPhase.told_eq (WatchPhase.isAhead_closed _), cleaned]
  exact (congrArg _ (WatchEvent.calls_eq_nil unheard)).trans (List.append_nil _)

end IsIn

/-- **A change is told once, when it has settled.** Whatever happens to a file, in any order and with any time in
between, no more than one timer is set for it; its listeners are told just of the changes that are listened to and
have settled, once for each of them, when it has; and once nobody is to listen nobody is told of anything until there
is a listener again and then a change. A file on a host that lets it be watched counts the same changes and has the
same timer, whatever reads of it are waiting. -/
theorem run_notifies {session : FileSession} (unwatched : session.file = .unwatched session.file.path)
    (watchable : session.watch.2 = none) :
    let service := (start session.host.clock).run
    (∀ events, (service events).timers.length ≤ 1 ∧
      (service events).calls = WatchEvent.calls session.host.clock none events) ∧
    (∀ events more, (more.Pairwise fun first second => ¬ (first.isWatch = true ∧ second = .change)) →
      (service (events ++ .cleanup :: more)).calls = (service events).calls) ∧
    ∀ events, let after := session.undergoAll events
      after.changes = session.changes + (service events).calls.length ∧
      after.file.settling.toList.map (·.due) = (service events).timers.map (·.1.due) ∧
      after.file.watcher.isSome = (service events).watcher.isSome := by
  intro service
  have isIn (events : List WatchEvent) : (service events).IsIn (WatchPhase.closed.run session.host.clock events) :=
    (IsIn.closed.run events).1
  have calls (events : List WatchEvent) :
      (service events).calls = WatchPhase.closed.told session.host.clock events :=
    (IsIn.closed.run events).2.trans (List.nil_append _)
  have sessionIn : session.IsIn session.host.clock .closed :=
    ⟨rfl, by rw [unwatched]; rfl, by rw [unwatched]; rfl, watchable⟩
  refine ⟨fun events => ⟨(isIn events).timers_length_le, ?_⟩, fun events more unheard => ?_, fun events => ?_⟩
  · rw [calls, WatchPhase.told_eq (WatchPhase.isAhead_closed _)]
    rfl
  · have parted : service (events ++ .cleanup :: more) = (service events).run (.cleanup :: more) :=
      List.foldl_append
    rw [parted]
    exact (isIn events).calls_run_cleanup unheard
  · obtain ⟨⟨clock, after⟩, changes⟩ := sessionIn.undergoAll events
    refine ⟨by rw [changes, calls], ?_, by rw [after.watcher, (isIn events).isSome_watcher]⟩
    rw [(isIn events).timers_due, ← after.due]
    cases (session.undergoAll events).file.settling <;> rfl

/-- Two changes shortly after each other, a change that is dropped when nobody is to listen any longer, and one that
another listener is told of, while a read of the file waits for its next attempt. -/
theorem run_notifies_twice :
    let waiting := ((FileSession.start (Host.start [] []) "rules.jsonc").read FileRead.defaultLimit).1
    let session := { waiting with host := waiting.host.write "rules.jsonc" "\x7b\x7d" }
    let events := [.watch 1, .change, .pass 200, .change, .pass 350, .change, .pass 299]
    let more := [.pass 400, .change, .watch 2, .pass 400]
    let all := events ++ .cleanup :: (more ++ [.change, .pass 150, .pass 150])
    let service := (start 0).run
    session.reads.length = 1 ∧
    (service events).calls = [⟨500, 1⟩] ∧ (service (events ++ .cleanup :: more)).calls = [⟨500, 1⟩] ∧
    (service all).calls = [⟨500, 1⟩, ⟨1949, 2⟩] ∧ (session.undergoAll all).changes = 2 := by
  intro waiting session events more all service
  have unheard : more.Pairwise fun first second => ¬ (first.isWatch = true ∧ second = .change) := by
    decide
  have unwatched : session.file = .unwatched session.file.path := by decide +kernel
  have watchable : session.watch.2 = none := by decide +kernel
  have clock : session.host.clock = 0 := by decide +kernel
  obtain ⟨notified, dropped, counted⟩ := run_notifies unwatched watchable
  rw [clock] at notified dropped counted
  have once : (service events).calls = [⟨500, 1⟩] := (notified events).2.trans (by decide)
  have twice : (service all).calls = [⟨500, 1⟩, ⟨1949, 2⟩] := (notified all).2.trans (by decide)
  refine ⟨by decide +kernel, once, (dropped events more unheard).trans once, twice, ?_⟩
  rw [(counted all).1, twice]
  decide +kernel

end WatchService

end Pairing
