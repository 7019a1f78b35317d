/-
**Time that passes over a file.**

While time passes, reads of a file that failed are attempted again, and each attempt may set another timer. All
timers that are due go off nevertheless, that of a change among them:

* `FileSession.SameFiles`: what the attempts of a read leave alone;
* `FileSession.workLeft_proceed`, `FileSession.workLeft_fire`: each timer that goes off leaves less work;
* `FileSession.Settles`: what the passing of time makes of a file and of its host;
* `FileSession.advance_settles`: a change settles exactly if it is due, whatever reads are waiting;
* `FileSession.undergo`, `FileSession.undergoAll`: a file undergoes events;
* `FileSession.IsIn`: a file is in a phase. `FileSession.IsIn.undergoAll` says that it goes through the phases of
  a `WatchPhase`, and counts a change for each of its calls.
-/

import Mathlib.Algebra.Order.BigOperators.Group.List
import Mathlib.Algebra.Order.Ring.Nat
import Pairing.Proofs.RulesFile.Settling
import Pairing.RulesFile.Session

namespace Pairing.FileSession

variable {session after last : FileSession} {timer : Timer} {deadline bound : Nat}

/-! ### The work that is left -/

/-- How many timers a read can still need, that of its next attempt included. -/
def readWork (entry : Timer × FileRead) : Nat :=
  entry.2.attemptsLeft + 1

theorem workLeft_eq (session : FileSession) : session.workLeft =
    (session.reads.map readWork).sum + session.file.settling.toList.length := by
  unfold workLeft
  induction session.reads with
  | nil => simp
  | cons first rest ih =>
    rw [List.foldr_cons, ih, List.map_cons, List.sum_cons, Nat.add_assoc]
    rfl

theorem sum_filter_add_le {α : Type} (work : α → Nat) (keeps : α → Bool) {entries : List α} {entry : α}
    (member : entry ∈ entries) (dropped : keeps entry = false) :
    ((entries.filter keeps).map work).sum + work entry ≤ (entries.map work).sum := by
  have parts := ((List.filter_append_perm keeps entries).map work).sum_eq
  have apart : work entry ∈ (entries.filter fun other => !keeps other).map work :=
    List.mem_map_of_mem (List.mem_filter.mpr ⟨member, by rw [dropped]; rfl⟩)
  have counted := List.single_le_sum (fun _ _ => Nat.zero_le _) _ apart
  rw [List.map_append, List.sum_append] at parts
  omega

/-- The file, what was counted of it, and the files of the host are the same. -/
structure SameFiles (session after : FileSession) : Prop where
  file : after.file = session.file
  changes : after.changes = session.changes
  files : after.host.files = session.host.files
  unwatchable : after.host.unwatchable = session.host.unwatchable

theorem sameFiles_proceed (session : FileSession) (read : FileRead) :
    session.SameFiles (session.proceed read).1 := by
  unfold proceed
  split <;> exact ⟨rfl, rfl, rfl, rfl⟩

theorem sameFiles_fire_read (session : FileSession) (timer : Timer) (read : FileRead) :
    session.SameFiles (session.fire timer (.read read)).1 := by
  obtain ⟨file, changes, files, unwatchable⟩ := sameFiles_proceed
    { session with
      host := { session.host with clock := timer.due }
      reads := session.reads.filter (·.1 != timer) } read
  exact ⟨file, changes, files, unwatchable⟩

/-- An attempt of a read uses up one of those that were left for it. -/
theorem workLeft_proceed (session : FileSession) (read : FileRead) :
    (session.proceed read).1.workLeft ≤ session.workLeft + read.attemptsLeft := by
  unfold proceed
  split
  · next delay next waits =>
    have fewer := FileRead.attemptsLeft_lt_of_waits waits
    simp only [workLeft_eq, List.map_append, List.sum_append, List.map_cons, List.map_nil, List.sum_cons,
      List.sum_nil, readWork]
    omega
  · exact Nat.le_add_right _ _

/-! ### Timers that go off -/

theorem mem_reads_of_mem_timers {read : FileRead} (armed : (timer, .read read) ∈ session.timers) :
    (timer, read) ∈ session.reads := by
  rcases List.mem_append.mp armed with isRead | settles
  · obtain ⟨entry, member, same⟩ := List.mem_map.mp isRead
    cases same
    exact member
  · obtain ⟨other, -, same⟩ := List.mem_map.mp settles
    cases same

theorem settle_mem_timers_iff : (timer, .settle) ∈ session.timers ↔ session.file.settling = some timer := by
  unfold timers
  simp

theorem workLeft_fire {purpose : FileTimer} (armed : (timer, purpose) ∈ session.timers) :
    (session.fire timer purpose).1.workLeft < session.workLeft := by
  cases purpose with
  | read read =>
    have member := mem_reads_of_mem_timers armed
    have dropped : ((timer, read).1 != timer) = false := bne_self_eq_false timer
    have left := sum_filter_add_le readWork (fun entry => entry.1 != timer) member dropped
    refine Nat.lt_of_le_of_lt (workLeft_proceed _ read) ?_
    rw [workLeft_eq, workLeft_eq]
    simp only [readWork] at left ⊢
    omega
  | settle =>
    rw [workLeft_eq, workLeft_eq, settle_mem_timers_iff.mp armed]
    simp [fire, RulesFile.settled]

/-- Whether a change of a file has settled by a moment. -/
def isSettledBy (session : FileSession) (deadline : Nat) : Bool :=
  session.file.settling.any (·.due ≤ deadline)

/-- What the passing of time makes of a file and of its host. -/
structure Settles (deadline : Nat) (session after : FileSession) : Prop where
  file : after.file = if session.isSettledBy deadline then session.file.settled else session.file
  changes : after.changes = session.changes + if session.isSettledBy deadline then 1 else 0
  files : after.host.files = session.host.files
  unwatchable : after.host.unwatchable = session.host.unwatchable

theorem Settles.of_sameFiles (same : session.SameFiles after) (settles : after.Settles deadline last) :
    session.Settles deadline last := by
  have sameSettled : after.isSettledBy deadline = session.isSettledBy deadline := by
    unfold isSettledBy
    rw [same.file]
  obtain ⟨file, changes, files, unwatchable⟩ := settles
  rw [sameSettled, same.file] at file
  rw [sameSettled, same.changes] at changes
  exact ⟨file, changes, files.trans same.files, unwatchable.trans same.unwatchable⟩

theorem Settles.of_early (early : session.isSettledBy deadline = false) :
    session.Settles deadline session := by
  refine ⟨?_, ?_, rfl, rfl⟩ <;> rw [early] <;> rfl

/-- Once the timer of a change has gone off, no more time makes a difference to the file. -/
theorem Settles.of_settled (settling : session.file.settling = some timer) (due : timer.due ≤ deadline)
    (settles : (session.fire timer .settle).1.Settles deadline last) : session.Settles deadline last := by
  have isSettled : session.isSettledBy deadline = true := by
    unfold isSettledBy
    rw [settling]
    exact decide_eq_true due
  obtain ⟨file, changes, files, unwatchable⟩ := settles
  refine ⟨?_, ?_, files, unwatchable⟩
  · rw [isSettled]
    exact file
  · rw [isSettled]
    exact changes

/-- All timers up to a moment go off, however many attempts of reads there are among them. -/
theorem fireUntil_settles (enough : session.workLeft ≤ bound) :
    session.Settles deadline (fireUntil deadline bound session).1 := by
  induction bound generalizing session with
  | zero =>
    refine .of_early ?_
    rw [workLeft_eq] at enough
    have idle : session.file.settling = none := by
      cases settling : session.file.settling with
      | none => rfl
      | some timer =>
        rw [settling] at enough
        simp at enough
    unfold isSettledBy
    rw [idle]
    rfl
  | succ bound ih =>
    unfold fireUntil
    split
    · next noTimers =>
      have unarmed (timer : Timer) : session.file.settling ≠ some timer := fun settling => by
        have armed := settle_mem_timers_iff.mpr settling
        rw [Timer.earliest?_eq_none_iff.mp noTimers] at armed
        cases armed
      refine .of_early ?_
      unfold isSettledBy
      rw [Option.eq_none_iff_forall_ne_some.mpr unarmed]
      rfl
    · next timer purpose earliest =>
      have armed := Timer.mem_of_earliest? earliest
      split
      · next due =>
        have left : (session.fire timer purpose).1.workLeft ≤ bound := by
          have less := workLeft_fire armed
          omega
        have settles := ih left
        cases purpose with
        | read read => exact .of_sameFiles (sameFiles_fire_read session timer read) settles
        | settle => exact .of_settled (settle_mem_timers_iff.mp armed) due settles
      · next late =>
        -- The change is due no earlier than the first of all timers.
        refine .of_early ?_
        unfold isSettledBy
        cases settling : session.file.settling with
        | none => rfl
        | some other =>
          have first : timer.precedes other :=
            Timer.precedes_of_earliest? earliest _ (settle_mem_timers_iff.mpr settling)
          rw [Timer.precedes_iff] at first
          exact decide_eq_false (by omega)

/-- When time passes, a change settles exactly if it is due, whatever reads are waiting. -/
theorem advance_settles (session : FileSession) (delay : Nat) :
    session.Settles (session.host.clock + delay) (session.advance delay).1 := by
  obtain ⟨file, changes, files, unwatchable⟩ : session.Settles (session.host.clock + delay)
    (fireUntil (session.host.clock + delay) session.workLeft session).1 := fireUntil_settles (Nat.le_refl _)
  exact ⟨file, changes, files, unwatchable⟩

/-! ### Files that undergo events -/

/-- A file undergoes an event. -/
def undergo (session : FileSession) : WatchEvent → FileSession
  | .change => session.noticeChange session.file.path
  | .pass delay => (session.advance delay).1
  | .failure => session.noticeFailure session.file.path
  | .cleanup => session.cleanup
  | .watch _ => session.watch.1

/-- A file undergoes several events. -/
def undergoAll (session : FileSession) (events : List WatchEvent) : FileSession :=
  events.foldl undergo session

/-- The host lets the file be watched. -/
def IsWatchable (session : FileSession) : Prop :=
  session.watch.2 = none

theorem isWatchable_iff : session.IsWatchable ↔
    (session.host.content? session.file.path).isSome = true ∧ session.file.path ∉ session.host.unwatchable := by
  unfold IsWatchable watch RulesFile.startWatching Host.openWatcher
  by_cases lets : (session.host.content? session.file.path).isSome &&
    !session.host.unwatchable.contains session.file.path
  · rw [if_pos lets]
    simpa using lets
  · rw [if_neg lets]
    simpa using lets

theorem IsWatchable.watch_eq (watchable : session.IsWatchable) : session.watch.1 =
    { session with
      file := session.file.watch session.host.watchers.length
      host := { session.host with watchers := session.host.watchers ++ [session.file.path] } } := by
  have lets := isWatchable_iff.mp watchable
  unfold watch RulesFile.startWatching Host.openWatcher
  rw [if_pos (by simpa using lets)]

theorem IsWatchable.of_same (watchable : session.IsWatchable) (path : after.file.path = session.file.path)
    (files : after.host.files = session.host.files)
    (unwatchable : after.host.unwatchable = session.host.unwatchable) : after.IsWatchable := by
  rw [isWatchable_iff] at watchable ⊢
  unfold Host.content? at watchable ⊢
  rwa [path, files, unwatchable]

theorem isWatchedAt_path (file : RulesFile) : file.isWatchedAt file.path = file.watcher.isSome := by
  unfold RulesFile.isWatchedAt
  rw [beq_self_eq_true, Bool.and_true]

/-- A change of a file that is watched sets a timer for it. -/
theorem noticeChange_of_watched (watched : session.file.watcher.isSome = true) :
    session.noticeChange session.file.path =
      { session with
        file := { session.file with
          settling := some ⟨session.host.clock + RulesFile.settleDelay, session.host.timersSet⟩ }
        host := { session.host with timersSet := session.host.timersSet + 1 } } := by
  unfold noticeChange RulesFile.noticeChange
  rw [isWatchedAt_path, if_pos watched]
  dsimp only [Host.arm]
  unfold RulesFile.changed
  rw [if_pos watched]

theorem noticeChange_of_unwatched (unwatched : session.file.watcher.isSome = false) :
    session.noticeChange session.file.path = session := by
  unfold noticeChange RulesFile.noticeChange
  rw [isWatchedAt_path, unwatched]
  rfl

/-- Watching a file is given up when it fails. -/
theorem noticeFailure_eq (session : FileSession) : session.noticeFailure session.file.path =
    if session.file.watcher.isSome then session.cleanup else session := by
  unfold noticeFailure RulesFile.noticeFailure
  rw [isWatchedAt_path]
  split <;> rfl

/-- At a moment, a file that can be watched is in a phase. -/
structure IsIn (session : FileSession) (clock : Nat) (phase : WatchPhase) : Prop where
  clock : session.host.clock = clock
  watcher : session.file.watcher.isSome = phase.listener?.isSome
  due : session.file.settling.map (·.due) = phase.due?
  watchable : session.IsWatchable

namespace IsIn

variable {clock : Nat} {phase : WatchPhase}

theorem change (isIn : session.IsIn clock phase) :
    (session.undergo .change).IsIn clock (phase.after clock .change) ∧
      (session.undergo .change).changes = session.changes := by
  have watchable := isIn.watchable
  cases phase with
  | closed =>
    show (session.noticeChange session.file.path).IsIn _ _ ∧ _
    rw [undergo, noticeChange_of_unwatched isIn.watcher]
    exact ⟨isIn, rfl⟩
  | _ =>
    rw [undergo, noticeChange_of_watched isIn.watcher]
    refine ⟨⟨isIn.clock, isIn.watcher, ?_, watchable.of_same rfl rfl rfl⟩, rfl⟩
    rw [isIn.clock]
    rfl

theorem cleanup (isIn : session.IsIn clock phase) : session.cleanup.IsIn clock .closed :=
  ⟨isIn.clock, rfl, rfl, isIn.watchable.of_same rfl rfl rfl⟩

theorem failure (isIn : session.IsIn clock phase) :
    (session.undergo .failure).IsIn clock .closed ∧ (session.undergo .failure).changes = session.changes := by
  rw [undergo, noticeFailure_eq]
  split
  · exact ⟨isIn.cleanup, rfl⟩
  · next unwatched =>
    cases phase with
    | closed => exact ⟨isIn, rfl⟩
    | _ => exact absurd isIn.watcher unwatched

theorem watch (isIn : session.IsIn clock phase) (listener : Nat) :
    (session.undergo (.watch listener)).IsIn clock (.idle listener) ∧
      (session.undergo (.watch listener)).changes = session.changes := by
  rw [undergo, isIn.watchable.watch_eq]
  exact ⟨⟨isIn.clock, rfl, rfl, isIn.watchable.of_same rfl rfl rfl⟩, rfl⟩

theorem isSettledBy_eq (isIn : session.IsIn clock phase) (deadline : Nat) :
    session.isSettledBy deadline = phase.due?.any (· ≤ deadline) := by
  rw [← isIn.due, Option.any_map]
  rfl

theorem pass (isIn : session.IsIn clock phase) (delay : Nat) :
    (session.undergo (.pass delay)).IsIn (clock + delay) (phase.after clock (.pass delay)) ∧
      (session.undergo (.pass delay)).changes = session.changes + (phase.call clock (.pass delay)).length := by
  obtain ⟨file, changes, files, unwatchable⟩ := advance_settles session delay
  have samePath : (session.advance delay).1.file.path = session.file.path := by
    rw [file]
    split <;> rfl
  have watcher : (session.advance delay).1.file.watcher.isSome = phase.listener?.isSome := by
    rw [← isIn.watcher, file]
    split <;> rfl
  have watchable : (session.advance delay).1.IsWatchable := isIn.watchable.of_same samePath files unwatchable
  have atClock : (session.advance delay).1.host.clock = clock + delay := congrArg (· + delay) isIn.clock
  rw [isIn.clock, isIn.isSettledBy_eq] at file changes
  rw [undergo]
  cases phase with
  | settling listener due =>
    rw [WatchPhase.after_settling_pass, WatchPhase.call_settling_pass]
    by_cases settled : due ≤ clock + delay
    · have isDue : (WatchPhase.settling listener due).due?.any (· ≤ clock + delay) = true := decide_eq_true settled
      rw [isDue] at file changes
      rw [if_pos settled, if_pos settled]
      exact ⟨⟨atClock, watcher, by rw [file]; rfl, watchable⟩, changes⟩
    · have isEarly : (WatchPhase.settling listener due).due?.any (· ≤ clock + delay) = false :=
        decide_eq_false settled
      rw [isEarly] at file changes
      rw [if_neg settled, if_neg settled]
      exact ⟨⟨atClock, watcher, by rw [file]; exact isIn.due, watchable⟩, changes⟩
  | _ => exact ⟨⟨atClock, watcher, by rw [file]; exact isIn.due, watchable⟩, changes⟩

/-- An event takes a file from phase to phase, and a change is counted for each call. -/
theorem undergo (isIn : session.IsIn clock phase) (event : WatchEvent) :
    (session.undergo event).IsIn (clock + event.duration) (phase.after clock event) ∧
      (session.undergo event).changes = session.changes + (phase.call clock event).length := by
  cases event with
  | pass delay => exact isIn.pass delay
  | change =>
    have changed := isIn.change
    cases phase <;> exact changed
  | failure =>
    have failed := isIn.failure
    cases phase <;> exact failed
  | cleanup =>
    have cleaned := isIn.cleanup
    cases phase <;> exact ⟨cleaned, rfl⟩
  | watch listener =>
    have watched := isIn.watch listener
    cases phase <;> exact watched

theorem undergoAll (isIn : session.IsIn clock phase) (events : List WatchEvent) :
    (∃ last, (session.undergoAll events).IsIn last (phase.run clock events)) ∧
      (session.undergoAll events).changes = session.changes + (phase.told clock events).length := by
  induction events generalizing session clock phase with
  | nil => exact ⟨⟨clock, isIn⟩, rfl⟩
  | cons event rest ih =>
    obtain ⟨next, counted⟩ := isIn.undergo event
    obtain ⟨last, all⟩ := ih next
    refine ⟨last, all.trans ?_⟩
    rw [counted, WatchPhase.told, List.length_append, Nat.add_assoc]

end IsIn

end Pairing.FileSession
