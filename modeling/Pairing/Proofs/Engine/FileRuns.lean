/-
**What a session does with files.**

A session reads files as far as it can at once, and goes on when its timers go off. All of this is made of
the single events in which files act on an engine, so what holds after every order of those events holds
of every session:

* `FileActivity.Reaches`, `FileActivity.Continues`: some events lead from one state to another, the latter
  without asking for a file;
* `FileActivity.Holds`: several works, each under a number of its own;
* `FileActivity.Mirrors`: the engine and the host are those of a session, and each of its reads is a work
  that waits for its delay;
* `FileActivity.Mirrors.proceed`, `FileActivity.Mirrors.finish`, `FileActivity.Mirrors.fire`: each step of a
  session is some events;
* `Session.FileCall`, `Session.performFile`, `Session.performFiles`: what happens to a session.

`Session.exists_mirrors` puts this together, and `Session.performFiles_onlyCurrentActs` is what follows for
the files of a session.
-/

import Pairing.Proofs.Engine.CurrentFile
import Pairing.Proofs.Engine.Notes

namespace Pairing

namespace Session

variable {session : Session} {timer : Timer} {purpose : EngineTimer}

/-! ### Timers of a session -/

/-- A timer of a change belongs to a file that has it. -/
theorem settling_of_mem {files : List RulesFile} {start : Nat}
    (armed : (timer, purpose) ∈ settling start files) :
    ∃ later file, purpose = .settle (start + later) ∧ files[later]? = some file ∧
      file.settling = some timer := by
  induction files generalizing start with
  | nil => cases armed
  | cons first rest ih =>
    rcases List.mem_append.mp armed with here | behind
    · obtain ⟨_, set, same⟩ := List.mem_map.mp here
      cases same
      exact ⟨0, first, rfl, rfl, Option.mem_toList.mp set⟩
    · obtain ⟨later, file, rfl, place, set⟩ := ih behind
      exact ⟨later + 1, file, congrArg EngineTimer.settle (by omega), place, set⟩

/-- What a timer of a session is for. -/
theorem purpose_of_mem (armed : (timer, purpose) ∈ session.timers) :
    (∃ task, purpose = .read task ∧ (timer, task) ∈ session.tasks) ∨
      ∃ number path watcher, purpose = .settle number ∧
        session.engine.files[number]? = some ⟨path, watcher, some timer⟩ := by
  rcases List.mem_append.mp armed with read | settles
  · obtain ⟨⟨_, task⟩, member, same⟩ := List.mem_map.mp read
    cases same
    exact Or.inl ⟨task, rfl, member⟩
  · obtain ⟨number, ⟨path, watcher, settling⟩, rfl, place, set⟩ := settling_of_mem settles
    obtain rfl : settling = some timer := set
    exact Or.inr ⟨0 + number, path, watcher, rfl, by rwa [Nat.zero_add]⟩

end Session

namespace FileActivity

variable {activity next : FileActivity} {session : Session} {more : List (Nat × FileWork)}

/-! ### Several works -/

/-- Some events lead from one state to another. -/
def Reaches (activity next : FileActivity) : Prop :=
  ∃ events, activity.run events = next

/-- A file is asked for. -/
def Event.isRequest : Event → Bool
  | .request _ => true
  | _ => false

/-- Some events lead from one state to another, and none of them asks for a file. -/
def Continues (activity next : FileActivity) : Prop :=
  ∃ events, (∀ event ∈ events, event.isRequest = false) ∧ activity.run events = next

theorem Reaches.refl (activity : FileActivity) : activity.Reaches activity :=
  ⟨[], rfl⟩

theorem reaches_after (activity : FileActivity) (event : Event) :
    activity.Reaches (activity.after event) :=
  ⟨[event], rfl⟩

theorem Reaches.trans {last : FileActivity} (first : activity.Reaches next) (second : next.Reaches last) :
    activity.Reaches last := by
  obtain ⟨events, rfl⟩ := first
  obtain ⟨others, rfl⟩ := second
  exact ⟨events ++ others, List.foldl_append⟩

theorem Continues.reaches (continues : activity.Continues next) : activity.Reaches next :=
  let ⟨events, _, reached⟩ := continues
  ⟨events, reached⟩

theorem Continues.refl (activity : FileActivity) : activity.Continues activity :=
  ⟨[], List.forall_mem_nil _, rfl⟩

theorem continues_after (activity : FileActivity) (event : Event) (asksForNone : event.isRequest = false) :
    activity.Continues (activity.after event) :=
  ⟨[event], List.forall_mem_singleton.mpr asksForNone, rfl⟩

theorem Continues.trans {last : FileActivity} (first : activity.Continues next)
    (second : next.Continues last) : activity.Continues last := by
  obtain ⟨events, askForNone, rfl⟩ := first
  obtain ⟨others, othersAskForNone, rfl⟩ := second
  exact ⟨events ++ others, List.forall_mem_append.mpr ⟨askForNone, othersAskForNone⟩, List.foldl_append⟩

theorem Continues.rules_eq (continues : activity.Continues next) (noCurrent : activity.engine.current = none) :
    next.engine.rules = activity.engine.rules := by
  obtain ⟨events, askForNone, rfl⟩ := continues
  refine rules_run noCurrent fun request member => ?_
  have asks := askForNone (.request request) member
  cases asks

/-- Works stand each under a number of its own. -/
def Holds (activity : FileActivity) (entries : List (Nat × FileWork)) : Prop :=
  (entries.map (·.1)).Nodup ∧ ∀ entry ∈ entries, activity.works[entry.1]? = some entry.2

namespace Holds

variable {entries others : List (Nat × FileWork)} {number : Nat} {work : FileWork}

theorem of_works (holds : activity.Holds entries) (same : next.works = activity.works) :
    next.Holds entries := by
  refine ⟨holds.1, fun entry member => ?_⟩
  rw [same]
  exact holds.2 entry member

theorem perm (holds : activity.Holds entries) (same : entries.Perm others) : activity.Holds others :=
  ⟨(same.map _).nodup_iff.mp holds.1, fun entry member => holds.2 entry (same.mem_iff.mpr member)⟩

theorem sublist (holds : activity.Holds entries) (fewer : others.Sublist entries) :
    activity.Holds others :=
  ⟨(fewer.map _).nodup holds.1, fun entry member => holds.2 entry (fewer.subset member)⟩

/-- One of the works goes on. -/
theorem setWork (holds : activity.Holds ((number, work) :: entries)) (goesOn : FileWork)
    (moved : next.works = (activity.setWork number goesOn).works) :
    next.Holds ((number, goesOn) :: entries) := by
  obtain ⟨distinct, places⟩ := holds
  refine ⟨distinct, fun entry member => ?_⟩
  rw [moved]
  rcases List.mem_cons.mp member with rfl | member
  · exact getElem?_setWork_self (places (number, work) List.mem_cons_self) goesOn
  · have different : number ≠ entry.1 := fun same =>
      (List.nodup_cons.mp distinct).1 (List.mem_map.mpr ⟨entry, member, same.symm⟩)
    rw [getElem?_setWork_ne different]
    exact places entry (List.mem_cons_of_mem _ member)

/-- Another work is begun. -/
theorem append (holds : activity.Holds entries) (begun : next.works = activity.works ++ [work]) :
    next.Holds ((activity.works.length, work) :: entries) := by
  obtain ⟨distinct, places⟩ := holds
  have inside (entry : Nat × FileWork) (member : entry ∈ entries) : entry.1 < activity.works.length :=
    (List.getElem?_eq_some_iff.mp (places entry member)).1
  refine ⟨List.nodup_cons.mpr ⟨fun member => ?_, distinct⟩, fun entry member => ?_⟩
  · obtain ⟨entry, place, same⟩ := List.mem_map.mp member
    exact absurd (inside entry place) (by rw [same]; exact Nat.lt_irrefl _)
  · rw [begun]
    rcases List.mem_cons.mp member with rfl | member
    · exact List.getElem?_concat_length
    · rw [List.getElem?_append_left (inside entry member)]
      exact places entry member

end Holds

/-! ### Mirrors of a session -/

/-- A read that waits for its delay, as work. -/
def delayedWork (entry : Nat × Timer × FileTask) : Nat × FileWork :=
  (entry.1, ⟨entry.2.2, .delayed⟩)

/-- A read that is under way, as work. -/
def attemptedWork (entry : Nat × FileTask) : Nat × FileWork :=
  (entry.1, ⟨entry.2, .attempting⟩)

/-- A file that was read, as work. -/
def readWork (entry : Nat × FileTask × FileText) : Nat × FileWork :=
  (entry.1, ⟨entry.2.1, .read entry.2.2⟩)

/-- The engine and the host are those of a session, and each read that waits in it is a work of its own.
There is more work that a step of the session is about. -/
structure Mirrors (activity : FileActivity) (session : Session) (more : List (Nat × FileWork)) : Prop where
  engine : activity.engine = session.engine
  host : activity.host = session.host
  works : ∃ entries : List (Nat × Timer × FileTask), entries.map (·.2) = session.tasks ∧
    activity.Holds (entries.map delayedWork ++ more)

namespace Mirrors

theorem perm {others : List (Nat × FileWork)} (mirrors : activity.Mirrors session more)
    (same : more.Perm others) : activity.Mirrors session others := by
  obtain ⟨entries, tasks, holds⟩ := mirrors.works
  exact ⟨mirrors.engine, mirrors.host, entries, tasks, holds.perm (same.append_left _)⟩

theorem sublist {others : List (Nat × FileWork)} (mirrors : activity.Mirrors session more)
    (fewer : others.Sublist more) : activity.Mirrors session others := by
  obtain ⟨entries, tasks, holds⟩ := mirrors.works
  exact ⟨mirrors.engine, mirrors.host, entries, tasks, holds.sublist (fewer.append_left _)⟩

theorem place {number : Nat} {work : FileWork}
    (mirrors : activity.Mirrors session ((number, work) :: more)) :
    activity.works[number]? = some work := by
  obtain ⟨entries, _, holds⟩ := mirrors.works
  exact holds.2 (number, work) (List.mem_append_right _ List.mem_cons_self)

/-- Taking notes changes nothing that is mirrored. -/
theorem note (mirrors : activity.Mirrors session more) (notes : List (Note Unit)) :
    activity.Mirrors (session.note notes) more := by
  obtain ⟨log, noted⟩ := session.note_eq notes
  rw [noted]
  exact ⟨mirrors.engine, mirrors.host, mirrors.works⟩

/-- One of the works goes on, and the engine and the host with it. -/
theorem setWork {number : Nat} {work : FileWork} {after : Session}
    (mirrors : activity.Mirrors session ((number, work) :: more)) (goesOn : FileWork)
    (moved : next.works = (activity.setWork number goesOn).works) (engine : next.engine = after.engine)
    (host : next.host = after.host) (tasks : after.tasks = session.tasks) :
    next.Mirrors after ((number, goesOn) :: more) := by
  obtain ⟨entries, same, holds⟩ := mirrors.works
  refine ⟨engine, host, entries, same.trans tasks.symm, ?_⟩
  exact ((holds.perm List.perm_middle).setWork goesOn moved).perm List.perm_middle.symm

/-- One of the works goes on to its end. -/
theorem closeWork {number : Nat} {work : FileWork} {after : Session}
    (mirrors : activity.Mirrors session ((number, work) :: more)) (ended : FileWork)
    (moved : next.works = (activity.setWork number ended).works) (engine : next.engine = after.engine)
    (host : next.host = after.host) (tasks : after.tasks = session.tasks) : next.Mirrors after more :=
  (mirrors.setWork ended moved engine host tasks).sublist (List.sublist_cons_self _ more)

/-- Work is begun. -/
theorem beginWork {work : FileWork} {after : Session} (mirrors : activity.Mirrors session more)
    (begun : next.works = activity.works ++ [work]) (engine : next.engine = after.engine)
    (host : next.host = after.host) (tasks : after.tasks = session.tasks) :
    next.Mirrors after ((activity.works.length, work) :: more) := by
  obtain ⟨entries, same, holds⟩ := mirrors.works
  exact ⟨engine, host, entries, same.trans tasks.symm, (holds.append begun).perm List.perm_middle.symm⟩

/-- A read that waited for its delay goes on. All reads with its timer are taken off the list. -/
theorem resumeWork {timer : Timer} {task : FileTask} (mirrors : activity.Mirrors session more)
    (waits : (timer, task) ∈ session.tasks) :
    ∃ next, activity.Continues next ∧ ∃ number,
      next.Mirrors { session with tasks := session.tasks.filter (·.1 != timer) }
        ((number, ⟨task, .attempting⟩) :: more) := by
  obtain ⟨entries, same, holds⟩ := mirrors.works
  rw [← same] at waits
  obtain ⟨⟨number, _⟩, member, rfl⟩ := List.mem_map.mp waits
  have elapses := activity.continues_after (.elapse number) rfl
  have place := holds.2 _ (List.mem_append_left _ (List.mem_map_of_mem member))
  simp only [delayedWork] at place
  simp only [FileActivity.after, place] at elapses
  refine ⟨_, elapses, number, mirrors.engine, mirrors.host,
    entries.filter (·.2.1 != timer), ?_, ?_⟩
  · rw [← same, List.filter_map]
    rfl
  · obtain ⟨before, later, rfl⟩ := List.append_of_mem member
    -- The work that goes on is none of those that still wait.
    have others : (before ++ (number, timer, task) :: later).filter (·.2.1 != timer) =
        (before ++ later).filter (·.2.1 != timer) := by
      rw [List.filter_append, List.filter_append, List.filter_cons_of_neg (by simp)]
    rw [others]
    have goesOn := (holds.perm ((List.perm_middle.map _).append_right _)).setWork ⟨task, .attempting⟩ rfl
    have fewer := (List.filter_sublist (p := (·.2.1 != timer)) (l := before ++ later)).map delayedWork
    exact (goesOn.sublist ((fewer.append_right more).cons_cons _)).perm List.perm_middle.symm

/-- A change of a file has settled, so the file is read again. -/
theorem settleWork {number : Nat} {path : Text} {watcher : Option Nat} {timer : Timer}
    (mirrors : activity.Mirrors session more)
    (place : session.engine.files[number]? = some ⟨path, watcher, some timer⟩) :
    ∃ next, activity.Continues next ∧ ∃ begun,
      next.Mirrors { session with engine := session.engine.modifyFile number RulesFile.settled }
        ((begun, ⟨.ofChange number ⟨path, watcher, none⟩, .attempting⟩) :: more) := by
  have settles := activity.continues_after (.settle number) rfl
  rw [← mirrors.engine] at place
  simp only [FileActivity.after, place] at settles
  refine ⟨_, settles, activity.works.length, ?_⟩
  exact mirrors.beginWork rfl (congrArg (·.modifyFile number RulesFile.settled) mirrors.engine)
    mirrors.host rfl

/-! ### Steps of a session -/

/-- An attempt to read a file ends the read, or lets it wait for the next one. -/
theorem proceed {number : Nat} {task : FileTask}
    (mirrors : activity.Mirrors session ((number, ⟨task, .attempting⟩) :: more)) :
    ∃ (next : FileActivity) (reads : List (Nat × FileTask × FileText)), activity.Continues next ∧
      next.Mirrors (session.proceed task).1 (reads.map readWork ++ more) ∧
      reads.map (·.2) = (session.proceed task).2.toList := by
  have attempt := activity.continues_after (.attempt number (session.host.read task.read.path)) rfl
  simp only [FileActivity.after, mirrors.place, attempted] at attempt
  obtain ⟨log, noted⟩ := session.note_eq (task.read.notes (session.host.read task.read.path))
  unfold Session.proceed
  dsimp only
  rw [noted]
  cases progress : task.read.proceed (session.host.read task.read.path) with
  | finished text =>
    rw [progress] at attempt
    exact ⟨_, [(number, task, text)], attempt,
      mirrors.setWork _ rfl mirrors.engine mirrors.host rfl, rfl⟩
  | waits delay nextRead =>
    rw [progress] at attempt
    have waits := attempt.trans (continues_after _ (.proceed (session.host.arm delay).2) rfl)
    refine ⟨_, [], waits, ?_, rfl⟩
    obtain ⟨entries, same, holds⟩ := mirrors.works
    have goesOn := (holds.perm List.perm_middle).setWork ⟨{ task with read := nextRead }, .delayed⟩ rfl
    refine ⟨mirrors.engine, rfl,
      entries ++ [(number, (session.host.arm delay).1, { task with read := nextRead })], ?_, ?_⟩
    · rw [List.map_append, same]
      rfl
    · rw [List.map_append, List.append_assoc]
      exact (goesOn.perm List.perm_middle.symm).of_works rfl

/-- The engine goes on with a file that was read. -/
theorem finish {number : Nat} {task : FileTask} {text : FileText}
    (mirrors : activity.Mirrors session ((number, ⟨task, .read text⟩) :: more)) :
    ∃ next, activity.Continues next ∧ next.Mirrors (session.finish task text).1 more := by
  have uses := activity.continues_after (.use number) rfl
  simp only [FileActivity.after, mirrors.place, useText, mirrors.engine] at uses
  unfold Session.finish
  dsimp only
  generalize session.engine.finishRead task.file task.read.path text = ends at uses ⊢
  obtain ⟨engine, outcome⟩ := ends
  have used : Mirrors ({ activity with engine := engine }.setWork number ⟨task, .used outcome⟩)
      { session with engine := engine } ((number, ⟨task, .used outcome⟩) :: more) :=
    mirrors.setWork _ rfl rfl mirrors.host rfl
  replace used := used.note (engine.rules.fileNotes task.read.path outcome)
  generalize { session with engine := engine }.note (engine.rules.fileNotes task.read.path outcome) =
    noted at used ⊢
  have answers := uses.trans (continues_after _ (.answer number) rfl)
  simp only [FileActivity.after, used.place, answerRequest, used.engine, used.host] at answers
  by_cases watches : task.watches = true
  · rw [if_pos watches] at answers ⊢
    refine ⟨_, answers, Mirrors.note ?_ _⟩
    exact used.closeWork _ rfl rfl rfl rfl
  · rw [if_neg watches] at answers ⊢
    exact ⟨_, answers, used.closeWork _ rfl used.engine used.host rfl⟩

/-- Several attempts, one after the other. -/
theorem proceedAll {attempts : List (Nat × FileTask)}
    (mirrors : activity.Mirrors session (attempts.map attemptedWork ++ more)) :
    ∃ (next : FileActivity) (reads : List (Nat × FileTask × FileText)), activity.Continues next ∧
      next.Mirrors (session.proceedAll (attempts.map (·.2))).1 (reads.map readWork ++ more) ∧
      reads.map (·.2) = (session.proceedAll (attempts.map (·.2))).2 := by
  induction attempts generalizing activity session more with
  | nil => exact ⟨activity, [], .refl activity, mirrors, rfl⟩
  | cons attempt rest ih =>
    obtain ⟨between, first, reached, firstMirrors, firstReads⟩ := mirrors.proceed
    -- What was read first stays aside while the rest is attempted.
    have aside := firstMirrors.perm (List.perm_append_comm_assoc _ _ _)
    obtain ⟨next, reads, reachedNext, nextMirrors, nextReads⟩ := ih aside
    refine ⟨next, first ++ reads, reached.trans reachedNext, ?_, ?_⟩
    · rw [List.map_append, List.append_assoc]
      exact nextMirrors.perm (List.perm_append_comm_assoc _ _ _)
    · rw [List.map_append, firstReads, nextReads]
      rfl

/-- The engine goes on with several files that were read, one after the other. -/
theorem finishAll {reads : List (Nat × FileTask × FileText)}
    (mirrors : activity.Mirrors session (reads.map readWork ++ more)) :
    ∃ next, activity.Continues next ∧
      next.Mirrors (session.finishAll (reads.map (·.2))).1 more := by
  induction reads generalizing activity session with
  | nil => exact ⟨activity, .refl activity, mirrors⟩
  | cons read rest ih =>
    obtain ⟨between, reached, betweenMirrors⟩ := mirrors.finish
    obtain ⟨next, reachedNext, nextMirrors⟩ := ih betweenMirrors
    exact ⟨next, reached.trans reachedNext, nextMirrors⟩

theorem run {attempts : List (Nat × FileTask)}
    (mirrors : activity.Mirrors session (attempts.map attemptedWork)) :
    ∃ next, activity.Continues next ∧ next.Mirrors (session.run (attempts.map (·.2))).1 [] := by
  rw [← List.append_nil (attempts.map attemptedWork)] at mirrors
  obtain ⟨between, reads, reached, betweenMirrors, sameReads⟩ := mirrors.proceedAll
  obtain ⟨next, reachedNext, nextMirrors⟩ := betweenMirrors.finishAll
  refine ⟨next, reached.trans reachedNext, ?_⟩
  rw [sameReads] at nextMirrors
  exact nextMirrors

/-- Several files are opened, one after the other. -/
theorem openFiles {requests : List FileRequest} (mirrors : activity.Mirrors session more) :
    ∃ (next : FileActivity) (attempts : List (Nat × FileTask)), activity.Reaches next ∧
      next.Mirrors (session.openFiles requests).1 (attempts.map attemptedWork ++ more) ∧
      attempts.map (·.2) = (session.openFiles requests).2 := by
  induction requests generalizing activity session more with
  | nil => exact ⟨activity, [], .refl activity, mirrors, rfl⟩
  | cons request rest ih =>
    let task := FileTask.ofRequest session.engine.files.length request
    have begun : (activity.after (.request request)).works =
        activity.works ++ [⟨task, .attempting⟩] := by
      show activity.works ++ [_] = _
      rw [mirrors.engine]
    have opened : (activity.after (.request request)).Mirrors
        { session with engine := session.engine.openFile request.path }
        ((activity.works.length, ⟨task, .attempting⟩) :: more) :=
      mirrors.beginWork begun (congrArg (·.openFile request.path) mirrors.engine) mirrors.host rfl
    obtain ⟨next, attempts, reached, nextMirrors, sameTasks⟩ := ih opened
    refine ⟨next, (activity.works.length, task) :: attempts, (reaches_after _ _).trans reached, ?_, ?_⟩
    · exact nextMirrors.perm List.perm_middle
    · rw [List.map_cons, sameTasks]
      rfl

theorem loadFiles (mirrors : activity.Mirrors session []) (requests : List FileRequest) :
    ∃ next, activity.Reaches next ∧ next.Mirrors (session.loadFiles requests).1 [] := by
  obtain ⟨between, attempts, reached, betweenMirrors, sameTasks⟩ := mirrors.openFiles
  rw [List.append_nil] at betweenMirrors
  obtain ⟨next, continues, nextMirrors⟩ := betweenMirrors.run
  refine ⟨next, reached.trans continues.reaches, ?_⟩
  rw [sameTasks] at nextMirrors
  exact nextMirrors

/-- Whatever else happens on the host happens in one event. -/
theorem passes (mirrors : activity.Mirrors session more) (host : Host) :
    (activity.after (.proceed host)).Mirrors { session with host := host } more :=
  ⟨mirrors.engine, rfl, mirrors.works⟩

/-- A timer that is set goes off. -/
theorem fire {timer : Timer} {purpose : EngineTimer} (mirrors : activity.Mirrors session [])
    (armed : (timer, purpose) ∈ session.timers) :
    ∃ next, activity.Continues next ∧ next.Mirrors (session.fire timer purpose).1 [] := by
  have passing := activity.continues_after (.proceed { session.host with clock := timer.due }) rfl
  have passed := mirrors.passes { session.host with clock := timer.due }
  unfold Session.fire
  rcases Session.purpose_of_mem armed with ⟨task, rfl, waits⟩ | ⟨number, path, watcher, rfl, place⟩
  · obtain ⟨between, reached, number, resumed⟩ := passed.resumeWork waits
    have attempts : between.Mirrors _ ([(number, task)].map attemptedWork) := resumed
    obtain ⟨next, reachedNext, nextMirrors⟩ := attempts.run
    exact ⟨next, (passing.trans reached).trans reachedNext, nextMirrors⟩
  · obtain ⟨between, reached, begun, settled⟩ := passed.settleWork place
    have again := settled.note [settledNote]
    dsimp only
    generalize Session.note _ [settledNote] = noted at again ⊢
    have file : noted.engine.files[number]? = some ⟨path, watcher, none⟩ := by
      rw [← again.engine, settled.engine]
      show (session.engine.files.modify number RulesFile.settled)[number]? = _
      rw [List.getElem?_modify_eq, place]
      rfl
    rw [file]
    have attempts : between.Mirrors _
        ([(begun, FileTask.ofChange number ⟨path, watcher, none⟩)].map attemptedWork) := again
    obtain ⟨next, reachedNext, nextMirrors⟩ := attempts.run
    exact ⟨next, (passing.trans reached).trans reachedNext, nextMirrors⟩

/-- The timers that are due go off, one after the other. -/
theorem fireUntil (mirrors : activity.Mirrors session []) (deadline bound : Nat) :
    ∃ next, activity.Continues next ∧ next.Mirrors (Session.fireUntil deadline bound session).1 [] := by
  induction bound generalizing activity session with
  | zero => exact ⟨activity, .refl activity, mirrors⟩
  | succ bound ih =>
    unfold Session.fireUntil
    split
    · exact ⟨activity, .refl activity, mirrors⟩
    next timer purpose earliest =>
    split
    · obtain ⟨between, reached, fired⟩ := mirrors.fire (Timer.mem_of_earliest? earliest)
      obtain ⟨next, reachedNext, nextMirrors⟩ := ih fired
      exact ⟨next, reached.trans reachedNext, nextMirrors⟩
    · exact ⟨activity, .refl activity, mirrors⟩

theorem advance (mirrors : activity.Mirrors session []) (delay : Nat) :
    ∃ next, activity.Continues next ∧ next.Mirrors (session.advance delay).1 [] := by
  obtain ⟨between, reached, fired⟩ :=
    mirrors.fireUntil (session.host.clock + delay) session.workLeft
  exact ⟨_, reached.trans (continues_after between (.proceed _) rfl), fired.passes _⟩

theorem unload (mirrors : activity.Mirrors session []) :
    (activity.after .unload).Mirrors session.unload [] := by
  have unloaded : (activity.after .unload).Mirrors { session with engine := session.engine.unload } [] :=
    ⟨congrArg Engine.unload mirrors.engine, mirrors.host, mirrors.works⟩
  exact unloaded.note _

theorem noticeChange (mirrors : activity.Mirrors session []) (path : Text) :
    (activity.after (.change path)).Mirrors (session.noticeChange path) [] := by
  obtain ⟨sameEngine, sameHost, works⟩ := mirrors
  obtain ⟨engine, host, begun⟩ := activity
  obtain rfl : engine = session.engine := sameEngine
  obtain rfl : host = session.host := sameHost
  exact ⟨rfl, rfl, works⟩

theorem noticeFailure (mirrors : activity.Mirrors session []) (path message : Text) :
    (activity.after (.fail path)).Mirrors (session.noticeFailure path message) [] := by
  have failed : (activity.after (.fail path)).Mirrors
      { session with engine := session.engine.watcherFailed path } [] :=
    ⟨congrArg (·.watcherFailed path) mirrors.engine, mirrors.host, mirrors.works⟩
  exact failed.note _

end Mirrors

end FileActivity

/-! ### Sessions -/

namespace Session

/-- What happens to a session that has to do with files. -/
inductive FileCall where
  | load (requests : List FileRequest)
  | unload
  | change (path : Text)
  | fail (path message : Text)
  | write (path content : Text)
  | remove (path : Text)
  | advance (delay : Nat)

/-- What follows when something happens that has to do with files. -/
def performFile (session : Session) : FileCall → Session
  | .load requests => (session.loadFiles requests).1
  | .unload => session.unload
  | .change path => session.noticeChange path
  | .fail path message => session.noticeFailure path message
  | .write path content => { session with host := session.host.write path content }
  | .remove path => { session with host := session.host.remove path }
  | .advance delay => (session.advance delay).1

/-- What follows when several things happen, the first one first. -/
def performFiles (session : Session) (calls : List FileCall) : Session :=
  calls.foldl performFile session

variable {activity : FileActivity} {session : Session}

/-- Whatever happens to a session that asks for no file is made of events that ask for none. -/
theorem continues_performFile (mirrors : activity.Mirrors session []) {call : FileCall}
    (loadsNone : ∀ requests, .load requests ≠ call) :
    ∃ next, activity.Continues next ∧ next.Mirrors (session.performFile call) [] := by
  cases call with
  | load requests => exact absurd rfl (loadsNone requests)
  | unload => exact ⟨_, activity.continues_after .unload rfl, mirrors.unload⟩
  | change path => exact ⟨_, activity.continues_after (.change path) rfl, mirrors.noticeChange path⟩
  | fail path message =>
    exact ⟨_, activity.continues_after (.fail path) rfl, mirrors.noticeFailure path message⟩
  | write path content => exact ⟨_, activity.continues_after (.proceed _) rfl, mirrors.passes _⟩
  | remove path => exact ⟨_, activity.continues_after (.proceed _) rfl, mirrors.passes _⟩
  | advance delay => exact mirrors.advance delay

theorem continues_performFiles (mirrors : activity.Mirrors session []) {calls : List FileCall}
    (loadsNone : ∀ requests, .load requests ∉ calls) :
    ∃ next, activity.Continues next ∧ next.Mirrors (session.performFiles calls) [] := by
  induction calls generalizing activity session with
  | nil => exact ⟨activity, .refl activity, mirrors⟩
  | cons call rest ih =>
    have callLoadsNone (requests : List FileRequest) : .load requests ≠ call := fun same =>
      loadsNone requests (same ▸ List.mem_cons_self)
    obtain ⟨between, continues, performed⟩ := continues_performFile mirrors callLoadsNone
    obtain ⟨next, continuesNext, nextMirrors⟩ := ih performed fun requests member =>
      loadsNone requests (List.mem_cons_of_mem call member)
    exact ⟨next, continues.trans continuesNext, nextMirrors⟩

/-- Whatever happens to a session is made of events. -/
theorem mirrors_performFile (mirrors : activity.Mirrors session []) (call : FileCall) :
    ∃ next, activity.Reaches next ∧ next.Mirrors (session.performFile call) [] := by
  by_cases loads : ∃ requests, .load requests = call
  · obtain ⟨requests, rfl⟩ := loads
    exact mirrors.loadFiles requests
  · obtain ⟨next, continues, nextMirrors⟩ := continues_performFile mirrors (not_exists.mp loads)
    exact ⟨next, continues.reaches, nextMirrors⟩

theorem mirrors_performFiles (mirrors : activity.Mirrors session []) (calls : List FileCall) :
    ∃ next, activity.Reaches next ∧ next.Mirrors (session.performFiles calls) [] := by
  induction calls generalizing activity session with
  | nil => exact ⟨activity, .refl activity, mirrors⟩
  | cons call rest ih =>
    obtain ⟨between, reached, performed⟩ := mirrors_performFile mirrors call
    obtain ⟨next, reachedNext, nextMirrors⟩ := ih performed
    exact ⟨next, reached.trans reachedNext, nextMirrors⟩

/-- The engine and the host of a session are, after whatever happened to it, where some events have led. -/
theorem exists_mirrors (idle : session.tasks = []) (calls : List FileCall) :
    ∃ events, ((FileActivity.ofEngine session.engine session.host).run events).Mirrors
      (session.performFiles calls) [] := by
  have start : (FileActivity.ofEngine session.engine session.host).Mirrors session [] :=
    ⟨rfl, rfl, [], idle.symm, List.nodup_nil, List.forall_mem_nil _⟩
  obtain ⟨_, ⟨events, rfl⟩, mirrors⟩ := mirrors_performFiles start calls
  exact ⟨events, mirrors⟩

/-- A read that waits in a session is on a file that was opened. -/
theorem file_lt_of_mem_tasks (mirrors : activity.Mirrors session []) (sound : activity.IsSound)
    {timer : Timer} {task : FileTask} (waits : (timer, task) ∈ session.tasks) :
    task.file < activity.engine.files.length := by
  obtain ⟨entries, same, holds⟩ := mirrors.works
  rw [← same] at waits
  obtain ⟨⟨number, _⟩, member, rfl⟩ := List.mem_map.mp waits
  exact sound.opened number _ (holds.2 _ (List.mem_append_left _ (List.mem_map_of_mem member)))

/-- A file that was replaced changes nothing in the engine when it was read, and its request is answered so. -/
theorem finish_of_replaced (task : FileTask) (replaced : session.engine.current ≠ some task.file)
    (text : FileText) :
    (session.finish task text).1.engine = session.engine ∧
      (session.finish task text).2 =
        task.request.toList.map fun request => ⟨request, ⟨.replaced task.read.path, none⟩⟩ := by
  unfold finish
  dsimp only
  rw [Engine.finishRead_of_replaced replaced]
  obtain ⟨log, noted⟩ :=
    session.note_eq (session.engine.rules.fileNotes task.read.path (.replaced task.read.path))
  dsimp only
  rw [noted]
  dsimp only
  rw [Engine.watchFile_of_replaced replaced]
  split
  · exact ⟨rfl, rfl⟩
  · exact ⟨rfl, rfl⟩

/-- **Only the file that was opened last acts on a session.** Whatever happens to the files of a session, no
file but the current one is watched or has a change that settles. A file that was replaced while its read
waited changes nothing whenever it is read, after however many attempts, and its request is answered so. From
an unload until files are asked for the rules stay what they are. -/
theorem performFiles_onlyCurrentActs (idle : session.tasks = []) (noFiles : session.engine.files = [])
    (calls : List FileCall) :
    let now := session.performFiles calls
    now.engine.OnlyCurrentListens ∧
    (∀ (timer : Timer) (task : FileTask), (timer, task) ∈ now.tasks → now.engine.current ≠ some task.file →
      ∀ (later : List FileCall) (read : FileRead) (text : FileText),
        let afterwards := now.performFiles later
        let ended := afterwards.finish { task with read := read } text
        ended.1.engine = afterwards.engine ∧
          ended.2 = task.request.toList.map fun request => ⟨request, ⟨.replaced read.path, none⟩⟩) ∧
    ∀ later, (∀ requests, .load requests ∉ later) →
      (now.unload.performFiles later).engine.rules = now.engine.rules := by
  intro now
  obtain ⟨events, mirrors⟩ := session.exists_mirrors idle calls
  have sound := (FileActivity.isSound_ofEngine noFiles session.host).run events
  generalize (FileActivity.ofEngine session.engine session.host).run events = activity at mirrors sound
  refine ⟨?_, fun timer task waits notCurrent later read text => ?_, fun later loadsNone => ?_⟩
  · rw [← mirrors.engine]
    exact sound.listening
  · obtain ⟨next, ⟨others, rfl⟩, nextMirrors⟩ := mirrors_performFiles mirrors later
    have opened := file_lt_of_mem_tasks mirrors sound waits
    rw [← mirrors.engine] at notCurrent
    have replaced := FileActivity.ne_current_run notCurrent opened others
    rw [nextMirrors.engine] at replaced
    exact finish_of_replaced { task with read := read } replaced text
  · obtain ⟨next, continues, nextMirrors⟩ := continues_performFiles mirrors.unload loadsNone
    calc (now.unload.performFiles later).engine.rules
        = next.engine.rules := congrArg Engine.rules nextMirrors.engine.symm
      _ = (activity.after .unload).engine.rules := continues.rules_eq rfl
      _ = activity.engine.rules := Engine.rules_closeCurrent activity.engine
      _ = now.engine.rules := congrArg Engine.rules mirrors.engine

/-- The read of a missing file waits while another file is opened. -/
example (rules : RuleStore) :
    let engine : Engine := ⟨.start .null, Settings.initial.keystrokes, rules, [], none⟩
    let now := (start (.start [] []) engine ⟨none, none⟩ .unspecified).performFiles
      [.load [⟨0, "first", true⟩], .load [⟨1, "second", true⟩]]
    now.tasks.map (·.2.file) = [0, 1] ∧ now.engine.current = some 1 :=
  ⟨rfl, rfl⟩

end Session

end Pairing
