/-
**Only the file that was opened last acts.**

Files are read in several attempts with delays between them, and watched afterwards. While one is read
others are opened, changes settle, watchers fail and the engine is unloaded, in any order. Whether a file
still is the one to act on the rules is asked when it was read, and once more before it is watched:

* `RulesFile.Listens`, `Engine.OnlyCurrentListens`: no file but the current one is watched or has a change
  that settles;
* `FileStage`, `FileWork`, `FileActivity`: the reads in progress beside the engine, and where each is;
* `FileActivity.Event`, `FileActivity.after`, `FileActivity.run`: what happens, in any order;
* `FileActivity.Step`, `FileActivity.step_after`: all that can follow an event;
* `FileActivity.IsSound.after`, `FileActivity.IsSound.run`: no event makes another file listen;
* `FileActivity.IsReplaced.after`, `FileActivity.IsReplaced.run`: what was replaced stays so;
* `FileActivity.rules_run`: without a current file no event but opening one changes the rules.

`FileActivity.run_onlyCurrentActs` collects what a host can rely on in every state that can be reached.
-/

import Pairing.Engine.FileTask
import Pairing.Proofs.Engine.Following

namespace Pairing

/-! ### Files that listen -/

/-- A file hears of changes: a watcher is open for it, or a change is settling. -/
def RulesFile.Listens (file : RulesFile) : Prop :=
  file.watcher.isSome = true ∨ file.settling.isSome = true

namespace RulesFile

variable {file : RulesFile} {path : Text} {host : Host}

theorem not_listens_unwatched (path : Text) : ¬ (unwatched path).Listens := by
  rintro (watched | armed)
  · cases watched
  · cases armed

theorem Listens.of_settled (listens : file.settled.Listens) : file.Listens :=
  listens.imp_right fun armed => nomatch armed

theorem Listens.of_noticeFailure (listens : (file.noticeFailure path).Listens) : file.Listens := by
  unfold noticeFailure at listens
  split at listens
  · exact absurd listens (not_listens_unwatched _)
  · exact listens

/-- Only a file that is watched hears of a change. -/
theorem Listens.of_noticeChange (listens : (file.noticeChange path host).1.Listens) : file.Listens := by
  unfold noticeChange at listens
  split at listens
  · next watched => exact Or.inl (Bool.and_eq_true_iff.mp watched).1
  · exact listens

end RulesFile

namespace Engine

variable {engine next : Engine}

/-- No file but the current one hears of changes. -/
def OnlyCurrentListens (engine : Engine) : Prop :=
  ∀ (number : Nat) (file : RulesFile),
    engine.files[number]? = some file → file.Listens → engine.current = some number

/-- Files that hear of changes only if they did before may change in any way. -/
theorem OnlyCurrentListens.of_files (only : engine.OnlyCurrentListens)
    (sameCurrent : next.current = engine.current)
    (earlier : ∀ (number : Nat) (file : RulesFile), next.files[number]? = some file →
      ∃ before, engine.files[number]? = some before ∧ (file.Listens → before.Listens)) :
    next.OnlyCurrentListens := by
  intro number file place listens
  obtain ⟨before, placeBefore, listened⟩ := earlier number file place
  rw [sameCurrent]
  exact only number before placeBefore (listened listens)

theorem OnlyCurrentListens.modifyFile (only : engine.OnlyCurrentListens) (number : Nat)
    {f : RulesFile → RulesFile} (listened : ∀ file, (f file).Listens → file.Listens) :
    (engine.modifyFile number f).OnlyCurrentListens := by
  refine only.of_files rfl fun other file place => ?_
  rw [Engine.modifyFile, List.getElem?_modify] at place
  obtain ⟨before, placeBefore, rfl⟩ := Option.map_eq_some_iff.mp place
  refine ⟨before, placeBefore, fun listens => ?_⟩
  by_cases same : number = other
  · rw [if_pos same] at listens
    exact listened before listens
  · rw [if_neg same] at listens
    exact listens

/-- Once the current file is closed, no file hears of changes. -/
theorem OnlyCurrentListens.not_listens_closeCurrent (only : engine.OnlyCurrentListens) {number : Nat}
    {file : RulesFile} (place : engine.closeCurrent.files[number]? = some file) : ¬ file.Listens := by
  intro listens
  unfold closeCurrent at place
  split at place
  · next none =>
    have current := only number file place listens
    rw [none] at current
    cases current
  · next last isCurrent =>
    rw [Engine.modifyFile, List.getElem?_modify] at place
    obtain ⟨before, placeBefore, rfl⟩ := Option.map_eq_some_iff.mp place
    by_cases same : last = number
    · rw [if_pos same] at listens
      exact RulesFile.not_listens_unwatched _ listens
    · rw [if_neg same] at listens
      have current := only number before placeBefore listens
      rw [isCurrent] at current
      exact same (Option.some.inj current)

theorem OnlyCurrentListens.openFile (only : engine.OnlyCurrentListens) (path : Text) :
    (engine.openFile path).OnlyCurrentListens := by
  intro number file place listens
  show some engine.files.length = some number
  rw [Engine.openFile, List.getElem?_append] at place
  split at place
  · exact absurd listens (only.not_listens_closeCurrent place)
  · next later =>
    have isLast : number - engine.closeCurrent.files.length = 0 := by
      have inside := (List.getElem?_eq_some_iff.mp place).1
      simpa using inside
    rw [length_closeCurrent] at later isLast
    rw [show engine.files.length = number by omega]

theorem OnlyCurrentListens.unload (only : engine.OnlyCurrentListens) :
    engine.unload.OnlyCurrentListens := by
  intro number file place listens
  exact absurd listens (only.not_listens_closeCurrent place)

theorem OnlyCurrentListens.watchFile (only : engine.OnlyCurrentListens) (number : Nat) (host : Host) :
    (engine.watchFile number host).1.OnlyCurrentListens := by
  unfold Engine.watchFile
  split
  · exact only
  next isCurrent =>
  rw [ne_eq, Classical.not_not] at isCurrent
  split
  · exact only
  next file _ =>
  intro other file' place listens
  by_cases same : number = other
  · exact same ▸ isCurrent
  · rw [List.getElem?_set_ne same] at place
    exact only other file' place listens

theorem getElem?_noticeChange {path : Text} {files : List RulesFile} {host : Host} {number : Nat}
    {file : RulesFile} (place : (noticeChange path files host).1[number]? = some file) :
    ∃ before, files[number]? = some before ∧ (file.Listens → before.Listens) := by
  induction files generalizing host number with
  | nil => cases place
  | cons first rest ih =>
    unfold noticeChange at place
    cases number with
    | zero =>
      obtain rfl := Option.some.inj place
      exact ⟨first, rfl, RulesFile.Listens.of_noticeChange⟩
    | succ later => exact ih place

theorem length_noticeChange (path : Text) (files : List RulesFile) (host : Host) :
    (noticeChange path files host).1.length = files.length := by
  induction files generalizing host with
  | nil => rfl
  | cons first rest ih =>
    unfold noticeChange
    exact congrArg (· + 1) (ih _)

theorem OnlyCurrentListens.fileChanged (only : engine.OnlyCurrentListens) (path : Text) (host : Host) :
    (engine.fileChanged path host).1.OnlyCurrentListens :=
  only.of_files rfl fun _ _ place => getElem?_noticeChange place

theorem OnlyCurrentListens.watcherFailed (only : engine.OnlyCurrentListens) (path : Text) :
    (engine.watcherFailed path).OnlyCurrentListens := by
  refine only.of_files rfl fun number file place => ?_
  rw [Engine.watcherFailed, List.getElem?_map] at place
  obtain ⟨before, placeBefore, rfl⟩ := Option.map_eq_some_iff.mp place
  exact ⟨before, placeBefore, RulesFile.Listens.of_noticeFailure⟩

theorem rules_closeCurrent (engine : Engine) : engine.closeCurrent.rules = engine.rules := by
  unfold closeCurrent
  split <;> rfl

theorem watchFile_of_replaced {number : Nat} (replaced : engine.current ≠ some number) (host : Host) :
    engine.watchFile number host = (engine, host, none) := by
  rw [Engine.watchFile, if_pos replaced]

end Engine

/-! ### Reads in progress -/

/-- Where the work on a file is. -/
inductive FileStage where
  /-- An attempt to read the file is under way. -/
  | attempting
  /-- The next attempt follows after a delay. -/
  | delayed
  /-- The file was read, or given up. -/
  | read (text : FileText)
  /-- Its rules were used or refused, unless the file was replaced. -/
  | used (outcome : FileOutcome)
  /-- The request was answered. -/
  | answered (report : FileReport)

/-- Work on a file. -/
structure FileWork where
  /-- The read. -/
  task : FileTask
  /-- Where it is. -/
  stage : FileStage

/-- An engine on a host, with all the work on files that was ever begun. -/
structure FileActivity where
  /-- The engine. -/
  engine : Engine
  /-- The host. -/
  host : Host
  /-- The work on files, in the order in which it was begun. -/
  works : List FileWork

namespace FileActivity

/-- An engine of which no file was asked. -/
def ofEngine (engine : Engine) (host : Host) : FileActivity :=
  ⟨engine, host, []⟩

/-- What happens to files. -/
inductive Event where
  /-- A file is asked for. -/
  | request (request : FileRequest)
  /-- The host answers an attempt to read. -/
  | attempt (number : Nat) (answer : Except Text Text)
  /-- The delay before the next attempt is over. -/
  | elapse (number : Nat)
  /-- The engine goes on with a file that was read. -/
  | use (number : Nat)
  /-- The engine goes on once the rules of a file were used: it may watch the file, and answers. -/
  | answer (number : Nat)
  /-- The watchers of a path report a change. -/
  | change (path : Text)
  /-- The timer of a change goes off. -/
  | settle (file : Nat)
  /-- The watchers of a path fail. -/
  | fail (path : Text)
  /-- The engine is unloaded. -/
  | unload
  /-- Anything else happens on the host: time passes, and files are written and removed. -/
  | proceed (host : Host)

variable (activity : FileActivity)

/-- Work goes on. -/
def setWork (number : Nat) (work : FileWork) : FileActivity :=
  { activity with works := activity.works.set number work }

/-- Where the work on a file is after an attempt to read it, given the answer of the host. -/
def attempted (task : FileTask) (answer : Except Text Text) : FileWork :=
  match task.read.proceed answer with
  | .waits _ next => ⟨{ task with read := next }, .delayed⟩
  | .finished text => ⟨task, .read text⟩

/-- An engine goes on with a file that was read. -/
def useText (number : Nat) (task : FileTask) (text : FileText) : FileActivity :=
  let (engine, outcome) := activity.engine.finishRead task.file task.read.path text
  { activity with engine := engine }.setWork number ⟨task, .used outcome⟩

/-- An engine watches a file, if that was asked for, and answers. -/
def answerRequest (number : Nat) (task : FileTask) (outcome : FileOutcome) : FileActivity :=
  if task.watches then
    let (engine, host, failure) := activity.engine.watchFile task.file activity.host
    { activity with engine := engine, host := host }.setWork number ⟨task, .answered ⟨outcome, failure⟩⟩
  else activity.setWork number ⟨task, .answered ⟨outcome, none⟩⟩

/-- What follows an event. Nothing follows one that cannot happen: closed watchers and cleared timers
deliver nothing. -/
def after (activity : FileActivity) : Event → FileActivity
  | .request request =>
    { activity with
      engine := activity.engine.openFile request.path
      works := activity.works ++ [⟨.ofRequest activity.engine.files.length request, .attempting⟩] }
  | .attempt number answer =>
    match activity.works[number]? with
    | some ⟨task, .attempting⟩ => activity.setWork number (attempted task answer)
    | _ => activity
  | .elapse number =>
    match activity.works[number]? with
    | some ⟨task, .delayed⟩ => activity.setWork number ⟨task, .attempting⟩
    | _ => activity
  | .use number =>
    match activity.works[number]? with
    | some ⟨task, .read text⟩ => activity.useText number task text
    | _ => activity
  | .answer number =>
    match activity.works[number]? with
    | some ⟨task, .used outcome⟩ => activity.answerRequest number task outcome
    | _ => activity
  | .change path =>
    let (engine, host) := activity.engine.fileChanged path activity.host
    { activity with engine := engine, host := host }
  | .settle number =>
    match activity.engine.files[number]? with
    | some ⟨path, watcher, some timer⟩ =>
      { activity with
        engine := activity.engine.modifyFile number RulesFile.settled
        works := activity.works ++ [⟨.ofChange number ⟨path, watcher, some timer⟩, .attempting⟩] }
    | _ => activity
  | .fail path => { activity with engine := activity.engine.watcherFailed path }
  | .unload => { activity with engine := activity.engine.unload }
  | .proceed host => { activity with host := host }

/-- What follows events, the first one first. -/
def run (events : List Event) : FileActivity :=
  events.foldl after activity

variable {activity : FileActivity}

/-! ### What can follow an event -/

/-- What can follow an event, with the place where the work or the file that it is about has to be. -/
inductive Step (activity : FileActivity) : Event → FileActivity → Prop
  | idle (event : Event) : Step activity event activity
  | requests (request : FileRequest) :
    Step activity (.request request)
      { activity with
        engine := activity.engine.openFile request.path
        works := activity.works ++ [⟨.ofRequest activity.engine.files.length request, .attempting⟩] }
  | attempts {number : Nat} {task : FileTask} (place : activity.works[number]? = some ⟨task, .attempting⟩)
      (answer : Except Text Text) :
    Step activity (.attempt number answer) (activity.setWork number (attempted task answer))
  | elapses {number : Nat} {task : FileTask} (place : activity.works[number]? = some ⟨task, .delayed⟩) :
    Step activity (.elapse number) (activity.setWork number ⟨task, .attempting⟩)
  | uses {number : Nat} {task : FileTask} {text : FileText}
      (place : activity.works[number]? = some ⟨task, .read text⟩) :
    Step activity (.use number) (activity.useText number task text)
  | answers {number : Nat} {task : FileTask} {outcome : FileOutcome}
      (place : activity.works[number]? = some ⟨task, .used outcome⟩) :
    Step activity (.answer number) (activity.answerRequest number task outcome)
  | changes (path : Text) :
    Step activity (.change path)
      { activity with
        engine := (activity.engine.fileChanged path activity.host).1
        host := (activity.engine.fileChanged path activity.host).2 }
  | settles {number : Nat} {path : Text} {watcher : Option Nat} {timer : Timer}
      (place : activity.engine.files[number]? = some ⟨path, watcher, some timer⟩) :
    Step activity (.settle number)
      { activity with
        engine := activity.engine.modifyFile number RulesFile.settled
        works := activity.works ++ [⟨.ofChange number ⟨path, watcher, some timer⟩, .attempting⟩] }
  | fails (path : Text) :
    Step activity (.fail path) { activity with engine := activity.engine.watcherFailed path }
  | unloads : Step activity .unload { activity with engine := activity.engine.unload }
  | proceeds (host : Host) : Step activity (.proceed host) { activity with host := host }

theorem step_after (activity : FileActivity) (event : Event) :
    activity.Step event (activity.after event) := by
  unfold after
  cases event with
  | request request => exact .requests request
  | attempt number answer =>
    dsimp only
    split
    · next place => exact .attempts place answer
    · exact .idle _
  | elapse number =>
    dsimp only
    split
    · next place => exact .elapses place
    · exact .idle _
  | use number =>
    dsimp only
    split
    · next place => exact .uses place
    · exact .idle _
  | answer number =>
    dsimp only
    split
    · next place => exact .answers place
    · exact .idle _
  | change path => exact .changes path
  | settle number =>
    dsimp only
    split
    · next place => exact .settles place
    · exact .idle _
  | fail path => exact .fails path
  | unload => exact .unloads
  | proceed host => exact .proceeds host

/-! ### What one event does to the engine -/

/-- What an event can do to the engine. -/
inductive EngineStep (activity : FileActivity) : Event → Engine → Prop
  | stay (event : Event) : EngineStep activity event activity.engine
  | opens (request : FileRequest) :
    EngineStep activity (.request request) (activity.engine.openFile request.path)
  | uses (number : Nat) (task : FileTask) (text : FileText) :
    EngineStep activity (.use number) (activity.engine.finishRead task.file task.read.path text).1
  | watches (number : Nat) (task : FileTask) :
    EngineStep activity (.answer number) (activity.engine.watchFile task.file activity.host).1
  | changes (path : Text) :
    EngineStep activity (.change path) (activity.engine.fileChanged path activity.host).1
  | settles (number : Nat) :
    EngineStep activity (.settle number) (activity.engine.modifyFile number RulesFile.settled)
  | fails (path : Text) : EngineStep activity (.fail path) (activity.engine.watcherFailed path)
  | unloads : EngineStep activity .unload activity.engine.unload

theorem engineStep_after (activity : FileActivity) (event : Event) :
    activity.EngineStep event (activity.after event).engine := by
  have step := activity.step_after event
  generalize activity.after event = next at step
  cases step with
  | idle event => exact .stay event
  | requests request => exact .opens request
  | attempts place answer => exact .stay _
  | elapses place => exact .stay _
  | @uses number task text place => exact .uses number task text
  | @answers number task outcome place =>
    unfold answerRequest
    split
    · exact .watches number task
    · exact .stay _
  | changes path => exact .changes path
  | @settles number path watcher timer place => exact .settles number
  | fails path => exact .fails path
  | unloads => exact .unloads
  | proceeds host => exact .stay _

/-- Files are never forgotten. -/
theorem EngineStep.length_le {event : Event} {engine : Engine} (step : activity.EngineStep event engine) :
    activity.engine.files.length ≤ engine.files.length := by
  cases step with
  | stay event => exact Nat.le_refl _
  | opens request =>
    rw [Engine.openFile, List.length_append, Engine.length_closeCurrent]
    exact Nat.le_add_right _ _
  | uses number task text =>
    unfold Engine.finishRead
    split <;> exact Nat.le_refl _
  | watches number task =>
    unfold Engine.watchFile
    split
    · exact Nat.le_refl _
    split
    · exact Nat.le_refl _
    · exact Nat.le_of_eq List.length_set.symm
  | changes path => exact Nat.le_of_eq (Engine.length_noticeChange _ _ _).symm
  | settles number => exact Nat.le_of_eq (List.length_modify _ _ _).symm
  | fails path => exact Nat.le_of_eq (List.length_map _).symm
  | unloads => exact Nat.le_of_eq (Engine.length_closeCurrent _).symm

/-- A file becomes the current one only when it is opened. -/
theorem EngineStep.current_eq {event : Event} {engine : Engine} (step : activity.EngineStep event engine) :
    engine.current = activity.engine.current ∨ engine.current = none ∨
      (∃ request, event = .request request) ∧ engine.current = some activity.engine.files.length := by
  cases step with
  | stay event => exact Or.inl rfl
  | opens request => exact Or.inr (Or.inr ⟨⟨request, rfl⟩, rfl⟩)
  | uses number task text =>
    unfold Engine.finishRead
    split <;> exact Or.inl rfl
  | watches number task =>
    unfold Engine.watchFile
    split
    · exact Or.inl rfl
    split <;> exact Or.inl rfl
  | changes path => exact Or.inl rfl
  | settles number => exact Or.inl rfl
  | fails path => exact Or.inl rfl
  | unloads => exact Or.inr (Or.inl rfl)

theorem EngineStep.onlyCurrentListens {event : Event} {engine : Engine}
    (step : activity.EngineStep event engine) (only : activity.engine.OnlyCurrentListens) :
    engine.OnlyCurrentListens := by
  cases step with
  | stay event => exact only
  | opens request => exact only.openFile _
  | uses number task text =>
    unfold Engine.finishRead
    split <;> exact only
  | watches number task => exact only.watchFile _ _
  | changes path => exact only.fileChanged _ _
  | settles number => exact only.modifyFile _ fun _ => RulesFile.Listens.of_settled
  | fails path => exact only.watcherFailed _
  | unloads => exact only.unload

/-- Without a current file no event changes the rules. -/
theorem EngineStep.rules_eq {event : Event} {engine : Engine} (step : activity.EngineStep event engine)
    (noCurrent : activity.engine.current = none) : engine.rules = activity.engine.rules := by
  have replaced (number : Nat) : activity.engine.current ≠ some number := by
    rw [noCurrent]
    nofun
  cases step with
  | stay event => rfl
  | opens request => exact Engine.rules_closeCurrent _
  | uses number task text => rw [Engine.finishRead_of_replaced (replaced _)]
  | watches number task => rw [Engine.watchFile_of_replaced (replaced _)]
  | changes path => rfl
  | settles number => rfl
  | fails path => rfl
  | unloads => exact Engine.rules_closeCurrent _

/-! ### What one event does to the work -/

theorem getElem?_setWork_self {number : Nat} {work : FileWork} (place : activity.works[number]? = some work)
    (next : FileWork) : (activity.setWork number next).works[number]? = some next := by
  show (activity.works.set number next)[number]? = _
  rw [List.getElem?_set_self (List.getElem?_eq_some_iff.mp place).1]

theorem getElem?_setWork_ne {number other : Nat} (different : number ≠ other) (work : FileWork) :
    (activity.setWork number work).works[other]? = activity.works[other]? :=
  List.getElem?_set_ne different

/-- Why a file cannot be watched, if it is to be watched and cannot. -/
def watchFailure (activity : FileActivity) (task : FileTask) : Option Text :=
  if task.watches then (activity.engine.watchFile task.file activity.host).2.2 else none

/-- What an event can do to the work with a number. -/
inductive WorkStep (activity : FileActivity) (number : Nat) : Event → FileWork → FileWork → Prop
  | stay (event : Event) (work : FileWork) : WorkStep activity number event work work
  | attempts (task : FileTask) (answer : Except Text Text) :
    WorkStep activity number (.attempt number answer) ⟨task, .attempting⟩ (attempted task answer)
  | elapses (task : FileTask) :
    WorkStep activity number (.elapse number) ⟨task, .delayed⟩ ⟨task, .attempting⟩
  | uses (task : FileTask) (text : FileText) :
    WorkStep activity number (.use number) ⟨task, .read text⟩
      ⟨task, .used (activity.engine.finishRead task.file task.read.path text).2⟩
  | answers (task : FileTask) (outcome : FileOutcome) :
    WorkStep activity number (.answer number) ⟨task, .used outcome⟩
      ⟨task, .answered ⟨outcome, activity.watchFailure task⟩⟩

theorem works_answerRequest (activity : FileActivity) (number : Nat) (task : FileTask)
    (outcome : FileOutcome) : (activity.answerRequest number task outcome).works =
      (activity.setWork number ⟨task, .answered ⟨outcome, activity.watchFailure task⟩⟩).works := by
  unfold answerRequest watchFailure
  split <;> rfl

/-- Work is never forgotten. -/
theorem workStep_after {number : Nat} {work : FileWork} (place : activity.works[number]? = some work)
    (event : Event) :
    ∃ next, (activity.after event).works[number]? = some next ∧
      activity.WorkStep number event work next := by
  have inside := (List.getElem?_eq_some_iff.mp place).1
  -- The event moves the work with one number, which may be this one.
  have moves {other : Nat} {before next : FileWork} (otherPlace : activity.works[other]? = some before)
      (step : other = number → activity.WorkStep number event before next) :
      ∃ next', (activity.setWork other next).works[number]? = some next' ∧
        activity.WorkStep number event work next' := by
    by_cases same : other = number
    · subst same
      obtain rfl := Option.some.inj (place.symm.trans otherPlace)
      exact ⟨next, getElem?_setWork_self place next, step rfl⟩
    · exact ⟨work, (getElem?_setWork_ne same next).trans place, .stay _ _⟩
  have step := activity.step_after event
  generalize activity.after event = next at step
  cases step with
  | idle event => exact ⟨work, place, .stay _ _⟩
  | requests request => exact ⟨work, (List.getElem?_append_left inside).trans place, .stay _ _⟩
  | @attempts other task otherPlace answer =>
    exact moves otherPlace fun same => same ▸ .attempts task answer
  | @elapses other task otherPlace => exact moves otherPlace fun same => same ▸ .elapses task
  | @uses other task text otherPlace => exact moves otherPlace fun same => same ▸ .uses task text
  | @answers other task outcome otherPlace =>
    rw [works_answerRequest]
    exact moves otherPlace fun same => same ▸ .answers task outcome
  | changes path => exact ⟨work, place, .stay _ _⟩
  | settles _ => exact ⟨work, (List.getElem?_append_left inside).trans place, .stay _ _⟩
  | fails path => exact ⟨work, place, .stay _ _⟩
  | unloads => exact ⟨work, place, .stay _ _⟩
  | proceeds host => exact ⟨work, place, .stay _ _⟩

/-- Work stays on its file. -/
theorem WorkStep.file_eq {number : Nat} {event : Event} {work next : FileWork}
    (step : activity.WorkStep number event work next) : next.task.file = work.task.file := by
  cases step with
  | attempts task answer =>
    unfold attempted
    split <;> rfl
  | stay event work => rfl
  | elapses task => rfl
  | uses task text => rfl
  | answers task outcome => rfl

/-- Work stays, goes on, or is begun on a file that was opened. -/
theorem works_after (activity : FileActivity) (event : Event) :
    (activity.after event).works = activity.works ∨
      (∃ number next, (activity.after event).works = activity.works.set number next) ∨
      ∃ added, added.task.file < (activity.after event).engine.files.length ∧
        (activity.after event).works = activity.works ++ [added] := by
  have step := activity.step_after event
  generalize activity.after event = next at step
  cases step with
  | idle event => exact Or.inl rfl
  | requests request =>
    refine Or.inr (Or.inr ⟨_, ?_, rfl⟩)
    show activity.engine.files.length < (activity.engine.openFile request.path).files.length
    rw [Engine.openFile, List.length_append, Engine.length_closeCurrent]
    exact Nat.lt_succ_self _
  | @attempts number task place answer => exact Or.inr (Or.inl ⟨number, _, rfl⟩)
  | @elapses number task place => exact Or.inr (Or.inl ⟨number, _, rfl⟩)
  | @uses number task text place => exact Or.inr (Or.inl ⟨number, _, rfl⟩)
  | @answers number task outcome place => exact Or.inr (Or.inl ⟨number, _, works_answerRequest _ _ _ _⟩)
  | @settles number path watcher timer place =>
    refine Or.inr (Or.inr ⟨_, ?_, rfl⟩)
    show number < (activity.engine.files.modify number RulesFile.settled).length
    rw [List.length_modify]
    exact (List.getElem?_eq_some_iff.mp place).1
  | changes path => exact Or.inl rfl
  | fails path => exact Or.inl rfl
  | unloads => exact Or.inl rfl
  | proceeds host => exact Or.inl rfl

theorem file_lt_of_new {event : Event} {number : Nat} {work : FileWork}
    (new : activity.works[number]? = none) (place : (activity.after event).works[number]? = some work) :
    work.task.file < (activity.after event).engine.files.length := by
  have outside := List.getElem?_eq_none_iff.mp new
  rcases activity.works_after event with same | ⟨other, next, moved⟩ | ⟨added, opened, longer⟩
  · rw [same, new] at place
    cases place
  · rw [moved, List.getElem?_eq_none (by rwa [List.length_set])] at place
    cases place
  · rw [longer, List.getElem?_append_right outside] at place
    obtain rfl := List.mem_singleton.mp (List.mem_of_getElem? place)
    exact opened

/-! ### Files that were replaced -/

/-- A file was read after it was replaced: another file is the current one, or none is, and the request is
answered so, or will be. -/
structure IsReplaced (activity : FileActivity) (number : Nat) (task : FileTask) : Prop where
  notCurrent : activity.engine.current ≠ some task.file
  opened : task.file < activity.engine.files.length
  /-- The answer is known, or given. -/
  place : activity.works[number]? = some ⟨task, .used (.replaced task.read.path)⟩ ∨
    activity.works[number]? = some ⟨task, .answered ⟨.replaced task.read.path, none⟩⟩

/-- A file that is not the current one and was opened does not become the current one. -/
theorem EngineStep.ne_current {event : Event} {engine : Engine} {file : Nat}
    (step : activity.EngineStep event engine) (notCurrent : activity.engine.current ≠ some file)
    (opened : file < activity.engine.files.length) : engine.current ≠ some file := by
  rcases step.current_eq with same | none | ⟨_, last⟩
  · rw [same]
    exact notCurrent
  · rw [none]
    nofun
  · rw [last]
    intro same
    have := Option.some.inj same
    omega

theorem ne_current_run {file : Nat} (notCurrent : activity.engine.current ≠ some file)
    (opened : file < activity.engine.files.length) (events : List Event) :
    (activity.run events).engine.current ≠ some file := by
  induction events generalizing activity with
  | nil => exact notCurrent
  | cons event rest ih =>
    have step := activity.engineStep_after event
    exact ih (step.ne_current notCurrent opened) (Nat.lt_of_lt_of_le opened step.length_le)

theorem watchFailure_of_replaced {task : FileTask} (replaced : activity.engine.current ≠ some task.file) :
    activity.watchFailure task = none := by
  unfold watchFailure
  rw [Engine.watchFile_of_replaced replaced]
  split <;> rfl

theorem after_use_of_replaced {number : Nat} {task : FileTask} {text : FileText}
    (place : activity.works[number]? = some ⟨task, .read text⟩)
    (replaced : activity.engine.current ≠ some task.file) :
    activity.after (.use number) =
      activity.setWork number ⟨task, .used (.replaced task.read.path)⟩ := by
  simp only [FileActivity.after, place]
  rw [useText, Engine.finishRead_of_replaced replaced]

/-- Answering for a file that was replaced leaves the engine as it is. -/
theorem IsReplaced.engine_answer {number : Nat} {task : FileTask}
    (replaced : activity.IsReplaced number task) :
    (activity.after (.answer number)).engine = activity.engine := by
  rcases replaced.place with place | place
  · simp only [FileActivity.after, place]
    rw [answerRequest, Engine.watchFile_of_replaced replaced.notCurrent]
    split <;> rfl
  · simp only [FileActivity.after, place]

/-- What was replaced stays so. -/
theorem IsReplaced.after {number : Nat} {task : FileTask} (replaced : activity.IsReplaced number task)
    (event : Event) : (activity.after event).IsReplaced number task := by
  have step := activity.engineStep_after event
  refine ⟨step.ne_current replaced.notCurrent replaced.opened,
    Nat.lt_of_lt_of_le replaced.opened step.length_le, ?_⟩
  rcases replaced.place with place | place
  · obtain ⟨next, nextPlace, moves⟩ := workStep_after place event
    cases moves with
    | stay => exact Or.inl nextPlace
    | answers =>
      rw [watchFailure_of_replaced replaced.notCurrent] at nextPlace
      exact Or.inr nextPlace
  · obtain ⟨next, nextPlace, moves⟩ := workStep_after place event
    cases moves with
    | stay => exact Or.inr nextPlace

theorem IsReplaced.run {number : Nat} {task : FileTask} (replaced : activity.IsReplaced number task)
    (events : List Event) : (activity.run events).IsReplaced number task := by
  induction events generalizing activity with
  | nil => exact replaced
  | cons event rest ih => exact ih (replaced.after event)

/-! ### Every order of events -/

/-- No file but the current one listens, and all work is on files that were opened. -/
structure IsSound (activity : FileActivity) : Prop where
  listening : activity.engine.OnlyCurrentListens
  opened : ∀ (number : Nat) (work : FileWork), activity.works[number]? = some work →
    work.task.file < activity.engine.files.length

theorem isSound_ofEngine {engine : Engine} (noFiles : engine.files = []) (host : Host) :
    (ofEngine engine host).IsSound := by
  constructor
  · intro number file place
    rw [show (ofEngine engine host).engine.files = [] from noFiles] at place
    cases place
  · intro number work place
    cases place

/-- No event makes another file listen. -/
theorem IsSound.after (sound : activity.IsSound) (event : Event) : (activity.after event).IsSound := by
  have step := activity.engineStep_after event
  refine ⟨step.onlyCurrentListens sound.listening, fun number work place => ?_⟩
  cases before : activity.works[number]? with
  | none => exact file_lt_of_new before place
  | some work' =>
    obtain ⟨next, nextPlace, moves⟩ := workStep_after before event
    obtain rfl := Option.some.inj (nextPlace.symm.trans place)
    rw [moves.file_eq]
    exact Nat.lt_of_lt_of_le (sound.opened number work' before) step.length_le

theorem IsSound.run (sound : activity.IsSound) (events : List Event) : (activity.run events).IsSound := by
  induction events generalizing activity with
  | nil => exact sound
  | cons event rest ih => exact ih (sound.after event)

/-- As long as no file is opened, the rules of an engine without a current file stay what they are. -/
theorem rules_run {events : List Event} (noCurrent : activity.engine.current = none)
    (noRequest : ∀ request, .request request ∉ events) :
    (activity.run events).engine.rules = activity.engine.rules := by
  induction events generalizing activity with
  | nil => rfl
  | cons event rest ih =>
    have step := activity.engineStep_after event
    have stillNone : (activity.after event).engine.current = none := by
      rcases step.current_eq with same | none | ⟨⟨request, rfl⟩, _⟩
      · exact same.trans noCurrent
      · exact none
      · exact absurd List.mem_cons_self (noRequest request)
    calc ((activity.after event).run rest).engine.rules
        = (activity.after event).engine.rules :=
          ih stillNone fun request member => noRequest request (List.mem_cons_of_mem _ member)
      _ = activity.engine.rules := step.rules_eq noCurrent

/-- **Only the file that was opened last acts on the rules.** Whatever happens to the files of an engine,
and in any order: no file but the current one is watched or has a change that settles; a file that is
read after it was replaced changes nothing, neither then nor when its request is answered, and the answer
says that it was replaced; and from an unload until a file is opened the rules stay what they are. -/
theorem run_onlyCurrentActs {engine : Engine} (noFiles : engine.files = [])
    (host : Host) (events : List Event) :
    let now := (ofEngine engine host).run events
    (∀ (number : Nat) (file : RulesFile), now.engine.files[number]? = some file →
      file.watcher.isSome = true ∨ file.settling.isSome = true → now.engine.current = some number) ∧
    (∀ (number : Nat) (task : FileTask) (text : FileText),
      now.works[number]? = some ⟨task, .read text⟩ → now.engine.current ≠ some task.file →
        (now.after (.use number)).engine = now.engine ∧
        ∀ later,
          let afterwards := (now.after (.use number)).run later
          (afterwards.works[number]? = some ⟨task, .used (.replaced task.read.path)⟩ ∨
            ∃ report, report.error? = some (replacedMessage task.read.path) ∧
              afterwards.works[number]? = some ⟨task, .answered report⟩) ∧
          (afterwards.after (.answer number)).engine = afterwards.engine) ∧
    ∀ later, (∀ request, .request request ∉ later) →
      ((now.after .unload).run later).engine.rules = now.engine.rules := by
  intro now
  have sound : now.IsSound := (isSound_ofEngine noFiles host).run events
  refine ⟨sound.listening, fun number task text place notCurrent => ?_, fun later noRequest => ?_⟩
  · have uses := after_use_of_replaced place notCurrent
    have replaced : (now.after (.use number)).IsReplaced number task := by
      rw [uses]
      exact ⟨notCurrent, sound.opened number _ place, Or.inl (getElem?_setWork_self place _)⟩
    refine ⟨by rw [uses]; rfl, fun later => ⟨?_, (replaced.run later).engine_answer⟩⟩
    exact (replaced.run later).place.imp_right fun answered => ⟨_, rfl, answered⟩
  · exact (rules_run rfl noRequest).trans (Engine.rules_closeCurrent now.engine)

/-- A file that is read after another one was opened is answered for as replaced. -/
theorem run_onlyCurrentActs_replaced :
    ∃ engine, Engine.start (.record [("(", .text ")")]) .null = .ok engine ∧
      let task : FileTask := .ofRequest 0 ⟨0, "first", true⟩
      let now := (ofEngine engine (.start [] [])).run
        [.request ⟨0, "first", true⟩, .request ⟨1, "second", true⟩, .attempt 0 (.ok "\x7b\x7d")]
      now.engine.current = some 1 ∧ (now.after (.use 0)).engine = now.engine ∧
        ∀ later,
          let afterwards := (now.after (.use 0)).run later
          afterwards.works[0]? = some ⟨task, .used (.replaced "first")⟩ ∨
            ∃ report, report.error? = some (replacedMessage "first") ∧
              afterwards.works[0]? = some ⟨task, .answered report⟩ := by
  obtain ⟨engine, started⟩ : ∃ engine, Engine.start (.record [("(", .text ")")]) .null = .ok engine :=
    ⟨_, rfl⟩
  obtain ⟨rules, _, rfl⟩ := Engine.start_eq_ok_iff.mp started
  refine ⟨_, started, ?_⟩
  intro task now
  have noFiles : (⟨.start .null, Settings.initial.keystrokes, rules, [], none⟩ : Engine).files = [] := rfl
  obtain ⟨_, replaced, _⟩ := run_onlyCurrentActs noFiles (.start [] [])
    [.request ⟨0, "first", true⟩, .request ⟨1, "second", true⟩, .attempt 0 (.ok "\x7b\x7d")]
  have another : some 1 ≠ some 0 := by decide
  obtain ⟨unchanged, answered⟩ := replaced 0 task _ rfl another
  exact ⟨rfl, unchanged, fun later => (answered later).1⟩

end FileActivity

end Pairing
