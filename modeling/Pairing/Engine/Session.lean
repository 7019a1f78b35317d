/-
**An engine on a host.**

* `Session` — an engine, the host and the store that it works with, the files that it is reading, and
  its log.
* `Session.load`, `Session.update`, `Session.reset`, `Session.handleKey`, `Session.type` — what is asked
  of the engine.
* `Session.loadFiles`, `Session.unload` — rules are taken from files. Files that are asked for together
  are read first and used afterwards.
* `Session.noticeChange`, `Session.noticeFailure` — what the host reports.
* `Session.advance` — time passes, and timers go off.
-/

import Pairing.Engine.FileTask
import Pairing.Engine.Notes

namespace Pairing

/-- What a store does instead of its work. -/
structure StoreFailures where
  /-- What it says when it is read. -/
  load : Option Text
  /-- What it says when data is put into it. -/
  save : Option Text
  deriving DecidableEq, Repr

/-- What an engine runs for. -/
inductive RunMode where
  /-- The library is being developed, so every note is kept. -/
  | development
  /-- No note is kept. -/
  | production
  /-- Notes are kept as before. -/
  | unspecified
  deriving DecidableEq, Repr

/-- An engine on a host. -/
structure Session where
  /-- The host. -/
  host : Host
  /-- The engine. -/
  engine : Engine
  /-- The reads that wait for their next attempt. -/
  tasks : List (Timer × FileTask)
  /-- What the store does instead of its work. -/
  failures : StoreFailures
  /-- What the engine runs for. -/
  mode : RunMode
  /-- Which notes are kept. -/
  filter : TopicFilter
  /-- The log. -/
  log : Log

/-- What a timer of an engine is for. -/
inductive EngineTimer where
  /-- The next attempt of a read. -/
  | read (task : FileTask)
  /-- A change of a file that settles. -/
  | settle (file : Nat)

namespace Session

/-- An engine of which nothing was asked. -/
def start (host : Host) (engine : Engine) (failures : StoreFailures) (mode : RunMode) : Session :=
  ⟨host, engine, [], failures, mode, .nothing, .empty⟩

/-- Takes notes, up to the first one that fails. -/
def noteEach (session : Session) : List (Note Unit) → Session × Except Thrown Unit
  | [] => (session, .ok ())
  | note :: rest =>
    let noted := session.log.note session.filter session.host.clock note
    let session := { session with log := noted.log }
    match noted.failure with
    | none => session.noteEach rest
    | some cause => (session, .error cause)

/-- Takes notes. -/
def note (session : Session) (notes : List (Note Unit)) : Session :=
  (session.noteEach notes).1

/-! ### Settings and rules -/

/-- Which notes are kept once an engine took its settings from the store. -/
def filterAfterLoad (mode : RunMode) (filter : TopicFilter) : TopicFilter :=
  match mode with
  | .development => .ofText (topicOf "*")
  | .production => .nothing
  | .unspecified => filter

/-- Takes settings and rules from the store, or passes on what the store says. -/
def load (session : Session) : Session × Except Text LoadOutcome :=
  let session := { session with filter := filterAfterLoad session.mode session.filter }
  match session.failures.load with
  | some message => (session, .error message)
  | none =>
    let (engine, outcome) := session.engine.load
    ({ session with engine := engine }.note (settingsLoadedNote ::
      engine.rules.textNotes engine.settings.settings.rulesText outcome ++ outcome.engineNotes),
      .ok outcome)

/-- Changes settings, or passes on what the store says. -/
def update (session : Session) (change : Data Unit) : Session × Except Text (Option LoadOutcome) :=
  match session.failures.save with
  | some message =>
    ({ session with engine := session.engine.updateUnsaved change }, .error message)
  | none =>
    let (engine, outcome) := session.engine.update change
    let ruleNotes :=
      match outcome with
      | none => []
      | some outcome => engine.rules.textNotes engine.settings.settings.rulesText outcome
    ({ session with engine := engine }.note (settingsUpdatedNotes ++ ruleNotes), .ok outcome)

/-- Goes back to the last configuration that could be used. -/
def reset (session : Session) : Session × LoadOutcome :=
  let (engine, outcome) := session.engine.reset
  ({ session with engine := engine }.note (engine.rules.resetNotes outcome), outcome)

/-! ### Keys -/

/-- What to do for a key. A failure that no note can be taken of is passed on. -/
def handleKey (session : Session) (key : Text) (snapshot : Snapshot) (oracle : Oracle) :
    Session × Except Fault Edit :=
  match session.engine.handleKey key snapshot oracle with
  | .error fault => (session, .error fault)
  | .ok response =>
    match session.noteEach response.notes with
    | (session, .error cause) => (session, .error (.thrown cause))
    | (session, .ok ()) =>
      match response.decided with
      | none => (session, .ok response.edit)
      | some (_, verdict) =>
        ({ session with log := (session.log.recordDecision session.host.clock verdict.record).1 },
          .ok response.edit)

/-- Types keys into a buffer one after the other, until one cannot be handled: what was done for each
key, and the buffer after it. -/
def type (session : Session) (keys : List Text) (buffer : Buffer) (snapshotOf : Buffer → Snapshot)
    (oracleOf : Buffer → Oracle) : Session × Buffer × Except Fault (List (Edit × Buffer)) :=
  match keys with
  | [] => (session, buffer, .ok [])
  | key :: rest =>
    match session.handleKey key (snapshotOf buffer) (oracleOf buffer) with
    | (session, .error fault) => (session, buffer, .error fault)
    | (session, .ok edit) =>
      let next := buffer.apply edit
      let (session, last, steps) := session.type rest next snapshotOf oracleOf
      (session, last, steps.map fun steps => (edit, next) :: steps)

/-! ### Files -/

/-- Makes the next attempt of a read. What was read is kept for later. -/
def proceed (session : Session) (task : FileTask) : Session × Option (FileTask × FileText) :=
  let answer := session.host.read task.read.path
  let session := session.note (task.read.notes answer)
  match task.read.proceed answer with
  | .waits delay next =>
    let (timer, host) := session.host.arm delay
    ({ session with host := host, tasks := session.tasks ++ [(timer, { task with read := next })] },
      none)
  | .finished text => (session, some (task, text))

/-- Makes the next attempt of several reads. What was read is kept for later. -/
def proceedAll (session : Session) : List FileTask → Session × List (FileTask × FileText)
  | [] => (session, [])
  | task :: rest =>
    let (session, read) := session.proceed task
    let (session, more) := session.proceedAll rest
    (session, read.toList ++ more)

/-- Uses a file that was read. -/
def finish (session : Session) (task : FileTask) (text : FileText) : Session × List FileAnswer :=
  let path := task.read.path
  let (engine, outcome) := session.engine.finishRead task.file path text
  let session := { session with engine := engine }.note (engine.rules.fileNotes path outcome)
  let (session, failure) :=
    if task.watches then
      let (engine, host, failure) := session.engine.watchFile task.file session.host
      ({ session with engine := engine, host := host }.note (failure.toList.map unwatchedNote), failure)
    else (session, none)
  (session, task.request.toList.map fun request => ⟨request, ⟨outcome, failure⟩⟩)

/-- Uses several files that were read. -/
def finishAll (session : Session) : List (FileTask × FileText) → Session × List FileAnswer
  | [] => (session, [])
  | (task, text) :: rest =>
    let (session, answers) := session.finish task text
    let (session, more) := session.finishAll rest
    (session, answers ++ more)

/-- Reads several files, and uses those that could be read at once. -/
def run (session : Session) (tasks : List FileTask) : Session × List FileAnswer :=
  let (session, texts) := session.proceedAll tasks
  session.finishAll texts

/-- Opens the files that are asked for, one after the other. -/
def openFiles (session : Session) : List FileRequest → Session × List FileTask
  | [] => (session, [])
  | request :: rest =>
    let task := FileTask.ofRequest session.engine.files.length request
    let (session, more) :=
      { session with engine := session.engine.openFile request.path }.openFiles rest
    (session, task :: more)

/-- Takes rules from files that are asked for together. -/
def loadFiles (session : Session) (requests : List FileRequest) : Session × List FileAnswer :=
  let (session, tasks) := session.openFiles requests
  session.run tasks

/-- Takes no rules from files from now on. -/
def unload (session : Session) : Session :=
  { session with engine := session.engine.unload }.note [unloadedNote]

/-- The host reports a change at a path. -/
def noticeChange (session : Session) (path : Text) : Session :=
  let (engine, host) := session.engine.fileChanged path session.host
  { session with engine := engine, host := host }

/-- The host reports that watching a path failed. -/
def noticeFailure (session : Session) (path message : Text) : Session :=
  let watching := session.engine.files.filter (·.isWatchedAt path)
  { session with engine := session.engine.watcherFailed path }.note
    (watching.map fun _ => watcherFailedNote message)

/-! ### Time -/

/-- The changes that are settling in files, which are numbered from a number on. -/
def settling (number : Nat) : List RulesFile → List (Timer × EngineTimer)
  | [] => []
  | file :: rest =>
    (file.settling.toList.map fun timer => (timer, .settle number)) ++ settling (number + 1) rest

/-- The timers that are set, with what they are for. -/
def timers (session : Session) : List (Timer × EngineTimer) :=
  session.tasks.map (fun (timer, task) => (timer, .read task)) ++ settling 0 session.engine.files

/-- A timer goes off. -/
def fire (session : Session) (timer : Timer) (purpose : EngineTimer) : Session × List FileAnswer :=
  let session := { session with host := { session.host with clock := timer.due } }
  match purpose with
  | .read task => { session with tasks := session.tasks.filter (·.1 != timer) }.run [task]
  | .settle number =>
    let session :=
      { session with engine := session.engine.modifyFile number RulesFile.settled }.note [settledNote]
    session.run ((session.engine.files[number]?).toList.map (FileTask.ofChange number))

/-- A bound for the timers that the settling of a file can bring: its own, and those of reading the
file again. -/
def settlingWork (file : RulesFile) : Nat :=
  file.settling.toList.length * (FileRead.defaultLimit.toNat + 1)

/-- A bound for the timers that can go off before anything else is asked. -/
def workLeft (session : Session) : Nat :=
  session.tasks.foldr (fun (_, task) work => task.read.attemptsLeft + 1 + work)
    (session.engine.files.foldr (fun file work => settlingWork file + work) 0)

/-- The timers up to a moment go off, a number of them at most. -/
def fireUntil (deadline : Nat) : Nat → Session → Session × List FileAnswer
  | 0, session => (session, [])
  | bound + 1, session =>
    match Timer.earliest? session.timers with
    | none => (session, [])
    | some (timer, purpose) =>
      if timer.due ≤ deadline then
        let (session, answers) := session.fire timer purpose
        let (session, more) := fireUntil deadline bound session
        (session, answers ++ more)
      else (session, [])

/-- Time passes, and the timers that are due go off. -/
def advance (session : Session) (delay : Nat) : Session × List FileAnswer :=
  let deadline := session.host.clock + delay
  let (session, answers) := fireUntil deadline session.workLeft session
  ({ session with host := { session.host with clock := deadline } }, answers)

/-- How long each timer that is set still takes, the shortest time first. -/
def delays (session : Session) : List Nat :=
  (session.timers.map fun (timer, _) => timer.due - session.host.clock).mergeSort

/-- Every watcher that was ever opened: its path, and whether it is closed. -/
def watchers (session : Session) : List (Text × Bool) :=
  session.host.watchers.mapIdx fun watcher path =>
    (path, !session.engine.files.any (·.holdsWatcher watcher))

end Session

end Pairing
