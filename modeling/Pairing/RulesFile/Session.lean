/-
**A file of rules on a host.**

* `FileSession` — a file, the host that it is on, and the reads that wait for their next attempt.
* `FileSession.read`, `FileSession.watch`, `FileSession.cleanup` — what is asked of the file.
* `FileSession.noticeChange`, `FileSession.noticeFailure` — what the host reports.
* `FileSession.advance` — time passes, and timers go off.
* `FileSession.workLeft` — a bound for the timers that can go off before anything else is asked.
-/

import Pairing.RulesFile.Reading
import Pairing.RulesFile.Watch

namespace Pairing

/-- A file of rules on a host. -/
structure FileSession where
  /-- The host. -/
  host : Host
  /-- The file. -/
  file : RulesFile
  /-- The reads that wait for their next attempt. -/
  reads : List (Timer × FileRead)
  /-- How many changes of the file have settled. -/
  changes : Nat

/-- What a timer of a file is for. -/
inductive FileTimer where
  /-- The next attempt of a read. -/
  | read (read : FileRead)
  /-- A change that settles. -/
  | settle

namespace FileSession

/-- A file that nothing was asked of. -/
def start (host : Host) (path : Text) : FileSession :=
  ⟨host, .unwatched path, [], 0⟩

/-- Makes the next attempt of a read. -/
def proceed (session : FileSession) (read : FileRead) : FileSession × List FileText :=
  match read.proceed (session.host.read read.path) with
  | .waits delay next =>
    let (timer, host) := session.host.arm delay
    ({ session with host := host, reads := session.reads ++ [(timer, next)] }, [])
  | .finished text => (session, [text])

/-- Reads the file, with a number of attempts. -/
def read (session : FileSession) (limit : Int) : FileSession × List FileText :=
  session.proceed (.start session.file.path limit)

/-- Watches the file. There is something to tell if the host does not let it be watched. -/
def watch (session : FileSession) : FileSession × Option Text :=
  let (file, host, failure) := session.file.startWatching session.host
  ({ session with file := file, host := host }, failure)

/-- Stops watching the file. -/
def cleanup (session : FileSession) : FileSession :=
  { session with file := session.file.cleanup }

/-- The host reports a change at a path. -/
def noticeChange (session : FileSession) (path : Text) : FileSession :=
  let (file, host) := session.file.noticeChange path session.host
  { session with file := file, host := host }

/-- The host reports that watching a path failed. -/
def noticeFailure (session : FileSession) (path : Text) : FileSession :=
  { session with file := session.file.noticeFailure path }

/-- The timers that are set, with what they are for. -/
def timers (session : FileSession) : List (Timer × FileTimer) :=
  session.reads.map (fun (timer, read) => (timer, .read read)) ++
    session.file.settling.toList.map fun timer => (timer, .settle)

/-- A timer goes off. -/
def fire (session : FileSession) (timer : Timer) (purpose : FileTimer) :
    FileSession × List FileText :=
  let session := { session with host := { session.host with clock := timer.due } }
  match purpose with
  | .read read => { session with reads := session.reads.filter (·.1 != timer) }.proceed read
  | .settle => ({ session with file := session.file.settled, changes := session.changes + 1 }, [])

/-- A bound for the timers that can go off before anything else is asked. -/
def workLeft (session : FileSession) : Nat :=
  session.reads.foldr (fun (_, read) work => read.attemptsLeft + 1 + work)
    session.file.settling.toList.length

/-- The timers up to a moment go off, a number of them at most. -/
def fireUntil (deadline : Nat) : Nat → FileSession → FileSession × List FileText
  | 0, session => (session, [])
  | bound + 1, session =>
    match Timer.earliest? session.timers with
    | none => (session, [])
    | some (timer, purpose) =>
      if timer.due ≤ deadline then
        let (session, texts) := session.fire timer purpose
        let (session, more) := fireUntil deadline bound session
        (session, texts ++ more)
      else (session, [])

/-- Time passes, and the timers that are due go off. -/
def advance (session : FileSession) (delay : Nat) : FileSession × List FileText :=
  let deadline := session.host.clock + delay
  let (session, texts) := fireUntil deadline session.workLeft session
  ({ session with host := { session.host with clock := deadline } }, texts)

/-- How long each timer that is set still takes, the shortest time first. -/
def delays (session : FileSession) : List Nat :=
  (session.timers.map fun (timer, _) => timer.due - session.host.clock).mergeSort

/-- Whether each watcher that was ever opened is closed. -/
def closedWatchers (session : FileSession) : List Bool :=
  (List.range session.host.watchers.length).map fun watcher => !session.file.holdsWatcher watcher

end FileSession

end Pairing
