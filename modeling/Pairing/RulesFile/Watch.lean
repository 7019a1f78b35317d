/-
**Watching a file of rules.**

An editor may write a file in several goes, so a change is acted on only when the file has settled: when
no other change has followed for a while.

* `RulesFile` — a file, the watcher that is open for it, and the timer of a change that is settling.
* `RulesFile.watch`, `RulesFile.changed`, `RulesFile.settled`, `RulesFile.cleanup` — what happens to it.
-/

import Pairing.Host

namespace Pairing

/-- A file of rules. -/
structure RulesFile where
  /-- Where the file is. -/
  path : Text
  /-- The number of the watcher that is open. -/
  watcher : Option Nat
  /-- The timer of a change that is settling. -/
  settling : Option Timer
  deriving DecidableEq, Repr

namespace RulesFile

/-- How long no other change may follow a change, in milliseconds. -/
def settleDelay : Nat := 300

/-- A file that is not watched. -/
def unwatched (path : Text) : RulesFile :=
  ⟨path, none, none⟩

/-- Closes the watcher and forgets a change that is settling. -/
def cleanup (file : RulesFile) : RulesFile :=
  unwatched file.path

/-- Watches the file with a watcher that was opened for it, and with no other. -/
def watch (file : RulesFile) (watcher : Nat) : RulesFile :=
  ⟨file.path, some watcher, none⟩

/-- The file changed. The timer takes the place of that of an earlier change. -/
def changed (file : RulesFile) (timer : Timer) : RulesFile :=
  if file.watcher.isSome then { file with settling := some timer } else file

/-- The timer went off. -/
def settled (file : RulesFile) : RulesFile :=
  { file with settling := none }

/-- Whether the file is watched and at a path. -/
def isWatchedAt (file : RulesFile) (path : Text) : Bool :=
  file.watcher.isSome && file.path == path

/-- Whether a watcher is that of the file. -/
def holdsWatcher (file : RulesFile) (watcher : Nat) : Bool :=
  file.watcher == some watcher

/-- Watches the file, if the host lets it; otherwise it is left unwatched. -/
def startWatching (file : RulesFile) (host : Host) : RulesFile × Host × Option Text :=
  match host.openWatcher file.path with
  | .ok (watcher, host) => (file.watch watcher, host, none)
  | .error reason =>
    (file.cleanup, host, some (Text.ofString "Failed to watch rules file: " ++ reason))

/-- The host reports a change at a path. -/
def noticeChange (file : RulesFile) (path : Text) (host : Host) : RulesFile × Host :=
  if file.isWatchedAt path then
    let (timer, host) := host.arm settleDelay
    (file.changed timer, host)
  else (file, host)

/-- The host reports that watching a path failed. -/
def noticeFailure (file : RulesFile) (path : Text) : RulesFile :=
  if file.isWatchedAt path then file.cleanup else file

end RulesFile

end Pairing
