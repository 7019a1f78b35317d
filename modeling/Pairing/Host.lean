/-
**A host kept in memory.**

What the library needs from the system it runs on: a clock with timers, and files that can be read and
watched.

* `Host.arm` — sets a timer.
* `Host.read`, `Host.openWatcher` — read and watch a file, or say why that cannot be done.
* `Host.write`, `Host.remove` — change the files.
-/

import Pairing.Text.Basic
import Pairing.Timer

namespace Pairing

/-- A host kept in memory. -/
structure Host where
  /-- The time, in milliseconds. -/
  clock : Nat
  /-- How many timers were set. -/
  timersSet : Nat
  /-- The files, by path. -/
  files : List (Text × Text)
  /-- The paths of files that can be read but not watched. -/
  unwatchable : List Text
  /-- The path of every watcher that was ever opened. -/
  watchers : List Text
  deriving DecidableEq, Repr

namespace Host

/-- A host at the start of its time. -/
def start (files : List (Text × Text)) (unwatchable : List Text) : Host :=
  ⟨0, 0, files, unwatchable, []⟩

/-- Sets a timer. -/
def arm (host : Host) (delay : Nat) : Timer × Host :=
  (⟨host.clock + delay, host.timersSet⟩, { host with timersSet := host.timersSet + 1 })

/-- The content of a file, if there is one. -/
def content? (host : Host) (path : Text) : Option Text :=
  (host.files.find? (·.1 == path)).map (·.2)

/-- Why a missing file cannot be used. -/
def missing (use : String) (path : Text) : Text :=
  Text.ofString "ENOENT: no such file or directory, " ++ Text.ofString use ++ Text.ofString " '" ++
    path ++ Text.ofString "'"

/-- Reads a file. -/
def read (host : Host) (path : Text) : Except Text Text :=
  match host.content? path with
  | some content => .ok content
  | none => .error (missing "open" path)

/-- Opens a watcher for a file. Watchers are numbered from zero. -/
def openWatcher (host : Host) (path : Text) : Except Text (Nat × Host) :=
  if (host.content? path).isSome && !host.unwatchable.contains path then
    .ok (host.watchers.length, { host with watchers := host.watchers ++ [path] })
  else .error (missing "watch" path)

/-- Removes a file. -/
def remove (host : Host) (path : Text) : Host :=
  { host with files := host.files.filter (·.1 != path) }

/-- Gives a file its content. -/
def write (host : Host) (path content : Text) : Host :=
  { host with files := (path, content) :: (host.remove path).files }

end Host

end Pairing
