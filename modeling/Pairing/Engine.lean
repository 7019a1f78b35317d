/-
**The engine.**

Settings, rules and the files that rules come from, as a host uses them together. What a host does in
two goes, such as updating settings in a store that takes its time, is two steps here, so that other
steps can come between them.

* `Engine` — the state.
* `Engine.startLoad`, `Engine.finishLoad` — settings and their rules are taken from the store.
* `Engine.startUpdate`, `Engine.finishUpdate` — settings are changed, and their rules used if their
  text is another one.
* `Engine.openFile`, `Engine.finishRead`, `Engine.watchFile` — rules are taken from a file. Only the
  file that was opened last acts on the rules.
* `Engine.handleKey` — what to do for a key.
-/

import Pairing.RuleStore
import Pairing.RulesFile.Reading
import Pairing.RulesFile.Watch
import Pairing.Settings

namespace Pairing

/-- The state of an engine. -/
structure Engine where
  /-- The settings, in memory and in the store. -/
  settings : SettingsState
  /-- What keystrokes are handled by. It follows the settings when a step is finished. -/
  keystrokes : KeystrokeSettings
  /-- The rules. -/
  rules : RuleStore
  /-- The files that rules were taken from, in the order in which they were opened. -/
  files : List RulesFile
  /-- The number of the file that acts on the rules. -/
  current : Option Nat

/-- What came of a file that was read. -/
inductive FileOutcome where
  /-- Another file was opened, or the engine was unloaded, before it was read. -/
  | replaced (path : Text)
  /-- Its rules were used or refused. -/
  | applied (outcome : LoadOutcome)

/-- What is told of a file that was replaced. -/
def replacedMessage (path : Text) : Text :=
  Text.ofString "Rules file " ++ path ++ Text.ofString " was replaced before it finished loading"

/-- The wording of what is wrong, if anything is. -/
def FileOutcome.error? : FileOutcome → Option Text
  | .replaced path => some (replacedMessage path)
  | .applied outcome => outcome.error?

namespace Engine

/-- An engine with the default rules that a value holds, beside a store with some data in it. The rules
are those of a fresh installation where there is no such value. -/
def start (defaults : Data HostFunction) (stored : Data Unit) : Except RuleConfigFault Engine :=
  (RuleStore.start (defaults.orElse .missing)).map fun rules =>
    ⟨.start stored, Settings.initial.keystrokes, rules, [], none⟩

/-! ### Settings -/

/-- Reads the store. -/
def startLoad (engine : Engine) : Data Unit :=
  engine.settings.stored

/-- Takes settings and rules from data that was in the store. -/
def finishLoad (engine : Engine) (data : Data Unit) : Engine × LoadOutcome :=
  let settings := engine.settings.take data
  let (rules, outcome) := engine.rules.loadText settings.settings.rulesText
  ({ engine with settings := settings, keystrokes := settings.settings.keystrokes, rules := rules },
    outcome)

/-- Takes settings and rules from the store. -/
def load (engine : Engine) : Engine × LoadOutcome :=
  engine.finishLoad engine.startLoad

/-- Changes settings in memory and puts them into the store. The text of the rules before the change is
to be remembered. -/
def startUpdate (engine : Engine) (change : Data Unit) : Engine × Text :=
  ({ engine with settings := engine.settings.update change }, engine.settings.settings.rulesText)

/-- Lets keystrokes follow the settings, and uses their rules if the text is not the one that was
remembered. -/
def finishUpdate (engine : Engine) (remembered : Text) : Engine × Option LoadOutcome :=
  let settings := engine.settings.settings
  let engine := { engine with keystrokes := settings.keystrokes }
  if settings.rulesText = remembered then (engine, none)
  else
    let (rules, outcome) := engine.rules.loadText settings.rulesText
    ({ engine with rules := rules }, some outcome)

/-- Changes settings, and uses their rules if the text is another one. -/
def update (engine : Engine) (change : Data Unit) : Engine × Option LoadOutcome :=
  let (engine, remembered) := engine.startUpdate change
  engine.finishUpdate remembered

/-- Changes settings in memory, while the store refuses them. -/
def updateUnsaved (engine : Engine) (change : Data Unit) : Engine :=
  { engine with settings := engine.settings.change change }

/-- Goes back to the last configuration that could be used. -/
def reset (engine : Engine) : Engine × LoadOutcome :=
  let (rules, outcome) := engine.rules.reset
  ({ engine with rules := rules }, outcome)

/-! ### Files -/

/-- Changes one of the files. -/
def modifyFile (engine : Engine) (number : Nat) (f : RulesFile → RulesFile) : Engine :=
  { engine with files := engine.files.modify number f }

/-- Stops watching the file that acts on the rules. -/
def closeCurrent (engine : Engine) : Engine :=
  match engine.current with
  | none => engine
  | some number => engine.modifyFile number RulesFile.cleanup

/-- Opens a file, which is the one to act on the rules from now on. Its number is that of the files
opened before. -/
def openFile (engine : Engine) (path : Text) : Engine :=
  { engine.closeCurrent with
    files := engine.closeCurrent.files ++ [RulesFile.unwatched path]
    current := some engine.files.length }

/-- Takes no rules from any file from now on. -/
def unload (engine : Engine) : Engine :=
  { engine.closeCurrent with current := none }

/-- Uses the rules of a file that was read, unless another file is to act on the rules. -/
def finishRead (engine : Engine) (number : Nat) (path : Text) (text : FileText) :
    Engine × FileOutcome :=
  if engine.current ≠ some number then (engine, .replaced path)
  else
    let (rules, outcome) :=
      match text with
      | .ok text => engine.rules.loadRead text
      | .error reason => engine.rules.reject reason
    ({ engine with rules := rules }, .applied outcome)

/-- Watches a file, if it still is the one to act on the rules and the host lets it be watched. Else
there may be something to tell. -/
def watchFile (engine : Engine) (number : Nat) (host : Host) : Engine × Host × Option Text :=
  if engine.current ≠ some number then (engine, host, none)
  else
    match engine.files[number]? with
    | none => (engine, host, none)
    | some file =>
      let (file, host, failure) := file.startWatching host
      ({ engine with files := engine.files.set number file }, host, failure)

/-- The files after the host reports a change at a path. -/
def noticeChange (path : Text) : List RulesFile → Host → List RulesFile × Host
  | [], host => ([], host)
  | file :: rest, host =>
    let (file, host) := file.noticeChange path host
    let (rest, host) := noticeChange path rest host
    (file :: rest, host)

/-- The host reports a change at a path. -/
def fileChanged (engine : Engine) (path : Text) (host : Host) : Engine × Host :=
  let (files, host) := noticeChange path engine.files host
  ({ engine with files := files }, host)

/-- The host reports that watching a path failed. -/
def watcherFailed (engine : Engine) (path : Text) : Engine :=
  { engine with files := engine.files.map (·.noticeFailure path) }

theorem length_closeCurrent (engine : Engine) :
    engine.closeCurrent.files.length = engine.files.length := by
  unfold closeCurrent
  split
  · rfl
  · simp [modifyFile]

theorem finishRead_of_replaced {engine : Engine} {number : Nat} (replaced : engine.current ≠ some number)
    (path : Text) (text : FileText) :
    engine.finishRead number path text = (engine, .replaced path) := by
  simp [finishRead, replaced]

/-! ### Keys -/

/-- What to do for a key. -/
def handleKey (engine : Engine) (key : Text) (snapshot : Snapshot) (oracle : Oracle) :
    Except Fault Response :=
  Pairing.handleKey engine.rules.index engine.keystrokes key snapshot oracle

/-- The keys that a host has to pass on. -/
def boundKeys (engine : Engine) : List Text :=
  Pairing.boundKeys engine.rules.index

end Engine

end Pairing
