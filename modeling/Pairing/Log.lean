/-
**The log.**

Recent notes and decisions are kept, so that a host can show why a key was or was not paired.

* `LogEntry` — a line of the log, with the decision that it records, if it records one.
* `Log` — the entries kept, the oldest first, and who listens to new ones.
* `Log.append` — adds an entry, drops the oldest ones beyond the capacity, and tells every listener.
* `Log.record`, `Log.recordDecision` — entries for a note and for a decision.
* `Log.text?` — the log as text.
-/

import Pairing.Data.Shown
import Pairing.Log.Timestamp
import Pairing.Verdict

namespace Pairing

/-- A line of the log. -/
structure LogEntry where
  /-- When it was written. -/
  time : Int
  /-- What it is about. -/
  topic : Text
  /-- What it says. -/
  message : Text
  /-- The decision that it records. -/
  decision : Option DecisionRecord
  deriving DecidableEq, Repr

/-- An entry told to a listener. -/
structure Delivery where
  /-- The listener. -/
  listener : Nat
  /-- The entry. -/
  entry : LogEntry
  deriving DecidableEq, Repr

/-- The entries kept, and the listeners. -/
structure Log where
  /-- The entries, the oldest first. -/
  entries : List LogEntry
  /-- How many entries are kept. -/
  capacity : Int
  /-- The listeners, in the order in which they are told. -/
  listeners : List Nat
  deriving DecidableEq, Repr

/-- The topic of the entries that record decisions. -/
def decisionTopic : Text := "autopair:decision"

namespace Log

/-- The capacity of a new log. -/
def initialCapacity : Int := 500

/-- The least capacity. -/
def leastCapacity : Int := 50

/-- The log without entries. -/
def empty : Log := ⟨[], initialCapacity, []⟩

/-- The last entries up to a number of them. -/
def newest (capacity : Int) (entries : List LogEntry) : List LogEntry :=
  entries.drop (entries.length - capacity).toNat

/-- Sets how many entries are kept, and drops the oldest ones beyond that. -/
def setCapacity (log : Log) (limit : Int) : Log :=
  let capacity := max leastCapacity limit
  { log with capacity := capacity, entries := newest capacity log.entries }

/-- Adds an entry. -/
def append (log : Log) (entry : LogEntry) : Log × List Delivery :=
  ({ log with entries := newest log.capacity (log.entries ++ [entry]) },
    log.listeners.map fun listener => ⟨listener, entry⟩)

/-- The wording of the parts of a note, or what is thrown because one of them has none. -/
def wording {φ : Type} [Callable φ] (parts : List (Data φ)) : Except Thrown Text :=
  (parts.mapM Data.shown).map (Text.join [Text.space])

/-- Adds an entry for a note. There is none if the note cannot be put into words. -/
def record {φ : Type} [Callable φ] (log : Log) (time : Int) (topic : Text) (parts : List (Data φ)) :
    Except Thrown (Log × List Delivery) :=
  (wording parts).map fun message => log.append ⟨time, topic, message, none⟩

/-- Adds an entry for a decision. -/
def recordDecision (log : Log) (time : Int) (decision : DecisionRecord) : Log × List Delivery :=
  log.append ⟨time, decisionTopic, decision.text, some decision⟩

/-- Adds a listener. -/
def subscribe (log : Log) (listener : Nat) : Log :=
  if log.listeners.contains listener then log
  else { log with listeners := log.listeners ++ [listener] }

/-- Removes a listener. -/
def unsubscribe (log : Log) (listener : Nat) : Log :=
  { log with listeners := log.listeners.filter (· != listener) }

/-- Drops all entries. -/
def clear (log : Log) : Log :=
  { log with entries := [] }

/-- The entries whose topics start with a text. -/
def entriesFor (log : Log) (topicStart : Option Text) : List LogEntry :=
  match topicStart with
  | none => log.entries
  | some start => log.entries.filter fun entry => start.isPrefixOf entry.topic

/-- The decisions that the entries record. -/
def decisions (log : Log) : List DecisionRecord :=
  log.entries.filterMap (·.decision)

/-- An entry as text, if its time has one. -/
def entryText? (entry : LogEntry) : Option Text :=
  (Timestamp.text? entry.time).map fun time =>
    Text.ofString "[" ++ time ++ Text.ofString "] [" ++ entry.topic ++ Text.ofString "] " ++
      entry.message

/-- The log as text, one line for each entry, if all times have a text. -/
def text? (log : Log) : Option Text :=
  (log.entries.mapM entryText?).map (Text.join [Text.newline])

end Log

end Pairing
