/-
**When changes settle.**

A change of a file that is listened to has settled when nothing has happened to the file for a while after it. This
can be told from the events that follow the change, or step by step, from the moment at which it is due:

* `WatchEvent`, `WatchCall`: what happens to a file, and what its listeners are told;
* `WatchEvent.calls`: the calls as the events after each change have it;
* `WatchPhase`: whether somebody listens to a file and a change is settling, and how events change that;
* `WatchPhase.told`: the calls step by step;
* `WatchPhase.told_eq`: these are the same calls.
-/

import Pairing.RulesFile.Watch

namespace Pairing

/-- What happens to a file whose changes may be listened to. -/
inductive WatchEvent where
  /-- The file changes. -/
  | change
  /-- Time passes. -/
  | pass (delay : Nat)
  /-- Watching the file fails. -/
  | failure
  /-- Nobody is to listen any longer. -/
  | cleanup
  /-- Somebody listens from now on, and nobody else. -/
  | watch (listener : Nat)
  deriving DecidableEq, Repr

/-- A listener is told that a change has settled. -/
structure WatchCall where
  /-- When the listener is told. -/
  moment : Nat
  /-- The listener. -/
  listener : Nat
  deriving DecidableEq, Repr

/-! ### Calls by the events that follow a change -/

namespace WatchEvent

variable {events : List WatchEvent} {clock : Nat} {listener : Option Nat}

/-- How long an event takes. -/
def duration : WatchEvent → Nat
  | .pass delay => delay
  | _ => 0

/-- Whether somebody listens from an event on. -/
def isWatch : WatchEvent → Bool
  | .watch _ => true
  | _ => false

/-- Who listens after an event. -/
def listening (listener : Option Nat) : WatchEvent → Option Nat
  | .watch listener => some listener
  | .failure | .cleanup => none
  | .change | .pass _ => listener

/-- How long nothing but the passing of time comes first among events. -/
def quiet : List WatchEvent → Nat
  | .pass delay :: rest => delay + quiet rest
  | _ => 0

/-- The call for an event: a change that is listened to and settles is told of once it has settled. -/
def call (clock : Nat) (listener : Option Nat) (event : WatchEvent) (later : List WatchEvent) : List WatchCall :=
  match event, listener with
  | .change, some listener =>
    if RulesFile.settleDelay ≤ quiet later then [⟨clock + RulesFile.settleDelay, listener⟩] else []
  | _, _ => []

/-- The calls for events, from a moment and a listener on. -/
def calls (clock : Nat) (listener : Option Nat) : List WatchEvent → List WatchCall
  | [] => []
  | event :: rest =>
    event.call clock listener rest ++ calls (clock + event.duration) (event.listening listener) rest

theorem calls_eq_nil_of_notMem (unchanged : .change ∉ events) : calls clock listener events = [] := by
  induction events generalizing clock listener with
  | nil => rfl
  | cons event rest ih =>
    have silent : event.call clock listener rest = [] := by
      cases event with
      | change => exact absurd List.mem_cons_self unchanged
      | _ => rfl
    rw [calls, silent, ih (mt (List.mem_cons_of_mem event) unchanged), List.append_nil]

/-- Nobody is told of anything until there is a listener and then a change. -/
theorem calls_eq_nil (unheard : events.Pairwise fun first second => ¬ (first.isWatch = true ∧ second = .change)) :
    calls clock none events = [] := by
  induction unheard generalizing clock with
  | nil => rfl
  | @cons event rest alone _ ih =>
    cases event with
    | watch listener =>
      have unchanged : .change ∉ rest := fun present => alone _ present ⟨rfl, rfl⟩
      exact (List.nil_append _).trans (calls_eq_nil_of_notMem unchanged)
    | _ => exact ih

end WatchEvent

/-! ### Calls step by step -/

/-- How a file is listened to. -/
inductive WatchPhase where
  /-- Nobody listens. -/
  | closed
  /-- Somebody listens. -/
  | idle (listener : Nat)
  /-- Somebody listens, and a change is due to have settled at a moment. -/
  | settling (listener due : Nat)
  deriving DecidableEq, Repr

namespace WatchPhase

variable {phase : WatchPhase} {clock : Nat}

/-- Who listens. -/
def listener? : WatchPhase → Option Nat
  | .closed => none
  | .idle listener | .settling listener _ => some listener

/-- When a change will have settled. -/
def due? : WatchPhase → Option Nat
  | .closed | .idle _ => none
  | .settling _ due => some due

/-- The phase after an event. -/
def after (clock : Nat) : WatchPhase → WatchEvent → WatchPhase
  | _, .watch listener => .idle listener
  | _, .failure | _, .cleanup | .closed, _ => .closed
  | .idle listener, .change | .settling listener _, .change => .settling listener (clock + RulesFile.settleDelay)
  | .idle listener, .pass _ => .idle listener
  | .settling listener due, .pass delay =>
    if due ≤ clock + delay then .idle listener else .settling listener due

/-- What is told during an event. -/
def call (clock : Nat) : WatchPhase → WatchEvent → List WatchCall
  | .settling listener due, .pass delay => if due ≤ clock + delay then [⟨due, listener⟩] else []
  | _, _ => []

/-- The phase after several events. -/
def run (clock : Nat) (phase : WatchPhase) : List WatchEvent → WatchPhase
  | [] => phase
  | event :: rest => run (clock + event.duration) (phase.after clock event) rest

/-- What is told during several events. -/
def told (clock : Nat) (phase : WatchPhase) : List WatchEvent → List WatchCall
  | [] => []
  | event :: rest => phase.call clock event ++ told (clock + event.duration) (phase.after clock event) rest

/-- A change that is settling is due later. -/
def IsAhead (clock : Nat) (phase : WatchPhase) : Prop :=
  ∀ due ∈ phase.due?, clock < due

/-- What is told of the change that is settling. -/
def pending (clock : Nat) (phase : WatchPhase) (events : List WatchEvent) : List WatchCall :=
  match phase with
  | .settling listener due => if due ≤ clock + WatchEvent.quiet events then [⟨due, listener⟩] else []
  | _ => []

theorem after_settling_pass (clock listener due delay : Nat) : (settling listener due).after clock (.pass delay) =
    if due ≤ clock + delay then .idle listener else .settling listener due := rfl

theorem call_settling_pass (clock listener due delay : Nat) : (settling listener due).call clock (.pass delay) =
    if due ≤ clock + delay then [⟨due, listener⟩] else [] := rfl

theorem listener?_after (clock : Nat) (phase : WatchPhase) (event : WatchEvent) :
    (phase.after clock event).listener? = event.listening phase.listener? := by
  cases event with
  | pass delay =>
    cases phase with
    | settling listener due =>
      rw [after_settling_pass]
      split <;> rfl
    | _ => rfl
  | _ => cases phase <;> rfl

theorem isAhead_closed (clock : Nat) : closed.IsAhead clock := fun due settles => by cases settles

theorem isAhead_after (ahead : phase.IsAhead clock) (event : WatchEvent) :
    (phase.after clock event).IsAhead (clock + event.duration) := by
  intro due settles
  cases event with
  | change =>
    cases phase with
    | closed => cases settles
    | _ =>
      cases settles
      exact Nat.lt_add_of_pos_right (by decide)
  | pass delay =>
    cases phase with
    | settling listener other =>
      rw [after_settling_pass] at settles
      split at settles
      · cases settles
      · next early =>
        cases settles
        exact Nat.lt_of_not_le early
    | _ => cases settles
  | _ => cases phase <;> cases settles

/-- A change that is settling is told of where the events that follow leave it alone for long enough, and then
those are told of that come with the events. -/
theorem call_append_pending (ahead : phase.IsAhead clock) (event : WatchEvent) (later : List WatchEvent) :
    phase.call clock event ++ (phase.after clock event).pending (clock + event.duration) later =
      phase.pending clock (event :: later) ++ event.call clock phase.listener? later := by
  cases phase with
  | closed => cases event <;> rfl
  | idle listener =>
    cases event with
    | change =>
      show (if _ then _ else _) = (if _ then _ else _)
      simp only [WatchEvent.duration, Nat.add_zero, Nat.add_le_add_iff_left]
    | _ => rfl
  | settling listener due =>
    have early : ¬ due ≤ clock + 0 := Nat.not_le.mpr (ahead due rfl)
    cases event with
    | pass delay =>
      rw [call_settling_pass, after_settling_pass, pending, WatchEvent.quiet, ← Nat.add_assoc]
      split
      · next settled =>
        rw [if_pos (Nat.le_add_right_of_le settled)]
        rfl
      · exact (List.append_nil _).symm
    | change =>
      show [] ++ (if _ then _ else _) = (if due ≤ clock + 0 then _ else _) ++ (if _ then _ else _)
      rw [if_neg early]
      simp only [WatchEvent.duration, Nat.add_zero, Nat.add_le_add_iff_left]
    | _ =>
      show [] ++ [] = (if due ≤ clock + 0 then _ else _) ++ []
      rw [if_neg early]

/-- The calls step by step are those that the events after each change have. -/
theorem told_eq (ahead : phase.IsAhead clock) (events : List WatchEvent) :
    phase.told clock events = phase.pending clock events ++ WatchEvent.calls clock phase.listener? events := by
  induction events generalizing clock phase with
  | nil =>
    cases phase with
    | settling listener due =>
      have early : ¬ due ≤ clock + 0 := Nat.not_le.mpr (ahead due rfl)
      show [] = (if due ≤ clock + 0 then _ else _) ++ []
      rw [if_neg early]
      rfl
    | _ => rfl
  | cons event rest ih =>
    rw [told, ih (isAhead_after ahead event), listener?_after, ← List.append_assoc, call_append_pending ahead,
      List.append_assoc]
    rfl

end WatchPhase

end Pairing
