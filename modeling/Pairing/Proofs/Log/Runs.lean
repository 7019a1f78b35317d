/-
**What a log keeps and tells.**

A log keeps the newest of the entries that were added since it was cleared, as many as it has room for, and tells each
entry to whoever listens when it is added.

* `LogEvent`, `Log.perform`, `Log.run`: what is asked of a log, once or several times;
* `appended`, `sinceClear`, `capacityAfter`, `heardBy`: what a run comes to, read off what was asked;
* `Log.IsKept`, `Log.entries_perform`, `Log.heardBy_perform`: what is true of every log, and what one event changes;
* `Log.entries_run_suffix`, `Log.lost_iff`, `Log.heardBy_run_between`: what is kept, lost and heard in a run.

`Log.run_keeps_newest` says so of every run, and which decisions of handlers stay.
-/

import Mathlib.Data.List.DropRight
import Mathlib.Data.List.Nodup
import Pairing.Proofs.Log.Handler

namespace Pairing

variable {φ : Type}

/-- What is asked of a log. -/
inductive LogEvent (φ : Type) where
  /-- A note is recorded. -/
  | record (time : Int) (topic : Text) (parts : List (Data φ))
  /-- A decision is recorded. -/
  | recordDecision (time : Int) (decision : DecisionRecord)
  /-- A handler is called. -/
  | handle (time : Int) (call : HandlerCall)
  /-- The number of entries that are kept is set. -/
  | setCapacity (limit : Int)
  /-- The entries are dropped. -/
  | clear
  /-- A listener is added. -/
  | subscribe (listener : Nat)
  /-- A listener is removed. -/
  | unsubscribe (listener : Nat)

namespace LogEvent

/-- Whether the entries are dropped. -/
def isClear : LogEvent φ → Bool
  | clear => true
  | _ => false

/-- The number of entries that is asked for. -/
def limit? : LogEvent φ → Option Int
  | setCapacity limit => some limit
  | _ => none

/-- The decision that comes to be recorded. -/
def decision? : LogEvent φ → Option DecisionRecord
  | recordDecision _ decision => some decision
  | handle _ call => some call.verdict.record
  | _ => none

/-- The entry that is added. There is none for a note that cannot be put into words. -/
def appended? [Callable φ] : LogEvent φ → Option LogEntry
  | record time topic parts => (Log.wording parts).toOption.map fun message => ⟨time, topic, message, none⟩
  | recordDecision time decision => some ⟨time, decisionTopic, decision.text, some decision⟩
  | handle time call => some ⟨time, decisionTopic, call.verdict.record.text, some call.verdict.record⟩
  | _ => none

theorem isClear_iff {event : LogEvent φ} : event.isClear = true ↔ event = .clear := by
  cases event <;> simp [isClear]

theorem ne_clear_of_adds [Callable φ] {event : LogEvent φ} {entry : LogEntry} (adds : event.appended? = some entry) :
    event ≠ .clear := by
  rintro rfl
  cases adds

theorem limit?_of_adds [Callable φ] {event : LogEvent φ} {entry : LogEntry} (adds : event.appended? = some entry) :
    event.limit? = none := by
  cases event <;> first | rfl | cases adds

theorem decision?_eq [Callable φ] (event : LogEvent φ) : event.decision? = event.appended?.bind (·.decision) := by
  cases event with
  | record time topic parts =>
    dsimp only [decision?, appended?]
    cases (Log.wording parts).toOption <;> rfl
  | _ => rfl

end LogEvent

/-! ### What a run comes to -/

/-- The entries that are added. -/
def appended [Callable φ] (events : List (LogEvent φ)) : List LogEntry :=
  events.filterMap (·.appended?)

/-- What was asked since the entries were last dropped. -/
def sinceClear (events : List (LogEvent φ)) : List (LogEvent φ) :=
  events.rtakeWhile fun event => !event.isClear

/-- How many entries are kept in the end. -/
def capacityAfter (events : List (LogEvent φ)) : Int :=
  ((events.filterMap (·.limit?)).getLast?.map (max Log.leastCapacity)).getD Log.initialCapacity

/-- What a listener is told. -/
def heardBy (listener : Nat) (deliveries : List Delivery) : List LogEntry :=
  (deliveries.filter (·.listener == listener)).map (·.entry)

section Reading

variable [Callable φ] {earlier later : List (LogEvent φ)} {event : LogEvent φ}

theorem appended_append : appended (earlier ++ later) = appended earlier ++ appended later :=
  List.filterMap_append

theorem appended_singleton : appended [event] = event.appended?.toList := by
  unfold appended
  cases adds : event.appended? <;> simp [adds]

theorem appended_concat : appended (earlier ++ [event]) = appended earlier ++ event.appended?.toList := by
  rw [appended_append, appended_singleton]

theorem filterMap_decision_appended : (appended earlier).filterMap (·.decision) = earlier.filterMap (·.decision?) := by
  unfold appended
  rw [List.filterMap_filterMap]
  exact List.filterMap_congr fun event _ => event.decision?_eq.symm

omit [Callable φ] in
theorem sinceClear_append (kept : .clear ∉ later) : sinceClear (earlier ++ later) = sinceClear earlier ++ later := by
  induction later using List.reverseRecOn with
  | nil => rw [List.append_nil, List.append_nil]
  | append_singleton rest last ih =>
    rw [List.mem_append, List.mem_singleton, not_or] at kept
    have stays : (!last.isClear) = true := by
      rw [Bool.not_eq_true', Bool.eq_false_iff, ne_eq, LogEvent.isClear_iff]
      exact Ne.symm kept.2
    have grows := List.rtakeWhile_concat_pos (fun event => !event.isClear) (earlier ++ rest) last stays
    unfold sinceClear at ih ⊢
    rw [← List.append_assoc, grows, ih kept.1, List.append_assoc]

omit [Callable φ] in
theorem capacityAfter_concat :
    capacityAfter (earlier ++ [event]) = (event.limit?.map (max Log.leastCapacity)).getD (capacityAfter earlier) := by
  unfold capacityAfter
  rw [List.filterMap_append]
  cases limit : event.limit? <;> simp [limit]

theorem heardBy_append (listener : Nat) (told more : List Delivery) :
    heardBy listener (told ++ more) = heardBy listener told ++ heardBy listener more := by
  unfold heardBy
  rw [List.filter_append, List.map_append]

end Reading

namespace Log

/-! ### What is asked of a log -/

/-- Does what is asked of a log. -/
def perform [Callable φ] (filter : TopicFilter) (log : Log) : LogEvent φ → Log × List Delivery
  | .record time topic parts =>
    match log.record time topic parts with
    | .ok told => told
    | .error _ => (log, [])
  | .recordDecision time decision => log.recordDecision time decision
  | .handle time call => ((log.handle filter time call).log, (log.handle filter time call).deliveries)
  | .setCapacity limit => (log.setCapacity limit, [])
  | .clear => (log.clear, [])
  | .subscribe listener => (log.subscribe listener, [])
  | .unsubscribe listener => (log.unsubscribe listener, [])

/-- Does what is asked of a log, one thing after the other. -/
def run [Callable φ] (filter : TopicFilter) (log : Log) : List (LogEvent φ) → Log × List Delivery
  | [] => (log, [])
  | event :: rest =>
    let (next, told) := log.perform filter event
    let (last, more) := next.run filter rest
    (last, told ++ more)

/-- The log once it did what adds no entry. -/
def adjusted (log : Log) : LogEvent φ → Log
  | .setCapacity limit => log.setCapacity limit
  | .clear => log.clear
  | .subscribe listener => log.subscribe listener
  | .unsubscribe listener => log.unsubscribe listener
  | _ => log

/-- What is true of every log that was new once. -/
structure IsKept (log : Log) : Prop where
  /-- There is room for some entries. -/
  roomy : leastCapacity ≤ log.capacity
  /-- There are no more entries than there is room for. -/
  bounded : log.entries.length ≤ log.capacity
  /-- No listener is told an entry twice. -/
  distinct : log.listeners.Nodup

theorem isKept_empty : empty.IsKept :=
  ⟨by decide, by decide, List.nodup_nil⟩

theorem newest_suffix (capacity : Int) (entries : List LogEntry) : newest capacity entries <:+ entries :=
  List.drop_suffix _ _

theorem newest_of_le {capacity : Int} {entries : List LogEntry} (fits : entries.length ≤ capacity) :
    newest capacity entries = entries := by
  unfold newest
  rw [Int.toNat_of_nonpos (by omega), List.drop_zero]

theorem length_newest {capacity : Int} (roomy : leastCapacity ≤ capacity) (entries : List LogEntry) :
    ((newest capacity entries).length : Int) = min capacity entries.length := by
  unfold newest
  unfold leastCapacity at roomy
  rw [List.length_drop]
  omega

/-! ### Listeners -/

theorem mem_listeners_subscribe {log : Log} {listener other : Nat} :
    listener ∈ (log.subscribe other).listeners ↔ listener = other ∨ listener ∈ log.listeners := by
  unfold subscribe
  split
  · next known =>
    exact ⟨Or.inr, fun either => either.elim (fun same => same ▸ List.contains_iff_mem.mp known) id⟩
  · rw [List.mem_append, List.mem_singleton, or_comm]

theorem nodup_listeners_subscribe {log : Log} (distinct : log.listeners.Nodup) (listener : Nat) :
    (log.subscribe listener).listeners.Nodup := by
  unfold subscribe
  split
  · exact distinct
  · next new =>
    rw [List.contains_iff_mem] at new
    rw [← List.concat_eq_append]
    exact (List.nodup_concat _ _).mpr ⟨new, distinct⟩

theorem entries_subscribe (log : Log) (listener : Nat) : (log.subscribe listener).entries = log.entries := by
  unfold subscribe
  split <;> rfl

theorem capacity_subscribe (log : Log) (listener : Nat) : (log.subscribe listener).capacity = log.capacity := by
  unfold subscribe
  split <;> rfl

/-- A listener is told an entry that is added, once. -/
theorem heardBy_append_entry {log : Log} (distinct : log.listeners.Nodup) (entry : LogEntry) (listener : Nat) :
    heardBy listener (log.append entry).2 = if listener ∈ log.listeners then [entry] else [] := by
  have told : (log.append entry).2.filter (·.listener == listener) =
      (log.listeners.filter (· == listener)).map fun listener => ⟨listener, entry⟩ := by
    unfold append
    rw [List.filter_map]
    rfl
  unfold heardBy
  rw [told, List.filter_beq, List.map_map, List.map_replicate, distinct.count]
  split <;> rfl

/-! ### One thing that is asked -/

section Steps

variable [Callable φ] {filter : TopicFilter} {log : Log} {event : LogEvent φ} {entry : LogEntry} {listener : Nat}

theorem perform_of_adds_none (adds : event.appended? = none) : log.perform filter event = (log.adjusted event, []) := by
  cases event with
  | record time topic parts =>
    rw [LogEvent.appended?] at adds
    rw [perform, Log.record]
    cases worded : wording parts with
    | error cause => rfl
    | ok message =>
      rw [worded] at adds
      cases adds
  | recordDecision time decision => cases adds
  | handle time call => cases adds
  | _ => rfl

-- Here the notes of handlers are left out, so that a call adds one entry as well.
variable (quiet : filter.accepts (topicOf "pair-handlers") = false)

include quiet

/-- What is asked of a log adds one entry at the most. -/
theorem perform_of_adds (adds : event.appended? = some entry) : log.perform filter event = log.append entry := by
  cases event with
  | record time topic parts =>
    obtain ⟨message, worded, rfl⟩ := Option.map_eq_some_iff.mp adds
    rw [perform, Log.record, eq_ok_of_toOption worded]
    rfl
  | recordDecision time decision =>
    obtain rfl := Option.some.inj adds
    rfl
  | handle time call =>
    obtain rfl := Option.some.inj adds
    rw [perform, log.handle_of_quiet time call quiet]
    rfl
  | _ => cases adds

theorem capacity_perform :
    (log.perform filter event).1.capacity = (event.limit?.map (max leastCapacity)).getD log.capacity := by
  cases adds : event.appended? with
  | some entry =>
    rw [perform_of_adds quiet adds, event.limit?_of_adds adds]
    rfl
  | none =>
    rw [perform_of_adds_none adds]
    cases event with
    | subscribe listener => exact log.capacity_subscribe listener
    | _ => rfl

/-- What is asked of a log leaves the newest of its entries and of the one that is added. -/
theorem entries_perform (kept : log.IsKept) :
    (log.perform filter event).1.entries =
      if event.isClear then []
      else newest (log.perform filter event).1.capacity (log.entries ++ event.appended?.toList) := by
  cases adds : event.appended? with
  | some entry =>
    rw [perform_of_adds quiet adds, if_neg (LogEvent.isClear_iff.not.mpr (event.ne_clear_of_adds adds))]
    rfl
  | none =>
    rw [perform_of_adds_none adds, Option.toList_none, List.append_nil]
    have same := (newest_of_le kept.bounded).symm
    cases event with
    | setCapacity limit => rfl
    | clear => rfl
    | subscribe listener =>
      show (log.subscribe listener).entries = newest (log.subscribe listener).capacity log.entries
      rw [entries_subscribe, capacity_subscribe]
      exact same
    | _ => exact same

theorem mem_listeners_perform :
    listener ∈ (log.perform filter event).1.listeners ↔
      event = .subscribe listener ∨ (listener ∈ log.listeners ∧ event ≠ .unsubscribe listener) := by
  cases adds : event.appended? with
  | some entry =>
    have others : event ≠ .subscribe listener ∧ event ≠ .unsubscribe listener := by
      constructor <;> rintro rfl <;> cases adds
    rw [perform_of_adds quiet adds, or_iff_right others.1, and_iff_left others.2]
    rfl
  | none =>
    rw [perform_of_adds_none adds]
    cases event with
    | subscribe other =>
      show listener ∈ (log.subscribe other).listeners ↔ _
      simp [mem_listeners_subscribe, @eq_comm _ listener other]
    | unsubscribe other =>
      show listener ∈ log.listeners.filter (· != other) ↔ _
      simp [@eq_comm _ listener other]
    | _ =>
      show listener ∈ log.listeners ↔ _
      simp

theorem nodup_listeners_perform (distinct : log.listeners.Nodup) : (log.perform filter event).1.listeners.Nodup := by
  cases adds : event.appended? with
  | some entry =>
    rw [perform_of_adds quiet adds]
    exact distinct
  | none =>
    rw [perform_of_adds_none adds]
    cases event with
    | subscribe listener => exact nodup_listeners_subscribe distinct listener
    | unsubscribe listener => exact distinct.filter _
    | _ => exact distinct

theorem IsKept.perform (kept : log.IsKept) (event : LogEvent φ) : (log.perform filter event).1.IsKept := by
  have roomy : leastCapacity ≤ (log.perform filter event).1.capacity := by
    rw [capacity_perform quiet]
    cases event.limit? with
    | none => exact kept.roomy
    | some limit => exact Int.le_max_left _ _
  refine ⟨roomy, ?_, nodup_listeners_perform quiet kept.distinct⟩
  rw [entries_perform quiet kept]
  split
  · exact Int.le_trans (by decide) roomy
  · rw [length_newest roomy]
    exact Int.min_le_left _ _

/-- Who listens hears the entry that is added. -/
theorem heardBy_perform (kept : log.IsKept) :
    heardBy listener (log.perform filter event).2 =
      if listener ∈ log.listeners then event.appended?.toList else [] := by
  cases adds : event.appended? with
  | some entry =>
    rw [perform_of_adds quiet adds, heardBy_append_entry kept.distinct]
    rfl
  | none =>
    rw [perform_of_adds_none adds, Option.toList_none, ite_self]
    rfl

end Steps

/-! ### Runs -/

section Runs

variable [Callable φ] {filter : TopicFilter} {log : Log} {earlier later events : List (LogEvent φ)} {event : LogEvent φ}
  {entry : LogEntry} {listener : Nat}

theorem run_append (log : Log) (earlier later : List (LogEvent φ)) :
    log.run filter (earlier ++ later) =
      (((log.run filter earlier).1.run filter later).1,
        (log.run filter earlier).2 ++ ((log.run filter earlier).1.run filter later).2) := by
  induction earlier generalizing log with
  | nil => rfl
  | cons event rest ih => simp only [List.cons_append, run, ih, List.append_assoc]

theorem run_concat (log : Log) (events : List (LogEvent φ)) (event : LogEvent φ) :
    (log.run filter (events ++ [event])).1 = ((log.run filter events).1.perform filter event).1 := by
  rw [run_append]
  rfl

variable (quiet : filter.accepts (topicOf "pair-handlers") = false)

include quiet

theorem IsKept.run (kept : log.IsKept) (events : List (LogEvent φ)) : (log.run filter events).1.IsKept := by
  induction events generalizing log with
  | nil => exact kept
  | cons event rest ih => exact ih (kept.perform quiet event)

theorem capacity_run (events : List (LogEvent φ)) :
    (empty.run filter events).1.capacity = capacityAfter events := by
  induction events using List.reverseRecOn with
  | nil => rfl
  | append_singleton rest last ih => rw [run_concat, capacity_perform quiet, capacityAfter_concat, ih]

/-- What is kept are the last ones of the entries that were added since they were last dropped. -/
theorem entries_run_suffix (events : List (LogEvent φ)) :
    (empty.run filter events).1.entries <:+ appended (sinceClear events) := by
  induction events using List.reverseRecOn with
  | nil => exact List.suffix_refl _
  | append_singleton rest last ih =>
    rw [run_concat, entries_perform quiet (isKept_empty.run quiet rest)]
    split
    · exact List.nil_suffix
    · next stays =>
      have kept : LogEvent.clear ∉ [last] := by
        rw [List.mem_singleton]
        exact Ne.symm (LogEvent.isClear_iff.not.mp stays)
      rw [sinceClear_append kept, appended_concat]
      exact (newest_suffix _ _).trans (List.suffix_append_self_iff.mpr ih)

theorem length_entries_concat (events : List (LogEvent φ)) (stays : event ≠ .clear) :
    ((empty.run filter (events ++ [event])).1.entries.length : Int) =
      min (capacityAfter (events ++ [event]))
        ((empty.run filter events).1.entries.length + event.appended?.toList.length) := by
  have kept := isKept_empty.run quiet events
  rw [← capacity_run quiet, run_concat, entries_perform quiet kept, if_neg (LogEvent.isClear_iff.not.mpr stays),
    length_newest (kept.perform quiet event).roomy, List.length_append, Int.natCast_add]

/-- As long as the entries are not dropped, there are more of them than were added after one of them exactly if there
was room for more than that at every moment since. -/
theorem length_lt_iff (adds : event.appended? = some entry) (stay : .clear ∉ later) :
    (appended later).length < (empty.run filter (earlier ++ event :: later)).1.entries.length ↔
      ∀ moment, moment <+: later →
        ((appended moment).length : Int) < capacityAfter (earlier ++ event :: moment) := by
  induction later using List.reverseRecOn with
  | nil =>
    have roomy := (isKept_empty.run quiet (earlier ++ [event])).roomy
    have count := length_entries_concat quiet earlier (event.ne_clear_of_adds adds)
    rw [capacity_run quiet] at roomy
    rw [adds] at count
    unfold leastCapacity at roomy
    refine iff_of_true ?_ fun moment atOnce => ?_
    · show 0 < _
      rw [Option.toList_some, List.length_singleton] at count
      omega
    · rw [List.prefix_nil.mp atOnce]
      show ((0 : Nat) : Int) < _
      omega
  | append_singleton rest last ih =>
    rw [List.mem_append, List.mem_singleton, not_or] at stay
    have split : earlier ++ event :: (rest ++ [last]) = (earlier ++ event :: rest) ++ [last] := by
      rw [List.append_assoc, List.cons_append]
    have count := length_entries_concat quiet (earlier ++ event :: rest) (Ne.symm stay.2)
    have latest : (∀ moment, moment <+: rest ++ [last] →
          ((appended moment).length : Int) < capacityAfter (earlier ++ event :: moment)) ↔
        ((appended (rest ++ [last])).length : Int) < capacityAfter (earlier ++ event :: (rest ++ [last])) ∧
          ∀ moment, moment <+: rest →
            ((appended moment).length : Int) < capacityAfter (earlier ++ event :: moment) := by
      simp only [List.prefix_concat_iff, forall_eq_or_imp]
    rw [latest, ← ih stay.1, split, appended_concat, List.length_append]
    omega

/-- An entry that was added since the entries were last dropped is lost exactly if there came a moment at which as many
newer ones had been added as there was room for. -/
theorem lost_iff (adds : event.appended? = some entry) (stay : .clear ∉ later) :
    ¬ entry :: appended later <:+ (empty.run filter (earlier ++ event :: later)).1.entries ↔
      ∃ moment, moment <+: later ∧
        capacityAfter (earlier ++ event :: moment) ≤ (appended moment).length := by
  have kept : entry :: appended later <:+ (empty.run filter (earlier ++ event :: later)).1.entries ↔
      (appended later).length < (empty.run filter (earlier ++ event :: later)).1.entries.length := by
    have stays : LogEvent.clear ∉ event :: later := by
      rw [List.mem_cons, not_or]
      exact ⟨Ne.symm (event.ne_clear_of_adds adds), stay⟩
    have newer : entry :: appended later <:+ appended (sinceClear (earlier ++ event :: later)) := by
      have same : entry :: appended later = appended (event :: later) := (List.filterMap_cons_some adds).symm
      rw [sinceClear_append stays, appended_append, same]
      exact List.suffix_append _ _
    refine ⟨fun suffix => suffix.length_le, fun shorter => ?_⟩
    exact List.suffix_of_suffix_length_le newer (entries_run_suffix quiet _) shorter
  rw [kept, length_lt_iff quiet adds stay]
  simp only [not_forall, Int.not_lt, exists_prop]

/-- Who listens hears what is added until they are removed. -/
theorem heardBy_run_of_listening (kept : log.IsKept) (listens : listener ∈ log.listeners)
    (stays : .unsubscribe listener ∉ events) :
    heardBy listener (log.run filter events).2 = appended events ∧ listener ∈ (log.run filter events).1.listeners := by
  induction events generalizing log with
  | nil => exact ⟨rfl, listens⟩
  | cons event rest ih =>
    rw [List.mem_cons, not_or] at stays
    have still := (mem_listeners_perform quiet).mpr (Or.inr ⟨listens, Ne.symm stays.1⟩)
    obtain ⟨heard, last⟩ := ih (kept.perform quiet event) still stays.2
    refine ⟨?_, last⟩
    show heardBy listener ((log.perform filter event).2 ++ ((log.perform filter event).1.run filter rest).2) = _
    rw [heardBy_append, heardBy_perform quiet kept, if_pos listens, heard, ← appended_singleton]
    exact appended_append.symm

/-- Who does not listen hears nothing until they are added. -/
theorem heardBy_run_of_not_listening (kept : log.IsKept) (out : listener ∉ log.listeners)
    (never : .subscribe listener ∉ events) :
    heardBy listener (log.run filter events).2 = [] ∧ listener ∉ (log.run filter events).1.listeners := by
  induction events generalizing log with
  | nil => exact ⟨rfl, out⟩
  | cons event rest ih =>
    rw [List.mem_cons, not_or] at never
    have still : listener ∉ (log.perform filter event).1.listeners := by
      rw [mem_listeners_perform quiet, not_or]
      exact ⟨Ne.symm never.1, fun listens => out listens.1⟩
    obtain ⟨heard, last⟩ := ih (kept.perform quiet event) still never.2
    refine ⟨?_, last⟩
    show heardBy listener ((log.perform filter event).2 ++ ((log.perform filter event).1.run filter rest).2) = _
    rw [heardBy_append, heardBy_perform quiet kept, if_neg out, heard]
    rfl

/-- A listener that is added hears what is added after that until it is removed. -/
theorem heardBy_run_of_subscribed (kept : log.IsKept) (stays : .unsubscribe listener ∉ events) :
    heardBy listener (log.run filter (.subscribe listener :: events)).2 = appended events := by
  have listens : listener ∈ (log.perform filter (.subscribe listener : LogEvent φ)).1.listeners :=
    (mem_listeners_perform quiet).mpr (Or.inl rfl)
  exact (heardBy_run_of_listening quiet (kept.perform quiet _) listens stays).1

/-- A listener that is removed hears nothing after that until it is added again. -/
theorem heardBy_run_of_unsubscribed (kept : log.IsKept) (never : .subscribe listener ∉ events) :
    heardBy listener (log.run filter (.unsubscribe listener :: events)).2 = [] := by
  have out : listener ∉ (log.perform filter (.unsubscribe listener : LogEvent φ)).1.listeners := by
    rw [mem_listeners_perform quiet]
    rintro (added | ⟨-, other⟩)
    · cases added
    · exact other rfl
  exact (heardBy_run_of_not_listening quiet (kept.perform quiet _) out never).1

/-- A listener hears what is added between its subscription and the end of that, and nothing else. -/
theorem heardBy_run_between {before during rest : List (LogEvent φ)} (never : .subscribe listener ∉ before)
    (stays : .unsubscribe listener ∉ during)
    (ends : rest = [] ∨ ∃ after, rest = .unsubscribe listener :: after ∧ .subscribe listener ∉ after) :
    heardBy listener (empty.run filter (before ++ .subscribe listener :: during ++ rest)).2 = appended during := by
  have keptBefore : (empty.run filter before).1.IsKept := isKept_empty.run quiet before
  have heardBefore := (heardBy_run_of_not_listening quiet isKept_empty List.not_mem_nil never).1
  have heardDuring := heardBy_run_of_subscribed quiet keptBefore stays
  have heardAfter : heardBy listener
      (((empty.run filter before).1.run filter (.subscribe listener :: during)).1.run filter rest).2 = [] := by
    obtain rfl | ⟨after, rfl, neverAgain⟩ := ends
    · rfl
    · exact heardBy_run_of_unsubscribed quiet (keptBefore.run quiet _) neverAgain
  rw [List.append_assoc, run_append, run_append]
  dsimp only
  rw [heardBy_append, heardBy_append, heardBefore, heardDuring, heardAfter, List.nil_append, List.append_nil]

/-- The decisions are the last ones of those that were made since the entries were last dropped. -/
theorem decisions_run_suffix (events : List (LogEvent φ)) :
    (empty.run filter events).1.decisions <:+ (sinceClear events).filterMap (·.decision?) := by
  rw [← filterMap_decision_appended]
  exact (entries_run_suffix quiet events).filterMap _

/-- Where no other notes are recorded, each entry is a decision. -/
theorem length_decisions_run (noNotes : ∀ time topic parts, .record time topic parts ∉ sinceClear events) :
    (empty.run filter events).1.decisions.length = (empty.run filter events).1.entries.length := by
  refine List.filterMap_length_eq_length.mpr fun entry member => ?_
  obtain ⟨event, asked, adds⟩ := List.mem_filterMap.mp ((entries_run_suffix quiet events).mem member)
  cases event with
  | record time topic parts => exact absurd asked (noNotes time topic parts)
  | recordDecision time decision =>
    obtain rfl := Option.some.inj adds
    rfl
  | handle time call =>
    obtain rfl := Option.some.inj adds
    rfl
  | _ => cases adds

end Runs

/-- **The log is a faithful bounded suffix.** Whatever is asked of a new log, where the notes of handlers are left out:

the entries that it keeps are the last ones of those that were added since they were last dropped, and no more of them
than it has room for; an entry that was added since then is lost exactly if there came a moment at which as many newer
ones had been added as there was room for; a listener hears exactly what is added between its subscription and the end
of that, what is lost meanwhile too; and the decisions are the last ones of those that were made, all of the entries
where no other notes are recorded. A call of a handler gives an edit, and its decision names the key, its kind and that
of the edit, with an error exactly if the computation of what the key does fails. -/
theorem run_keeps_newest [Callable φ] {filter : TopicFilter}
    (quiet : filter.accepts (topicOf "pair-handlers") = false) (events : List (LogEvent φ)) :
    let log := (empty.run filter events).1
    let deliveries := (empty.run filter events).2
    log.entries <:+ appended (sinceClear events) ∧
    log.capacity = capacityAfter events ∧ log.entries.length ≤ capacityAfter events ∧
    (∀ earlier event entry later, events = earlier ++ event :: later → event.appended? = some entry → .clear ∉ later →
      (¬ entry :: appended later <:+ log.entries ↔
        ∃ moment, moment <+: later ∧ capacityAfter (earlier ++ event :: moment) ≤ (appended moment).length)) ∧
    (∀ listener before during rest, events = before ++ .subscribe listener :: during ++ rest →
      .subscribe listener ∉ before → .unsubscribe listener ∉ during →
      (rest = [] ∨ ∃ after, rest = .unsubscribe listener :: after ∧ .subscribe listener ∉ after) →
      heardBy listener deliveries = appended during) ∧
    log.decisions <:+ (sinceClear events).filterMap (·.decision?) ∧
    ((∀ time topic parts, .record time topic parts ∉ sinceClear events) →
      log.decisions.length = log.entries.length) ∧
    ∀ (log : Log) (time : Int) (call : HandlerCall), ∃ edit decision,
      (log.handle filter time call).outcome = .ok edit ∧
      (LogEvent.handle time call : LogEvent φ).decision? = some decision ∧
      decision.key = call.key ∧ decision.kind = call.kind ∧ decision.outcome = edit.kind ∧
      (decision.failure.isSome = true ↔ call.Throws) := by
  intro log deliveries
  have capacity : log.capacity = capacityAfter events := capacity_run quiet events
  refine ⟨entries_run_suffix quiet events, capacity, capacity ▸ (isKept_empty.run quiet events).bounded, ?_, ?_,
    decisions_run_suffix quiet events, length_decisions_run quiet, fun log time call => ?_⟩
  · rintro earlier event entry later rfl adds stay
    exact lost_iff quiet adds stay
  · rintro listener before during rest rfl never stays ends
    exact heardBy_run_between quiet never stays ends
  · refine ⟨call.verdict.edit, call.verdict.record, ?_, rfl, call.verdict_record⟩
    rw [log.handle_of_quiet time call quiet]

/-- A listener hears the two calls that come before it is removed, one of which fails. All three decisions stay, as
there is room for them whatever is asked for. -/
theorem run_keeps_newest_of_calls :
    let rule (applies : Predicate) : Rule := ⟨"(", "(", ")", .ofNat 2, 0, applies, fun _ => .always true⟩
    let ctx : Context := .ofSnapshot ⟨"a", ⟨0, 1⟩, "text", .insert, none⟩ .silent
    let call (applies : Predicate) : HandlerCall := ⟨⟨[("(", [rule applies])], []⟩, .printable, "(", ctx⟩
    let paired := call (.always true)
    let failing := call (throw .notCondition)
    let events : List (LogEvent Unit) :=
      [.subscribe 1, .handle 0 paired, .setCapacity (-3), .handle 1 failing, .unsubscribe 1, .handle 2 paired]
    let log := (empty.run .nothing events).1
    heardBy 1 (empty.run .nothing events).2 =
        appended ([.handle 0 paired, .handle 1 failing] : List (LogEvent Unit)) ∧
      log.decisions = [paired.verdict.record, failing.verdict.record, paired.verdict.record] ∧
      paired.verdict.record.outcome = .replace ∧ failing.verdict.record.failure.isSome = true := by
  intro rule ctx call paired failing events log
  have quiet : TopicFilter.nothing.accepts (topicOf "pair-handlers") = false := rfl
  obtain ⟨-, -, -, -, heard, suffix, all, calls⟩ := run_keeps_newest quiet events
  have noNotes : ∀ time topic parts, .record time topic parts ∉ sinceClear events := by
    have whole : sinceClear events = events := rfl
    rw [whole]
    simp [events]
  have count : log.decisions.length = 3 := (all noNotes).trans (by decide +kernel)
  obtain ⟨edit, decision, -, decided, -, -, -, error⟩ := calls log 1 failing
  obtain rfl := Option.some.inj decided
  refine ⟨?_, suffix.eq_of_length count, by decide +kernel, error.mpr ⟨.notCondition, rfl⟩⟩
  exact heard 1 [] [.handle 0 paired, .setCapacity (-3), .handle 1 failing] _ rfl List.not_mem_nil (by simp)
    (Or.inr ⟨[.handle 2 paired], rfl, by simp⟩)

end Log

end Pairing
