/-
**Handlers and what they tell the log.**

A handler decides one key. It tells the log what went wrong with the decision, if anything did and such notes are kept,
and then what was decided.

* `HandlerCall`: a key, with the rules and the context that it is decided by;
* `Log.handle`: what comes of a call, for the log and for the host;
* `HandlerCall.verdict_record`: what the record of a call says;
* `Log.handle_of_quiet`: where the notes of handlers are left out, the record is all that the log is told.
-/

import Pairing.Proofs.Keystroke.Handled

namespace Pairing

/-- A key that a handler is called for. -/
structure HandlerCall where
  /-- The rules. -/
  index : RuleIndex
  /-- The kind of the key. -/
  kind : KeyKind
  /-- The key, if it is one that inserts a character. -/
  typed : Text
  /-- The context. -/
  ctx : Context

namespace HandlerCall

variable (call : HandlerCall)

/-- The key. -/
def key : Text :=
  match call.kind with
  | .printable => call.typed
  | .backspace => backspaceKey
  | .enter => enterKey
  | .space => spaceKey

/-- The computation of what the key does. -/
def decision : Query Outcome :=
  call.index.decision call.kind call.typed

/-- The verdict on the key. -/
def verdict : Verdict :=
  call.index.decide call.kind call.typed call.ctx

/-- The decision fails. -/
def Throws : Prop :=
  ∃ fault, (call.decision.run' call.ctx {}).1 = .error fault

end HandlerCall

/-- What comes of a call of a handler. -/
structure Handling where
  /-- The log. -/
  log : Log
  /-- What listeners are told. -/
  deliveries : List Delivery
  /-- What to do, or what is thrown where no note can be taken of what went wrong. -/
  outcome : Except Thrown Edit

/-- Calls a handler: notes down what went wrong, if anything did, and records the decision. -/
def Log.handle (log : Log) (filter : TopicFilter) (time : Int) (call : HandlerCall) : Handling :=
  let noted : Noted := match call.verdict.fault with
    | none => ⟨log, [], none⟩
    | some fault => log.note filter time (failureNote call.key fault)
  match noted.failure with
  | some cause => ⟨noted.log, noted.deliveries, .error cause⟩
  | none =>
    let (log, deliveries) := noted.log.recordDecision time call.verdict.record
    ⟨log, noted.deliveries ++ deliveries, .ok call.verdict.edit⟩

/-! ### What is recorded -/

theorem HandlerCall.verdict_eq_ofQuery (call : HandlerCall) :
    call.verdict = .ofQuery call.key call.kind call.decision call.ctx := by
  unfold verdict key decision
  cases call.kind <;> rfl

/-- The record of a verdict names the key, its kind and that of the edit, and an error exactly where the computation
fails. -/
theorem Verdict.ofQuery_record (name : Text) (kind : KeyKind) (query : Query Outcome) (ctx : Context) :
    let verdict := Verdict.ofQuery name kind query ctx
    verdict.record.key = name ∧ verdict.record.kind = kind ∧ verdict.record.outcome = verdict.edit.kind ∧
      (verdict.record.failure.isSome = true ↔ ∃ fault, (query.run' ctx {}).1 = .error fault) := by
  unfold Verdict.ofQuery
  dsimp only
  cases (query.run' ctx {}).1 with
  | ok outcome => exact ⟨rfl, rfl, rfl, iff_of_false Bool.false_ne_true fun ⟨_, fails⟩ => nomatch fails⟩
  | error fault => exact ⟨rfl, rfl, rfl, iff_of_true rfl ⟨fault, rfl⟩⟩

theorem HandlerCall.verdict_record (call : HandlerCall) :
    call.verdict.record.key = call.key ∧ call.verdict.record.kind = call.kind ∧
      call.verdict.record.outcome = call.verdict.edit.kind ∧
      (call.verdict.record.failure.isSome = true ↔ call.Throws) := by
  rw [verdict_eq_ofQuery]
  exact Verdict.ofQuery_record call.key call.kind call.decision call.ctx

/-! ### Notes that are left out -/

theorem Log.note_of_left_out (log : Log) {filter : TopicFilter} (time : Int) {note : Note Unit}
    (leftOut : filter.accepts note.topic = false) : log.note filter time note = ⟨log, [], none⟩ :=
  if_neg (ne_true_of_eq_false leftOut)

/-- Where the notes of handlers are left out, a call comes to a recorded decision, whether or not that failed. -/
theorem Log.handle_of_quiet (log : Log) {filter : TopicFilter} (time : Int) (call : HandlerCall)
    (quiet : filter.accepts (topicOf "pair-handlers") = false) :
    log.handle filter time call =
      ⟨(log.recordDecision time call.verdict.record).1, (log.recordDecision time call.verdict.record).2,
        .ok call.verdict.edit⟩ := by
  unfold handle
  cases call.verdict.fault with
  | none => rfl
  | some fault =>
    dsimp only
    have unheard : log.note filter time (failureNote call.key fault) = ⟨log, [], none⟩ :=
      log.note_of_left_out time quiet
    rw [unheard]
    rfl

end Pairing
