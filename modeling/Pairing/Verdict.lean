/-
**Decisions and how they are recorded.**

Typing must never be blocked by a rule that misbehaves: whatever goes wrong while a key is decided, the
key is let through.

* `KeyKind` — the kinds of keys that are decided.
* `DecisionRecord` — why a key was or was not paired, with its wording in a log.
* `Verdict` — the edit for a key, its record, and what was asked and went wrong on the way.
* `RuleIndex.decide` — the verdict on a key.
-/

import Pairing.Decision

namespace Pairing

/-- The kinds of keys that are decided. -/
inductive KeyKind where
  /-- A key that inserts a character. -/
  | printable
  /-- The backspace key. -/
  | backspace
  /-- The enter key. -/
  | enter
  /-- The space bar. -/
  | space
  deriving DecidableEq, Repr

/-- The name of a kind. -/
def KeyKind.name : KeyKind → Text
  | .printable => "printable"
  | .backspace => "backspace"
  | .enter => "enter"
  | .space => "space"

/-- What a record says about a rule. -/
structure RuleName where
  /-- The key that the rule was declared under. -/
  key : Text
  /-- The opening delimiter. -/
  opening : Text
  /-- The closing delimiter. -/
  closing : Text
  deriving DecidableEq, Repr

/-- What a record says about a rule. -/
def Rule.name (rule : Rule) : RuleName :=
  ⟨rule.key, rule.opening, rule.closing⟩

/-- Why a key was or was not paired. -/
structure DecisionRecord where
  /-- The key. -/
  key : Text
  /-- The kind of the key. -/
  kind : KeyKind
  /-- The kind of the edit. -/
  outcome : EditKind
  /-- The rule that decided, if one did. -/
  rule : Option RuleName
  /-- What went wrong, if anything did. -/
  failure : Option Text
  deriving DecidableEq, Repr

/-- The wording of a record. A failure without words is not mentioned. -/
def DecisionRecord.text (record : DecisionRecord) : Text :=
  let via : Text := match record.rule with
    | some rule => Text.ofString " via " ++ rule.opening ++ rule.closing
    | none => []
  let failure : Text := match record.failure with
    | some (unit :: rest) => Text.ofString " (" ++ unit :: rest ++ Text.ofString ")"
    | _ => []
  record.kind.name ++ [Text.space] ++ record.key.quoted ++ Text.ofString " -> " ++
    record.outcome.name ++ via ++ failure

/-- The verdict on a key. -/
structure Verdict where
  /-- What to do. -/
  edit : Edit
  /-- Why. -/
  record : DecisionRecord
  /-- What went wrong, if anything did. -/
  fault : Option Fault
  /-- What was learned about the context. -/
  memo : Memo

namespace Verdict

/-- The verdict of an outcome, or of the fault that came instead of it. -/
def ofOutcome (key : Text) (kind : KeyKind) (outcome : Except Fault Outcome) (memo : Memo) : Verdict :=
  match outcome with
  | .ok ⟨edit, rule⟩ => ⟨edit, ⟨key, kind, edit.kind, rule.map (·.name), none⟩, none, memo⟩
  | .error fault =>
    ⟨.passThrough key, ⟨key, kind, .passThrough, none, some fault.message⟩, some fault, memo⟩

/-- The verdict that a computation comes to in a context of which nothing is known yet. -/
def ofQuery (key : Text) (kind : KeyKind) (query : Query Outcome) (ctx : Context) : Verdict :=
  let (outcome, memo) := query.run' ctx {}
  ofOutcome key kind outcome memo

end Verdict

namespace RuleIndex

/-- The verdict on a key that inserts a character. -/
def decidePrintable (index : RuleIndex) (key : Text) (ctx : Context) : Verdict :=
  .ofQuery key .printable (Pairing.decidePrintable index key) ctx

/-- The verdict on the backspace key. -/
def decideBackspace (index : RuleIndex) (ctx : Context) : Verdict :=
  .ofQuery backspaceKey .backspace (Pairing.decideBackspace index) ctx

/-- The verdict on the enter key. -/
def decideEnter (index : RuleIndex) (ctx : Context) : Verdict :=
  .ofQuery enterKey .enter (Pairing.decideEnter index) ctx

/-- The verdict on the space bar. -/
def decideSpace (index : RuleIndex) (ctx : Context) : Verdict :=
  .ofQuery spaceKey .space (Pairing.decideSpace index) ctx

/-- The verdict on a key of a kind. -/
def decide (index : RuleIndex) (kind : KeyKind) (key : Text) (ctx : Context) : Verdict :=
  match kind with
  | .printable => index.decidePrintable key ctx
  | .backspace => index.decideBackspace ctx
  | .enter => index.decideEnter ctx
  | .space => index.decideSpace ctx

end RuleIndex

end Pairing
